import DelegateClasses.Proofs.TypeTree.Brackets
import DelegateClasses.Proofs.TypeTree.Names

/-! The grammar of the written form of types, with the places where blanks may
stand. A derivation is given by its form, which is all of it but the blanks; it
tells an empty list of arguments from none, while the tree of a type does not. -/
namespace DelegateClasses.TypeTree
open Text

/-- A derivation of a type, without the blanks in it. -/
inductive Form where
  /-- A name without brackets. -/
  | plain (name : List Char) (dimensions : Nat)
  /-- A name with brackets, which may hold no arguments. -/
  | generic (name : List Char) (arguments : List Form) (dimensions : Nat)
  | primitive (name : List Char) (dimensions : Nat)
  | wildcard
  | bounded (kind : String) (bound : Form)

namespace Form

mutual

/-- The tree that a derivation stands for. -/
def tree : Form → TypeTree
  | plain name dimensions => .named (String.ofList name) [] dimensions
  | generic name arguments dimensions => .named (String.ofList name) (trees arguments) dimensions
  | primitive name dimensions => .primitive (String.ofList name) dimensions
  | wildcard => anything
  | bounded kind bound => .bounded kind (tree bound)

/-- The trees that several derivations stand for. -/
def trees : List Form → List TypeTree
  | [] => []
  | form :: forms => tree form :: trees forms

end

theorem trees_eq_map (forms : List Form) : trees forms = forms.map tree := by
  induction forms with
  | nil => rfl
  | cons form forms ih => rw [trees, ih, List.map_cons]

/-- Induction over derivations, with a hypothesis for each argument of a list. -/
@[elab_as_elim, induction_eliminator]
theorem induction {motive : Form → Prop}
    (plain : ∀ name dimensions, motive (.plain name dimensions))
    (generic : ∀ name arguments dimensions, (∀ argument ∈ arguments, motive argument) →
      motive (.generic name arguments dimensions))
    (primitive : ∀ name dimensions, motive (.primitive name dimensions))
    (wildcard : motive .wildcard)
    (bounded : ∀ kind bound, motive bound → motive (.bounded kind bound)) :
    ∀ form, motive form :=
  @Form.rec motive (fun forms => ∀ form ∈ forms, motive form) plain generic primitive wildcard
    bounded (by simp) fun _ _ first others _ member =>
      (List.mem_cons.1 member).elim (fun same => same ▸ first) (others _)

end Form

/-- Array suffixes, blanks allowed before each but not inside. -/
inductive Suffixes : Nat → List Char → Prop where
  | none : Suffixes 0 []
  | more (others : Suffixes count front) (gap : Blanks space) :
      Suffixes (count + 1) (front ++ space ++ ['[', ']'])

mutual

/-- `Type` of the grammar, without blanks around it. -/
inductive Derives : List Char → Form → Prop where
  | plain (name : Name written) (ordinary : DottedName.isPrimitive (String.ofList written) = false)
      (suffixes : Suffixes count rear) : Derives (written ++ rear) (.plain written count)
  | empty (name : Name written) (ordinary : DottedName.isPrimitive (String.ofList written) = false)
      (gap : Blanks space) (nothing : Blanks content) (suffixes : Suffixes count rear) :
      Derives (written ++ space ++ '<' :: (content ++ ['>']) ++ rear) (.generic written [] count)
  | generic (name : Name written)
      (ordinary : DottedName.isPrimitive (String.ofList written) = false)
      (gap : Blanks space) (list : DerivesList content given)
      (suffixes : Suffixes count rear) :
      Derives (written ++ space ++ '<' :: (content ++ ['>']) ++ rear)
        (.generic written given count)
  | primitive (name : DottedName.isPrimitive (String.ofList written) = true)
      (suffixes : Suffixes count rear) :
      Derives (written ++ rear) (.primitive written count)
  | wildcard : Derives ['?'] .wildcard
  | bounded (kind : word = "extends" ∨ word = "super") (gap : Blanks space) (apart : space ≠ [])
      (pause : Blanks rest) (distinct : rest ≠ []) (bound : Derives text form) :
      Derives ('?' :: (space ++ word.toList ++ rest ++ text)) (.bounded word form)

/-- `Type` with blanks around it. -/
inductive DerivesPadded : List Char → Form → Prop where
  | padded (before : Blanks front) (type : Derives text form) (after : Blanks rear) :
      DerivesPadded (front ++ text ++ rear) form

/-- `TypeArgList` of the grammar. -/
inductive DerivesList : List Char → List Form → Prop where
  | one (type : DerivesPadded text form) : DerivesList text [form]
  | more (type : DerivesPadded text form) (others : DerivesList rest forms) :
      DerivesList (text ++ ',' :: rest) (form :: forms)

end

/-- A list of arguments consists of the arguments with commas between them. -/
theorem derives_list_pairs (list : DerivesList text forms) :
    ∃ pairs : List (List Char × Form), pairs ≠ [] ∧ text = commaJoined (pairs.map Prod.fst) ∧
      forms = pairs.map Prod.snd ∧ ∀ pair ∈ pairs, DerivesPadded pair.1 pair.2 := by
  induction forms generalizing text with
  | nil => cases list
  | cons form forms ih =>
    cases list with
    | one type => exact ⟨[(text, form)], by simp, rfl, rfl, by simpa using type⟩
    | @more first _ rest _ type others =>
      obtain ⟨pairs, nonempty, rfl, rfl, each⟩ := ih others
      refine ⟨(first, form) :: pairs, by simp, ?_, rfl, List.forall_mem_cons.2 ⟨type, each⟩⟩
      cases pairs with
      | nil => exact absurd rfl nonempty
      | cons next pairs => rfl

/-- The two rules for a name with brackets, as one. -/
theorem derives_generic_parts (derives : Derives text (.generic written given count)) :
    ∃ space content rear, text = written ++ space ++ '<' :: (content ++ ['>']) ++ rear ∧
      Name written ∧ DottedName.isPrimitive (String.ofList written) = false ∧ Blanks space ∧
      Suffixes count rear ∧
      ((given = [] ∧ Blanks content) ∨ DerivesList content given) := by
  cases derives with
  | empty name ordinary gap nothing suffixes =>
    exact ⟨_, _, _, rfl, name, ordinary, gap, suffixes, .inl ⟨rfl, nothing⟩⟩
  | generic name ordinary gap list suffixes =>
    exact ⟨_, _, _, rfl, name, ordinary, gap, suffixes, .inr list⟩

/-- The rule for a wildcard with a bound, read backwards. -/
theorem derives_bounded_parts (derives : Derives text (.bounded kind form)) :
    ∃ space between content, text = '?' :: (space ++ kind.toList ++ between ++ content) ∧
      (kind = "extends" ∨ kind = "super") ∧ Blanks space ∧ space ≠ [] ∧ Blanks between ∧
      between ≠ [] ∧ Derives content form := by
  cases derives with
  | bounded word gap apart pause distinct type =>
    exact ⟨_, _, _, rfl, word, gap, apart, pause, distinct, type⟩

/-! ## What a derived text looks like from outside -/

/-- The text of a type as the readers of brackets see it: solid at both ends,
with its own brackets closed and its own commas inside of them. -/
structure Compact (text : List Char) : Prop where
  nonempty : text ≠ []
  tight : Tight text
  balanced : Balanced text
  undivided : Undivided 0 text

/-- A text without brackets and commas. -/
def Quiet (text : List Char) : Prop :=
  ∀ c ∈ text, c ∉ ['<', '>', ',']

private theorem separators_are_marks : ∀ c ∈ ['<', '>', ','], c ∈ marks := by
  simp [marks]

theorem quiet_append (first : Quiet front) (second : Quiet rear) : Quiet (front ++ rear) :=
  fun c member => (List.mem_append.1 member).elim (first c) (second c)

theorem balanced_of_quiet (quiet : Quiet text) : Balanced text :=
  depthAfter_plain fun c member => by
    have silent := quiet c member
    simp only [List.mem_cons, List.not_mem_nil, or_false, not_or] at silent
    exact ⟨silent.1, silent.2.1⟩

private theorem undivided_of_quiet (quiet : Quiet text) : Undivided depth text :=
  undivided_of_no_comma fun c member => by
    have silent := quiet c member
    simp only [List.mem_cons, List.not_mem_nil, or_false, not_or] at silent
    exact silent.2.2

theorem quiet_of_blanks (blanks : Blanks text) : Quiet text := by
  intro c member marked
  refine not_mark_of_blank (blanks c member) ?_
  exact separators_are_marks c marked

theorem quiet_of_name (name : Name text) : Quiet text := by
  intro c member marked
  refine not_mark_of_name_char (name_chars name c member) ?_
  exact separators_are_marks c marked

theorem quiet_of_suffixes (suffixes : Suffixes count text) : Quiet text := by
  induction suffixes with
  | none => simp [Quiet]
  | more others gap ih =>
    exact quiet_append (quiet_append ih (quiet_of_blanks gap)) (by simp [Quiet])

theorem quiet_of_bound_word (word : kind = "extends" ∨ kind = "super") : Quiet kind.toList := by
  rcases word with rfl | rfl <;> simp [Quiet]

private theorem tight_mark : Tight ['?'] :=
  ⟨by simp; decide, by simp; decide⟩

theorem suffixes_last (suffixes : Suffixes count text) :
    text = [] ∨ text.getLast? = some ']' := by
  cases suffixes with
  | none => exact .inl rfl
  | more others gap => simp

private theorem tight_suffixed (nonempty : base ≠ []) (tight : Tight base)
    (suffixes : Suffixes count rear) : Tight (base ++ rear) := by
  refine tight_append nonempty tight fun c found => ?_
  rcases suffixes_last suffixes with rfl | last
  · cases found
  · rw [last] at found
    cases found
    decide

private theorem compact_suffixed (base : Compact text) (suffixes : Suffixes count rear) :
    Compact (text ++ rear) where
  nonempty := by simp [base.nonempty]
  tight := tight_suffixed base.nonempty base.tight suffixes
  balanced := balanced_append base.balanced (balanced_of_quiet (quiet_of_suffixes suffixes))
  undivided := undivided_append base.undivided
    fun _ _ => undivided_of_quiet (quiet_of_suffixes suffixes)

private theorem compact_name (name : Name text) : Compact text where
  nonempty := name_ne_nil name
  tight := name_tight name
  balanced := balanced_of_quiet (quiet_of_name name)
  undivided := undivided_of_quiet (quiet_of_name name)

theorem compact_group (name : Name written) (gap : Blanks space) (inside : Balanced content) :
    Compact (written ++ space ++ '<' :: (content ++ ['>'])) where
  nonempty := by simp
  tight := by
    rw [List.append_assoc]
    refine tight_append (name_ne_nil name) (name_tight name) fun c found => ?_
    have closing : c = '>' := by simpa [List.getLast?_cons] using found.symm
    subst closing
    decide
  balanced := balanced_append
    (balanced_of_quiet (quiet_append (quiet_of_name name) (quiet_of_blanks gap)))
    (balanced_group inside)
  undivided := undivided_append
    (undivided_of_quiet (quiet_append (quiet_of_name name) (quiet_of_blanks gap)))
    fun _ _ => undivided_group inside

theorem balanced_commaJoined (parts : List (List Char)) (each : ∀ part ∈ parts, Balanced part) :
    Balanced (commaJoined parts) := by
  induction parts with
  | nil => rfl
  | cons part others ih =>
    have rest := ih fun other member => each other (List.mem_cons_of_mem _ member)
    cases others with
    | nil => exact each part (by simp)
    | cons next others =>
      have comma : Balanced [','] := rfl
      exact balanced_append (each part (by simp)) (balanced_append comma rest)

/-- Blanks around an argument do not change what the readers of brackets see. -/
theorem compact_padded (core : Compact text) (before : Blanks front) (after : Blanks rear) :
    Balanced (front ++ text ++ rear) ∧ Undivided 0 (front ++ text ++ rear) ∧
      trim (front ++ text ++ rear) = text := by
  have opening := quiet_of_blanks before
  have closing := quiet_of_blanks after
  refine ⟨?_, ?_, trim_padded before core.tight after⟩
  · exact balanced_append (balanced_append (balanced_of_quiet opening) core.balanced)
      (balanced_of_quiet closing)
  · refine undivided_append (undivided_append (undivided_of_quiet opening) ?_)
      fun _ _ => undivided_of_quiet closing
    intro depth counted
    rw [depthAfter_of_balanced (balanced_of_quiet opening)] at counted
    cases counted
    exact core.undivided

theorem padded_argument (compact : ∀ core, Derives core form → Compact core)
    (padded : DerivesPadded text form) :
    Balanced text ∧ Undivided 0 text ∧ trim text ≠ [] ∧ Derives (trim text) form := by
  cases padded with
  | @padded front core _ rear before type after =>
    have content := compact core type
    obtain ⟨balanced, undivided, same⟩ := compact_padded content before after
    rw [same]
    exact ⟨balanced, undivided, content.nonempty, type⟩

/-- A bound that is compact stays so behind the question mark and the word. -/
private theorem compact_bounded {kind : String} {space pause : List Char}
    (word : kind = "extends" ∨ kind = "super") (gap : Blanks space) (rest : Blanks pause)
    (content : Compact text) : Compact ('?' :: (space ++ kind.toList ++ pause ++ text)) := by
  have mark : Quiet ['?'] := by simp [Quiet]
  have quiet : Quiet (['?'] ++ (space ++ kind.toList ++ pause)) :=
    quiet_append mark (quiet_append (quiet_append (quiet_of_blanks gap)
      (quiet_of_bound_word word)) (quiet_of_blanks rest))
  have shape : '?' :: (space ++ kind.toList ++ pause ++ text) =
      ['?'] ++ (space ++ kind.toList ++ pause) ++ text := by simp
  rw [shape]
  refine ⟨by simp, ?_, ?_, ?_⟩
  · rw [List.append_assoc]
    refine tight_append (by simp) tight_mark fun c found => ?_
    rw [List.getLast?_append] at found
    cases ending : text.getLast? with
    | none => exact absurd (List.getLast?_eq_none_iff.1 ending) content.nonempty
    | some d =>
      rw [ending, Option.some_or] at found
      exact content.tight.last c (ending.trans found)
  · exact balanced_append (balanced_of_quiet quiet) content.balanced
  · refine undivided_append (undivided_of_quiet quiet) fun depth counted => ?_
    rw [depthAfter_of_balanced (balanced_of_quiet quiet)] at counted
    cases counted
    exact content.undivided

/-- Every text that derives from the grammar is compact. -/
theorem compact_of_derives (derives : Derives text form) : Compact text := by
  induction form generalizing text with
  | plain name dimensions =>
    cases derives with
    | plain name ordinary suffixes => exact compact_suffixed (compact_name name) suffixes
  | primitive name dimensions =>
    cases derives with
    | primitive listed suffixes =>
      exact compact_suffixed (compact_name (name_of_isPrimitive listed)) suffixes
  | generic name arguments dimensions ih =>
    obtain ⟨space, content, rear, rfl, named, -, gap, suffixes, inside⟩ :=
      derives_generic_parts derives
    refine compact_suffixed (compact_group named gap ?_) suffixes
    rcases inside with ⟨-, blanks⟩ | list
    · exact balanced_of_quiet (quiet_of_blanks blanks)
    · obtain ⟨pairs, -, rfl, rfl, each⟩ := derives_list_pairs list
      refine balanced_commaJoined _ fun part member => ?_
      obtain ⟨pair, among, rfl⟩ := List.mem_map.1 member
      exact (padded_argument (fun core type => ih pair.2 (List.mem_map_of_mem among) type)
        (each pair among)).1
  | wildcard =>
    cases derives
    exact ⟨by simp, tight_mark, rfl, undivided_of_no_comma (by simp)⟩
  | bounded kind bound ih =>
    cases derives with
    | bounded word gap apart rest distinct type => exact compact_bounded word gap rest (ih type)

end DelegateClasses.TypeTree
