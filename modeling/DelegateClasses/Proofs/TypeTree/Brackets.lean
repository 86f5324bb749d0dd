import DelegateClasses.Proofs.Text.Trimming
import DelegateClasses.TypeTree.Brackets

/-! The three readers of brackets agree on one count of open brackets: the
check of a whole text, the backward search for the start of its last group, and
the cutting of a group at its outer commas. Main statements: the check accepts
exactly the balanced texts, and cutting undoes joining by commas. -/
namespace DelegateClasses.TypeTree
open Text

/-- How many brackets are open after a text, given how many are open before it.
There is no answer when the text closes a bracket that is not open. -/
def depthAfter : Nat → List Char → Option Nat
  | depth, [] => some depth
  | depth, c :: rest =>
    if c = '<' then depthAfter (depth + 1) rest
    else if c = '>' then match depth with
      | 0 => none
      | outer + 1 => depthAfter outer rest
    else depthAfter depth rest

/-- Every bracket of the text is closed, and none is closed before it is open. -/
def Balanced (text : List Char) : Prop :=
  depthAfter 0 text = some 0

/-- No comma of the text stands outside of all brackets, `depth` of which are
open before the text. -/
def Undivided (depth : Nat) (text : List Char) : Prop :=
  ∀ before after, text = before ++ ',' :: after → depthAfter depth before ≠ some 0

theorem depthAfter_append (depth : Nat) (first second : List Char) :
    depthAfter depth (first ++ second) = (depthAfter depth first).bind (depthAfter · second) := by
  fun_induction depthAfter depth first with
  | case1 => rfl
  | case2 depth rest ih => simpa [depthAfter] using ih
  | case3 => simp [depthAfter]
  | case4 rest outer different ih => simpa [depthAfter] using ih
  | case5 depth c rest noOpening noClosing ih =>
    simpa [depthAfter, noOpening, noClosing] using ih

/-- Brackets that are open around a text do not matter to it. -/
theorem depthAfter_lift (counted : depthAfter depth text = some final) (outer : Nat) :
    depthAfter (depth + outer) text = some (final + outer) := by
  fun_induction depthAfter depth text with
  | case1 => cases counted; rfl
  | case2 depth rest ih =>
    have content := ih counted
    rw [Nat.add_right_comm] at content
    simpa [depthAfter] using content
  | case3 => cases counted
  | case4 rest below different ih =>
    rw [Nat.succ_add]
    simpa [depthAfter] using ih counted
  | case5 depth c rest noOpening noClosing ih =>
    simpa [depthAfter, noOpening, noClosing] using ih counted

theorem depthAfter_of_balanced (balanced : Balanced text) (depth : Nat) :
    depthAfter depth text = some depth := by
  simpa using depthAfter_lift balanced depth

theorem depthAfter_plain (plain : ∀ c ∈ text, c ≠ '<' ∧ c ≠ '>') :
    depthAfter depth text = some depth := by
  induction text with
  | nil => rfl
  | cons c rest ih =>
    obtain ⟨noOpening, noClosing⟩ := plain c (by simp)
    simpa [depthAfter, noOpening, noClosing] using ih fun d member => plain d (by simp [member])

theorem balanced_append (first : Balanced front) (second : Balanced rear) :
    Balanced (front ++ rear) := by
  rw [Balanced, depthAfter_append, first]
  exact second

/-- Brackets around a balanced text leave it balanced. -/
theorem balanced_group (inside : Balanced content) : Balanced ('<' :: content ++ ['>']) := by
  have counted := depthAfter_of_balanced inside 1
  simp [Balanced, depthAfter, depthAfter_append, counted]

theorem undivided_of_no_comma (free : ∀ c ∈ text, c ≠ ',') : Undivided depth text := by
  intro before after shape
  exact absurd rfl (free ',' (by simp [shape]))

/-- A comma in a joined text stands in one of the two, or in what follows it. -/
theorem undivided_append (first : Undivided depth front)
    (second : ∀ middle, depthAfter depth front = some middle → Undivided middle rear) :
    Undivided depth (front ++ rear) := by
  intro before after shape
  rcases List.append_eq_append_iff.1 shape with ⟨between, rfl, within⟩ | ⟨between, within, follows⟩
  · rw [depthAfter_append]
    cases counted : depthAfter depth front with
    | none => simp
    | some middle => exact second middle counted between after within
  · cases between with
    | nil =>
      rw [List.append_nil] at within
      subst within
      intro outside
      exact second 0 outside [] after (by simpa using follows.symm) rfl
    | cons c between =>
      obtain ⟨rfl, -⟩ := List.cons.inj (by simpa using follows)
      exact first before between within

/-- Inside of brackets a comma does not divide. -/
theorem undivided_inside (inside : Balanced content) : Undivided (depth + 1) content := by
  intro before after shape outside
  have counted : (depthAfter 0 before).bind (depthAfter · (',' :: after)) = some 0 := by
    rw [← depthAfter_append, ← shape]
    exact inside
  obtain ⟨own, reached, -⟩ := Option.bind_eq_some_iff.1 counted
  have lifted := depthAfter_lift reached (depth + 1)
  rw [Nat.zero_add, outside] at lifted
  cases lifted

theorem undivided_group (inside : Balanced content) :
    Undivided depth ('<' :: content ++ ['>']) := by
  have opening : Undivided depth ['<'] := undivided_of_no_comma (by simp)
  have closing : ∀ {level}, Undivided level ['>'] := undivided_of_no_comma (by simp)
  refine undivided_append (undivided_append opening ?_) fun _ _ => closing
  intro level counted
  cases counted
  exact undivided_inside inside

/-! ## The check of a whole text -/

theorem checkBrackets_eq_ok_iff :
    checkBrackets seen opened text = .ok () ↔ depthAfter opened.length text = some 0 := by
  fun_induction checkBrackets seen opened text with
  | case1 seen opened closed => simp [depthAfter, List.getLast?_eq_none_iff.1 closed]
  | case2 seen opened rest unclosed =>
    have nonempty : opened ≠ [] := by
      rintro rfl
      cases unclosed
    simpa [depthAfter] using nonempty
  | case3 seen opened rest ih => simpa [depthAfter] using ih
  | case4 seen rest different => simp [depthAfter]
  | case5 seen rest different top outer ih => simpa [depthAfter] using ih
  | case6 seen opened c rest noOpening noClosing ih =>
    simpa [depthAfter, noOpening, noClosing] using ih

/-- The check accepts exactly the balanced texts. -/
theorem checkBalance_eq_ok_iff : checkBalance text = .ok () ↔ Balanced text :=
  checkBrackets_eq_ok_iff

/-! ## The last group of a text -/

/-- Reading backwards over a text undoes its count of brackets: the search never
stops inside of it. -/
theorem openingBracket_reverse (counted : depthAfter start text = some final) (rest : List Char) :
    openingBracket (level + final) content (text.reverse ++ rest) =
      openingBracket (level + start) (text ++ content) rest := by
  induction text generalizing start rest with
  | nil => cases counted; rfl
  | cons c text ih =>
    rw [List.reverse_cons, List.append_assoc]
    by_cases opening : c = '<'
    · subst opening
      have step := ih (by simpa [depthAfter] using counted) (['<'] ++ rest)
      rw [step, ← Nat.add_assoc]
      simp [openingBracket]
    · by_cases closing : c = '>'
      · subst closing
        cases start with
        | zero => simp [depthAfter] at counted
        | succ outer =>
          have step := ih (by simpa [depthAfter] using counted) (['>'] ++ rest)
          rw [step, ← Nat.add_assoc]
          simp [openingBracket]
      · have step := ih (by simpa [depthAfter, opening, closing] using counted) ([c] ++ rest)
        rw [step]
        simp [openingBracket, opening, closing]

/-- A balanced text in brackets is found again as the last group. -/
theorem splitLastGroup_group (inside : Balanced content) (before : List Char) :
    splitLastGroup (before ++ '<' :: (content ++ ['>'])) = some (before, content) := by
  have found : openingBracket 0 [] (content.reverse ++ '<' :: before.reverse) =
      some (before, content) := by
    rw [← Nat.add_zero 0, openingBracket_reverse inside]
    simp [openingBracket]
  simpa [splitLastGroup] using found

private theorem openingBracket_eq_some
    (found : openingBracket depth content text = some (before, group)) :
    text.reverse ++ content = before ++ '<' :: group := by
  fun_induction openingBracket depth content text with
  | case1 => cases found
  | case2 depth content rest ih => simpa using ih found
  | case3 content rest different => cases found; simp
  | case4 content rest different outer ih => simpa using ih found
  | case5 depth content c rest noClosing noOpening ih => simpa using ih found

/-- The last group is cut out of the text as it stands. -/
theorem splitLastGroup_eq_some (closed : text.getLast? = some '>')
    (found : splitLastGroup text = some (before, content)) :
    text = before ++ '<' :: (content ++ ['>']) := by
  obtain ⟨shorter, rfl⟩ := List.getLast?_eq_some_iff.1 closed
  have shape := openingBracket_eq_some (by simpa [splitLastGroup] using found)
  rw [List.append_nil, List.reverse_reverse] at shape
  rw [shape]
  simp

/-! ## The pieces between outer commas -/

/-- Texts with a comma between each two of them. -/
def commaJoined : List (List Char) → List Char
  | [] => []
  | [part] => part
  | part :: next :: others => part ++ ',' :: commaJoined (next :: others)

/-- A part of a group that no outer comma divides is read as one. -/
theorem pieces_undivided (counted : depthAfter depth part = some final)
    (undivided : Undivided depth part) (piece seen rest : List Char) :
    pieces depth piece seen (part ++ rest) =
      pieces final (part.reverse ++ piece) (part.reverse ++ seen) rest := by
  induction part generalizing depth piece seen with
  | nil => cases counted; rfl
  | cons c part ih =>
    have later : ∀ {level}, depthAfter depth [c] = some level → Undivided level part := by
      intro level reached before after shape outside
      refine undivided (c :: before) after (by rw [shape]; rfl) ?_
      rw [← List.singleton_append, depthAfter_append, reached]
      exact outside
    rw [List.cons_append, List.reverse_cons, List.append_assoc, List.append_assoc]
    by_cases opening : c = '<'
    · subst opening
      simpa [pieces] using
        ih (by simpa [depthAfter] using counted) (later (by simp [depthAfter])) _ _
    · by_cases closing : c = '>'
      · subst closing
        cases depth with
        | zero => simp [depthAfter] at counted
        | succ outer =>
          simpa [pieces] using
            ih (by simpa [depthAfter] using counted) (later (by simp [depthAfter])) _ _
      · have inside : ¬(c = ',' ∧ depth = 0) := by
          rintro ⟨rfl, rfl⟩
          exact undivided [] part rfl rfl
        have same : depthAfter depth [c] = some depth := by simp [depthAfter, opening, closing]
        simpa [pieces, opening, closing, inside] using
          ih (by simpa [depthAfter, opening, closing] using counted) (later same) _ _

theorem pieces_commaJoined (parts : List (List Char)) (nonempty : parts ≠ [])
    (balanced : ∀ part ∈ parts, Balanced part) (undivided : ∀ part ∈ parts, Undivided 0 part)
    (seen : List Char) :
    pieces 0 [] seen (commaJoined parts) = .ok (parts.map trim) := by
  induction parts generalizing seen with
  | nil => exact absurd rfl nonempty
  | cons part others ih =>
    have whole := balanced part (by simp)
    have single := undivided part (by simp)
    cases others with
    | nil =>
      have step := pieces_undivided whole single [] seen []
      rw [List.append_nil] at step
      simp [commaJoined, step, pieces]
    | cons next others =>
      have rest := ih (by simp)
        (fun other member => balanced other (List.mem_cons_of_mem _ member))
        (fun other member => undivided other (List.mem_cons_of_mem _ member))
        (',' :: (part.reverse ++ seen))
      rw [commaJoined, pieces_undivided whole single]
      simp [pieces, rest, Except.map]

/-- Cutting undoes joining, up to the blanks around each argument. -/
theorem splitArguments_commaJoined (parts : List (List Char)) (nonempty : parts ≠ [])
    (balanced : ∀ part ∈ parts, Balanced part) (undivided : ∀ part ∈ parts, Undivided 0 part)
    (solid : ∀ part ∈ parts, trim part ≠ []) :
    splitArguments (commaJoined parts) = .ok (parts.map trim) := by
  have visible : (commaJoined parts).all isBlank ≠ true := by
    rw [ne_eq, ← blanks_iff_all]
    intro blanks
    cases parts with
    | nil => exact nonempty rfl
    | cons part others =>
      refine solid part (by simp) (trim_eq_nil_iff.2 fun c member => blanks c ?_)
      cases others <;> simp [commaJoined, member]
  have kept : (parts.map trim).any List.isEmpty ≠ true := by
    simpa using solid
  rw [splitArguments, if_neg visible, pieces_commaJoined parts nonempty balanced undivided]
  simp only [if_neg kept]

/-- A character that is no outer comma divides nothing. -/
theorem undivided_cons (step : ∀ rest, depthAfter depth (c :: rest) = depthAfter level rest)
    (inside : ¬(c = ',' ∧ depth = 0)) (rest : Undivided level text) :
    Undivided depth (c :: text) := by
  intro before after shape
  cases before with
  | nil =>
    obtain ⟨rfl, -⟩ := List.cons.inj shape
    exact fun outside => inside ⟨rfl, Option.some.inj outside⟩
  | cons d before =>
    obtain ⟨rfl, behind⟩ := List.cons.inj shape
    rw [step]
    exact rest before after behind

/-- What the pieces are pieces of: the first one goes on with what was read before, and each
is balanced in the end and has no outer comma. -/
theorem pieces_eq_ok (cut : pieces depth piece seen text = .ok found) :
    ∃ part others, text = commaJoined (part :: others) ∧
      found = trim (piece.reverse ++ part) :: others.map trim ∧
      depthAfter depth part = some 0 ∧ Undivided depth part ∧
      ∀ other ∈ others, Balanced other ∧ Undivided 0 other := by
  induction text generalizing depth piece seen found with
  | nil =>
    unfold pieces at cut
    split at cut
    · next closed =>
      cases cut
      subst closed
      exact ⟨[], [], rfl, by simp, rfl, undivided_of_no_comma (by simp), by simp⟩
    · cases cut
  | cons c rest ih =>
    have grown : ∀ {level}, pieces level (c :: piece) (c :: seen) rest = .ok found →
        (∀ behind, depthAfter depth (c :: behind) = depthAfter level behind) →
        ¬(c = ',' ∧ depth = 0) →
        ∃ part others, c :: rest = commaJoined (part :: others) ∧
          found = trim (piece.reverse ++ part) :: others.map trim ∧
          depthAfter depth part = some 0 ∧ Undivided depth part ∧
          ∀ other ∈ others, Balanced other ∧ Undivided 0 other := by
      intro level later step inside
      obtain ⟨part, others, rfl, rfl, closed, single, all⟩ := ih later
      refine ⟨c :: part, others, ?_, by simp, ?_, undivided_cons step inside single, all⟩
      · cases others <;> rfl
      · rw [step, closed]
    unfold pieces at cut
    split at cut
    · next opening =>
      exact grown cut (fun behind => by simp [depthAfter, opening]) (by simp [opening])
    · split at cut
      · next closing =>
        split at cut
        · cases cut
        · exact grown cut (fun behind => by simp [depthAfter, closing]) (by simp)
      · next noOpening noClosing =>
        split at cut
        · next divides =>
          obtain ⟨rfl, rfl⟩ := divides
          cases remaining : pieces 0 [] (',' :: seen) rest with
          | error fault => rw [remaining] at cut; cases cut
          | ok parts =>
            rw [remaining] at cut
            cases cut
            obtain ⟨part, others, rfl, rfl, closed, single, all⟩ := ih remaining
            exact ⟨[], part :: others, rfl, by simp, rfl, undivided_of_no_comma (by simp),
              List.forall_mem_cons.2 ⟨⟨closed, single⟩, all⟩⟩
        · next inside =>
          exact grown cut (fun behind => by simp [depthAfter, noOpening, noClosing]) inside

/-- What a group is cut into is the group again when joined, up to blanks. -/
theorem splitArguments_eq_ok (cut : splitArguments text = .ok found) :
    (Blanks text ∧ found = []) ∨
      ∃ parts, parts ≠ [] ∧ text = commaJoined parts ∧ found = parts.map trim := by
  unfold splitArguments at cut
  split at cut
  · next blank =>
    cases cut
    exact .inl ⟨blanks_iff_all.2 blank, rfl⟩
  · split at cut
    · cases cut
    · next parts pieced =>
      split at cut
      · cases cut
      · cases cut
        obtain ⟨part, others, shape, rfl, -⟩ := pieces_eq_ok pieced
        exact .inr ⟨part :: others, by simp, shape, by simp⟩

end DelegateClasses.TypeTree
