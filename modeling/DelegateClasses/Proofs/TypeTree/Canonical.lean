import DelegateClasses.Proofs.TypeTree.Derivations
import DelegateClasses.TypeTree.Printer

/-! The written form of a tree is a canonical form. Main statement: trees that
are read are well formed, well-formed trees are read back from their written
form, and so two texts have the same tree exactly when their canonical texts are
equal. -/
namespace DelegateClasses.TypeTree
open Text

/-- The trees that types have: wildcards with one of the two words or none,
primitive types, and named types that are named like no primitive type. -/
inductive WellFormed : TypeTree → Prop where
  | anything : WellFormed anything
  | bounded (word : kind = "extends" ∨ kind = "super") (bound : WellFormed content) :
      WellFormed (bounded kind content)
  | primitive (listed : DottedName.isPrimitive written = true) :
      WellFormed (primitive written (count : Nat))
  | named (name : Name written.toList) (ordinary : DottedName.isPrimitive written = false)
      (each : ∀ argument ∈ given, WellFormed argument) :
      WellFormed (named written given (count : Nat))

theorem wellFormed_of_derives (derives : Derives written form) : WellFormed form.tree := by
  induction form generalizing written with
  | plain full count =>
    cases derives with
    | plain name ordinary suffixes =>
      rw [Form.tree]
      exact .named (by simpa using name) ordinary (by simp)
  | generic full given count ih =>
    obtain ⟨space, content, rear, rfl, name, ordinary, -, -, inside⟩ :=
      derives_generic_parts derives
    obtain ⟨-, pairs, -, rfl, types⟩ := splitArguments_of_derives inside
    rw [Form.tree, Form.trees_eq_map]
    refine .named (by simpa using name) ordinary fun argument member => ?_
    obtain ⟨form, among, rfl⟩ := List.mem_map.1 member
    obtain ⟨pair, listed, rfl⟩ := List.mem_map.1 among
    exact ih pair.2 among (types pair listed)
  | primitive word count =>
    cases derives with
    | primitive listed suffixes =>
      rw [Form.tree]
      exact .primitive listed
  | wildcard =>
    rw [Form.tree]
    exact .anything
  | bounded kind bound ih =>
    obtain ⟨space, between, content, rfl, word, -, -, -, -, type⟩ := derives_bounded_parts derives
    rw [Form.tree]
    exact .bounded word (ih type)

/-- Whatever is read is well formed. -/
theorem wellFormed_of_parse (read : parse descriptor = .ok tree) : WellFormed tree := by
  obtain ⟨form, derives, rfl⟩ := derives_of_parse read
  exact wellFormed_of_derives (derives_padded_iff.1 derives)

/-! ## Written forms -/

private theorem texts_eq_map (types : List TypeTree) : texts types = types.map text := by
  induction types with
  | nil => rfl
  | cons type types ih => rw [texts, ih, List.map_cons]

private theorem simple_chars : ∀ c ∈ (DottedName.simple full).toList, c ∈ full.toList := by
  intro c member
  rw [DottedName.simple, String.toList_ofList, DottedName.lastSegment, List.mem_reverse] at member
  exact List.mem_reverse.1 ((List.takeWhile_sublist _).mem member)

/-- No part of a name is taken for a wildcard. -/
theorem simple_ne_wildcard (name : Name full.toList) : DottedName.simple full ≠ wildcardName := by
  intro same
  have marked : '?' ∈ full.toList := simple_chars '?' (by rw [same]; decide)
  exact not_mark_of_name_char (name_chars name '?' marked) (by decide)

theorem text_anything : anything.text = wildcardName := by
  simp [anything, text]

theorem text_bounded : (bounded kind content).text = boundText kind content.text := by
  simp [bounded, text]

theorem text_primitive (listed : DottedName.isPrimitive written = true) :
    (primitive written count).text = applied written [] count := by
  have ordinary : written ≠ wildcardName := by
    rintro rfl
    cases listed
  simp [primitive, text, ordinary, texts]

theorem text_named (name : Name full.toList) :
    (named full given count).text = applied full (given.map text) count := by
  have nonempty : full ≠ "" := by
    rintro rfl
    exact name_ne_nil name rfl
  simp [named, text, simple_ne_wildcard name, nonempty, texts_eq_map]

/-! ## The written form of a tree derives from the grammar -/

private theorem suffixes_derive (count : Nat) : Suffixes count (suffixes count).toList := by
  rw [suffixes, Int.toNat_natCast]
  induction count with
  | zero => exact .none
  | succ count ih =>
    have more := Suffixes.more ih blanks_nil
    rw [List.append_nil] at more
    rwa [List.replicate_succ', String.join_append, String.toList_append]

private theorem arguments_derive (given : List TypeTree) (nonempty : given ≠ [])
    (each : ∀ argument ∈ given, ∃ form, form.tree = argument ∧ Derives argument.text.toList form)
    (gap : Blanks space) :
    ∃ forms, forms.map Form.tree = given ∧
      DerivesList (space ++ [',', ' '].intercalate (given.map (·.text.toList))) forms := by
  induction given generalizing space with
  | nil => exact absurd rfl nonempty
  | cons argument given ih =>
    obtain ⟨form, rfl, type⟩ := each argument (by simp)
    have padded := DerivesPadded.padded gap type blanks_nil
    rw [List.append_nil] at padded
    cases given with
    | nil => exact ⟨[form], rfl, by simpa using DerivesList.one padded⟩
    | cons next given =>
      obtain ⟨forms, rest, list⟩ := ih (by simp)
        (fun other member => each other (List.mem_cons_of_mem _ member)) blanks_space
      refine ⟨form :: forms, by rw [List.map_cons, rest], ?_⟩
      have all := DerivesList.more padded list
      simpa using all

/-- What stands around the name of a type derives from the grammar. -/
theorem named_derives (name : Name full.toList) (ordinary : DottedName.isPrimitive full = false)
    (each : ∀ argument ∈ given, ∃ form, form.tree = argument ∧ Derives argument.text.toList form) :
    ∃ form, form.tree = named full given count ∧
      Derives (applied full (given.map text) count).toList form := by
  have suffixes := suffixes_derive count
  cases given with
  | nil =>
    refine ⟨.plain full.toList count, by rw [Form.tree, String.ofList_toList], ?_⟩
    have derives := Derives.plain name (by rwa [String.ofList_toList]) suffixes
    simpa [applied] using derives
  | cons argument given =>
    obtain ⟨forms, trees, list⟩ := arguments_derive (argument :: given) (by simp) each blanks_nil
    refine ⟨.generic full.toList forms count, ?_, ?_⟩
    · rw [Form.tree, Form.trees_eq_map, trees, String.ofList_toList]
    · have derives := Derives.generic name (by rwa [String.ofList_toList]) blanks_nil list suffixes
      simpa [applied, Function.comp_def] using derives

theorem derives_of_wellFormed (wellFormed : WellFormed tree) :
    ∃ form, form.tree = tree ∧ Derives tree.text.toList form := by
  induction wellFormed with
  | anything => exact ⟨.wildcard, by rw [Form.tree], by rw [text_anything]; exact .wildcard⟩
  | @bounded kind content word wellFormed ih =>
    obtain ⟨form, rfl, type⟩ := ih
    refine ⟨.bounded kind form, by rw [Form.tree], ?_⟩
    have derives := Derives.bounded word blanks_space (by simp) blanks_space (by simp) type
    rw [text_bounded]
    simpa [boundText, wildcardName] using derives
  | @primitive written count listed =>
    refine ⟨.primitive written.toList count, by rw [Form.tree, String.ofList_toList], ?_⟩
    have derives := Derives.primitive (by rwa [String.ofList_toList]) (suffixes_derive count)
    rw [text_primitive listed]
    simpa [applied] using derives
  | named name ordinary each ih =>
    rw [text_named name]
    exact named_derives name ordinary ih

/-- A well-formed tree is read back from its written form. -/
theorem parse_of_text (wellFormed : WellFormed tree) : parse tree.text = .ok tree := by
  obtain ⟨form, rfl, derives⟩ := derives_of_wellFormed wellFormed
  have padded := DerivesPadded.padded blanks_nil derives blanks_nil
  rw [List.nil_append, List.append_nil] at padded
  exact parse_of_derives padded

/-- A name by itself is read as the type that it names. -/
theorem parse_name (name : Name full.toList) (ordinary : DottedName.isPrimitive full = false) :
    parse full = .ok (named full [] 0) := by
  have single : WellFormed (named full [] 0) := .named name ordinary (by simp)
  have written : (named full [] 0).text = full := by
    rw [text_named name]
    simp [applied, suffixes]
  rw [← parse_of_text single, written]

theorem suffixes_zero (suffixes : Suffixes 0 rear) : rear = [] := by
  cases suffixes
  rfl

/-- A primitive type is what is read from its word, and from no other. -/
theorem parse_primitive_iff (listed : DottedName.isPrimitive word = true) :
    parse descriptor = .ok (primitive word 0) ↔ trimmed descriptor = word := by
  constructor
  · intro read
    obtain ⟨form, padded, same⟩ := derives_of_parse read
    have derives := derives_padded_iff.1 padded
    cases form with
    | plain => simp [Form.tree, named, primitive] at same
    | generic => simp [Form.tree, named, primitive] at same
    | wildcard =>
      simp only [Form.tree, anything, primitive, mk.injEq] at same
      rw [← same.1] at listed
      exact absurd listed (by decide)
    | bounded => simp [Form.tree, bounded, primitive] at same
    | primitive written count =>
      obtain ⟨rfl, rfl⟩ := primitive_inj same
      generalize core : trim descriptor.toList = text at derives
      cases derives with
      | primitive _ suffixes =>
        rw [trimmed, core, suffixes_zero suffixes, List.append_nil]
  · rintro rfl
    have core : Derives (trim descriptor.toList ++ []) (.primitive (trim descriptor.toList) 0) :=
      .primitive listed .none
    rw [List.append_nil] at core
    exact parse_of_derives (derives_padded_iff.2 core)

/-- What stands before the first bracket of a text that starts with a name. -/
private theorem takeWhile_quiet (quiet : Quiet before) (rest : List Char) :
    (before ++ '<' :: rest).takeWhile (· != '<') = before ∧
      before.takeWhile (· != '<') = before := by
  have passed : ∀ c ∈ before, (c != '<') = true :=
    passed_of_not_mem fun member => quiet '<' member (by simp)
  rw [List.takeWhile_append_of_pos passed]
  exact ⟨by simp, takeWhile_of_all passed⟩

/-- Where no brackets are, nothing is cut off. -/
theorem withoutArguments_of_quiet (quiet : Quiet descriptor.toList) :
    withoutArguments descriptor = trimmed descriptor := by
  rw [withoutArguments, (takeWhile_quiet quiet []).2, trimmed]

/-- The text of a named type that is no array is its name once the arguments
are cut off. -/
theorem withoutArguments_of_parse (read : parse descriptor = .ok (named full given 0)) :
    withoutArguments descriptor = full := by
  obtain ⟨form, derives, same⟩ := derives_of_parse read
  generalize chars : descriptor.toList = text at derives
  cases derives with
  | @padded front core _ rear before type after =>
    rw [withoutArguments, chars]
    cases form with
    | plain written count =>
      obtain ⟨rfl, -, rfl⟩ := named_inj same
      cases type with
      | plain name ordinary suffixes =>
        rw [suffixes_zero suffixes, List.append_nil]
        have quiet := quiet_append (quiet_append (quiet_of_blanks before) (quiet_of_name name))
          (quiet_of_blanks after)
        rw [(takeWhile_quiet quiet []).2, trim_padded before (name_tight name) after]
    | generic written arguments count =>
      obtain ⟨rfl, -, -⟩ := named_inj same
      obtain ⟨space, content, brackets, rfl, name, -, gap, -⟩ := derives_generic_parts type
      have quiet := quiet_append (quiet_append (quiet_of_blanks before) (quiet_of_name name))
        (quiet_of_blanks gap)
      have shape : front ++ (written ++ space ++ '<' :: (content ++ ['>']) ++ brackets) ++ rear =
          front ++ written ++ space ++ '<' :: (content ++ ['>'] ++ brackets ++ rear) := by simp
      rw [shape, (takeWhile_quiet quiet _).1, trim_padded before (name_tight name) gap]
    | primitive => simp [Form.tree, named, primitive] at same
    | wildcard => simp [Form.tree, named, anything] at same
    | bounded => simp [Form.tree, named, bounded] at same

/-- Reading and writing are inverse on well-formed trees, so the written form of
what was read is canonical. -/
theorem parse_inverts_text :
    (∀ descriptor tree, parse descriptor = .ok tree → WellFormed tree) ∧
    (∀ tree, WellFormed tree → parse tree.text = .ok tree) ∧
    (∀ first second tree other, parse first = .ok tree → parse second = .ok other →
      (tree = other ↔ tree.text = other.text)) := by
  refine ⟨fun _ _ => wellFormed_of_parse, fun _ => parse_of_text, ?_⟩
  intro first second tree other read otherRead
  constructor
  · exact congrArg text
  · intro same
    have tree := parse_of_text (wellFormed_of_parse read)
    rw [same, parse_of_text (wellFormed_of_parse otherRead)] at tree
    exact Except.ok.inj tree.symm

/-- An array of maps with a bounded wildcard is read back, and two wildcards
that differ in blanks have one canonical text. -/
theorem map_and_wildcard_round_trip :
    let map := named "java.util.Map" [bounded "extends" (named "a.B" [] 0), primitive "int" 1] 1
    map.text = "java.util.Map<? extends a.B, int[]>[]" ∧ parse map.text = .ok map ∧
      ∃ tree other, parse " ? " = .ok tree ∧ parse "?" = .ok other ∧ WellFormed tree ∧
        tree.text = other.text := by
  intro map
  have padded : DerivesPadded ([' '] ++ ['?'] ++ [' ']) .wildcard :=
    .padded blanks_space .wildcard blanks_space
  have loose : parse " ? " = .ok Form.wildcard.tree := parse_of_derives padded
  have close : parse "?" = .ok anything := by cbv
  have mapName : Name "java.util.Map".toList := isTypeName_iff.1 (by decide +kernel)
  have boundName : Name "a.B".toList := isTypeName_iff.1 (by decide +kernel)
  have wellFormed : WellFormed map := by
    refine .named mapName (by decide) ?_
    simp only [List.forall_mem_cons, List.not_mem_nil, false_implies, implies_true, and_true]
    exact ⟨.bounded (.inl rfl) (.named boundName (by decide) (by simp)), .primitive (by decide)⟩
  have same := parse_inverts_text.2.2 " ? " "?" anything anything loose close
  exact ⟨by decide +kernel, parse_inverts_text.2.1 map wellFormed, anything, anything, loose, close,
    parse_inverts_text.1 " ? " anything loose, same.1 rfl⟩

end DelegateClasses.TypeTree
