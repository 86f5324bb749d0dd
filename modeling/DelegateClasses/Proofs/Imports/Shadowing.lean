import DelegateClasses.Proofs.Imports.Spelling

/-! Which types a file spells alike. Two dotted names never share a spelling: a
simple name belongs to one of them, and the other is written in full. A name
without a package has no longer form to fall back to, and a primitive type does
not take part in the claims at all; both are spelled like a dotted name that has
taken their word. Main statement: there is no other way for two types to be
spelled alike. -/
namespace DelegateClasses.Imports
open TypeTree

variable {used : List String} {full other word : String}

/-- A dotted name is the first of the names with a simple name, and is written by
it, although the same word stands for another type. -/
structure Shadows (used : List String) (full word : String) : Prop where
  dotted : DottedName.isQualified full = true
  first : firstNamed used word = some full

private theorem simple_of_firstNamed (found : firstNamed used word = some full) :
    DottedName.simple full = word := by
  simpa using List.find?_some found

/-- A shadowing name is written as the word that it shadows. -/
theorem shortened_of_shadows (shadows : Shadows used full word) :
    shortened (firstNamed used) full = word := by
  have simple := simple_of_firstNamed shadows.first
  rw [shortened, simple, if_pos shadows.first]

/-- A name that is shadowed is written as it is. -/
theorem shortened_shadowed (shadows : Shadows used full other) (different : full ≠ other) :
    shortened (firstNamed used) other = other := by
  have simple := simple_of_firstNamed shadows.first
  have plain : DottedName.isQualified other = false := by
    rw [← simple]
    exact DottedName.isQualified_simple full
  have lost : firstNamed used other ≠ some other := by
    rw [shadows.first]
    simpa using different
  rw [shortened, DottedName.simple_of_unqualified plain, if_neg lost]

/-- A name that is cut down to another word shadows it. -/
theorem shadows_of_shortened (owned : firstNamed used (DottedName.simple full) = some full)
    (cut : DottedName.simple full = word) (different : full ≠ word) : Shadows used full word := by
  refine ⟨?_, cut ▸ owned⟩
  rw [← Bool.not_eq_false]
  intro plain
  exact different ((DottedName.simple_of_unqualified plain).symm.trans cut)

/-- Two names are spelled alike only where one shadows the other. -/
theorem shortened_eq_iff (different : full ≠ other) :
    shortened (firstNamed used) full = shortened (firstNamed used) other ↔
      Shadows used full other ∨ Shadows used other full := by
  constructor
  · intro same
    by_cases owned : firstNamed used (DottedName.simple full) = some full
    · by_cases taken : firstNamed used (DottedName.simple other) = some other
      · rw [shortened, if_pos owned, shortened, if_pos taken] at same
        rw [same, taken] at owned
        exact absurd (Option.some.inj owned).symm different
      · rw [shortened, if_pos owned, shortened, if_neg taken] at same
        exact .inl (shadows_of_shortened owned same different)
    · by_cases taken : firstNamed used (DottedName.simple other) = some other
      · rw [shortened, if_neg owned, shortened, if_pos taken] at same
        exact .inr (shadows_of_shortened taken same.symm different.symm)
      · rw [shortened, if_neg owned, shortened, if_neg taken] at same
        exact absurd same different
  · rintro (shadows | shadows)
    · rw [shortened_of_shadows shadows, shortened_shadowed shadows different]
    · rw [shortened_of_shadows shadows, shortened_shadowed shadows different.symm]

/-- A name is spelled like a primitive type only where it shadows it. -/
theorem shortened_eq_primitive_iff (ordinary : DottedName.isPrimitive full = false)
    (primitive : DottedName.isPrimitive word = true) :
    shortened (firstNamed used) full = word ↔ Shadows used full word := by
  constructor
  · intro same
    have different : full ≠ word := by
      rintro rfl
      rw [ordinary] at primitive
      cases primitive
    by_cases owned : firstNamed used (DottedName.simple full) = some full
    · rw [shortened, if_pos owned] at same
      exact shadows_of_shortened owned same different
    · rw [shortened, if_neg owned] at same
      exact absurd same different
  · exact shortened_of_shadows

/-- Names that are not those of primitive types are read as the types they name. -/
theorem parse_names {words : List String}
    (accepted : words.all fun word => isTypeName word.toList && !DottedName.isPrimitive word) :
    words.mapM parse = .ok (words.map fun word => named word [] 0) := by
  refine mapM_of_each _ fun word member => ?_
  have each := List.all_eq_true.1 accepted word member
  simp only [Bool.and_eq_true, Bool.not_eq_true'] at each
  exact parse_name (isTypeName_iff.1 each.1) each.2

/-- Types that are rendered into a new file are spelled by the names that were the
first to use their simple names. -/
theorem renderAll_spelled (wellFormed : ∀ tree ∈ trees, WellFormed tree) :
    (renderAll scope trees .empty).1 =
      trees.map fun tree => (tree.rename (shortened (firstNamed (namesAll trees)))).text := by
  refine renderAll_texts wellFormed
    (fun tree member registry => render_text (wellFormed tree member)) ?_
  intro simple owner owned
  rwa [renderAll_registry fun tree member => render_registry (wellFormed tree member),
    Scope.owner?_useAll, Registry.owner?_empty, Option.none_or] at owned

/-- Types that are rendered one after the other into a new file are written with
every name spelled in one way throughout. Two different names share their
spelling exactly when one is dotted, was the first to use its simple name, and
the other is that simple name; a name and a primitive type share it exactly when
the name is dotted and was the first with the primitive type's word. -/
theorem spelled_alike_iff_shadowed (scope : Scope) {descriptors : List String}
    (read : descriptors.mapM parse = .ok trees) :
    let used := namesAll trees
    let spelling := shortened (firstNamed used)
    (∃ registry, renderTexts scope descriptors .empty =
      .ok (trees.map fun tree => (tree.rename spelling).text, registry)) ∧
    (∀ full ∈ used, ∀ other ∈ used, full ≠ other →
      (spelling full = spelling other ↔ Shadows used full other ∨ Shadows used other full)) ∧
    ∀ full ∈ used, ∀ word, DottedName.isPrimitive word = true →
      (spelling full = word ↔ Shadows used full word) := by
  intro used spelling
  have wellFormed := wellFormed_of_mapM read
  refine ⟨⟨(renderAll scope trees .empty).2, ?_⟩,
    fun full _ other _ different => shortened_eq_iff different, ?_⟩
  · rw [renderTexts_eq read, ← renderAll_spelled wellFormed]
  · intro full member word primitive
    simp only [used, namesAll_eq_flatMap] at member
    obtain ⟨tree, among, listed⟩ := List.mem_flatMap.1 member
    exact shortened_eq_primitive_iff (name_of_mem_names (wellFormed tree among) full listed).2
      primitive

/-- A type variable behind an import of its name is spelled like the import, and
a primitive type behind a class of its name like the class. -/
theorem variable_and_primitive_shadowed :
    let spelling := shortened (firstNamed ["a.T", "T", "a.int"])
    ["a.T", "T", "a.int"].mapM parse =
      .ok [named "a.T" [] 0, named "T" [] 0, named "a.int" [] 0] ∧
    spelling "a.T" = spelling "T" ∧ spelling "a.int" = "int" := by
  intro spelling
  have read : ["a.T", "T", "a.int"].mapM parse =
      .ok [named "a.T" [] 0, named "T" [] 0, named "a.int" [] 0] :=
    parse_names (by decide +kernel)
  have used : namesAll [named "a.T" [] 0, named "T" [] 0, named "a.int" [] 0] =
      ["a.T", "T", "a.int"] := by decide +kernel
  have shared := spelled_alike_iff_shadowed ⟨"c.d", defaultAvailable⟩ read
  simp only [used] at shared
  obtain ⟨-, names, primitives⟩ := shared
  refine ⟨read, (names "a.T" (by simp) "T" (by simp) (by decide)).2 (.inl ?_),
    (primitives "a.int" (by simp) "int" (by decide)).2 ?_⟩
  · exact ⟨by decide +kernel, by decide +kernel⟩
  · exact ⟨by decide +kernel, by decide +kernel⟩

/-- An import and a type variable are two types, and one word stands for both. -/
theorem import_and_variable_rendered_alike :
    ∃ registry, renderTexts ⟨"c.d", defaultAvailable⟩ ["a.T", "T"] .empty =
        .ok (["T", "T"], registry) ∧
      ["a.T", "T"].mapM parse = .ok [named "a.T" [] 0, named "T" [] 0] := by
  have read : ["a.T", "T"].mapM parse = .ok [named "a.T" [] 0, named "T" [] 0] :=
    parse_names (by decide +kernel)
  cases rendered : renderAll ⟨"c.d", defaultAvailable⟩
      [named "a.T" [] 0, named "T" [] 0] .empty with
  | mk texts registry =>
    have written : (texts, registry).1 = ["T", "T"] := by
      rw [← rendered]
      decide +kernel
    obtain rfl : texts = ["T", "T"] := written
    exact ⟨registry, by rw [renderTexts_eq read, rendered], read⟩

end DelegateClasses.Imports
