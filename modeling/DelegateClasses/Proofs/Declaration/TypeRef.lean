import DelegateClasses.Declaration.TypeRef
import DelegateClasses.Proofs.DottedName
import DelegateClasses.Proofs.TypeTree.Canonical

/-! What the written form of a type tells without being read. A reference cuts it at its
first bracket and its last dot; the reader takes it apart from the outside, pairs the
brackets and tests every name. Main statement: of a type that can be read and is neither
an array nor a wildcard, both tell the same name and the same package. -/
namespace DelegateClasses

namespace TypeTree

/-- A type that is neither a wildcard nor an array is primitive or named. -/
theorem primitive_or_named (wellFormed : WellFormed tree) (ordinary : tree.isWildcard = false)
    (flat : tree.dimensions = 0) :
    (∃ word, DottedName.isPrimitive word = true ∧ tree = primitive word 0) ∨
      ∃ full given, Name full.toList ∧ tree = named full given 0 := by
  cases wellFormed with
  | anything => cases ordinary
  | bounded word bound => cases ordinary
  | @primitive word count listed =>
    obtain rfl : count = 0 := Int.ofNat_eq_zero.1 flat
    exact .inl ⟨word, listed, rfl⟩
  | @named full given count name =>
    obtain rfl : count = 0 := Int.ofNat_eq_zero.1 flat
    exact .inr ⟨full, given, name, rfl⟩

/-- The package of a name has a name itself. -/
theorem package_ne_empty (name : Name full.toList)
    (owned : DottedName.package? full = some place) : place ≠ "" := by
  rintro rfl
  obtain ⟨rest, -, shape⟩ := DottedName.package?_eq_some.1 owned
  exact name_head? name (by rw [shape]; rfl)

/-- An empty package of a named type stands for none. -/
theorem package?_of_named (name : Name full.toList) :
    DottedName.package? full =
      if (named full given count).package = "" then none
      else some (named full given count).package := by
  cases owned : DottedName.package? full with
  | none => simp [named, package, owned]
  | some place => simp [named, package, owned, package_ne_empty name owned]

end TypeTree

namespace TypeRef
open TypeTree

variable {type : TypeRef} {word : String}

/-- A reference is one to a primitive type if it is read as such. -/
theorem isPrimitive_iff : type.isPrimitive = true ↔
    ∃ word, DottedName.isPrimitive word = true ∧ type.parse = .ok (primitive word 0) := by
  constructor
  · intro listed
    exact ⟨_, listed, (parse_primitive_iff listed).2 rfl⟩
  · rintro ⟨word, listed, read⟩
    rwa [isPrimitive, (parse_primitive_iff listed).1 read]

/-- Nothing is cut off the word of a primitive type. -/
theorem qualifiedName_of_primitive (listed : DottedName.isPrimitive word = true)
    (read : type.parse = .ok (primitive word 0)) : type.qualifiedName = word := by
  have core : Text.trimmed type.descriptor = word := (parse_primitive_iff listed).1 read
  have solid : Quiet (Text.trim type.descriptor.toList) := by
    rw [← core] at listed
    exact quiet_of_name (name_of_isPrimitive listed)
  obtain ⟨front, rear, before, after, shape⟩ := Text.exists_padding type.descriptor.toList
  have quiet : Quiet type.descriptor.toList := by
    rw [shape]
    exact quiet_append (quiet_append (quiet_of_blanks before) solid) (quiet_of_blanks after)
  rw [qualifiedName, withoutArguments_of_quiet quiet, core]

/-- **A reference tells what the reader finds.** Of a type that is read and is neither a
wildcard nor an array, the reference gives the qualified name, or the word of a primitive
type, which are the only ones without a qualified name; it gives the simple name, and the
package unless it is empty, in which case there is none; and it is one to a primitive type
exactly if what is read has no qualified name. -/
theorem reference_agrees_with_reading {tree : TypeTree} (read : type.parse = .ok tree)
    (ordinary : tree.isWildcard = false) (flat : tree.dimensions = 0) :
    (∀ full, tree.qualified = some full → type.qualifiedName = full) ∧
    (tree.qualified = none →
      DottedName.isPrimitive tree.name = true ∧ type.qualifiedName = tree.name) ∧
    type.simpleName = tree.name ∧
    type.package? = (if tree.package = "" then none else some tree.package) ∧
    (type.isPrimitive = true ↔ tree.qualified = none) := by
  rcases primitive_or_named (wellFormed_of_parse read) ordinary flat with
    ⟨word, listed, rfl⟩ | ⟨full, given, name, rfl⟩
  · have whole : type.qualifiedName = word := qualifiedName_of_primitive listed read
    have bare := DottedName.isQualified_of_isPrimitive listed
    refine ⟨by simp [primitive], fun _ => ⟨listed, whole⟩, ?_, ?_, ?_⟩
    · rw [simpleName, whole, DottedName.simple_of_unqualified bare]
      rfl
    · rw [package?, whole, DottedName.package?, bare]
      rfl
    · exact iff_of_true (isPrimitive_iff.2 ⟨word, listed, read⟩) rfl
  · have whole : type.qualifiedName = full := withoutArguments_of_parse read
    refine ⟨by simp [named, whole], by simp [named], ?_, ?_, ?_⟩
    · rw [simpleName, whole]
      rfl
    · rw [package?, whole]
      exact package?_of_named name
    · rw [isPrimitive_iff]
      refine iff_of_false ?_ (by simp [named])
      rintro ⟨word, -, other⟩
      rw [read] at other
      simp [named, primitive] at other

/-- The last bracket is that of the map and not of the array among its arguments, and
blanks stand on all sides. -/
theorem nested_map_agrees_with_reading :
    let type : TypeRef := ⟨" java.util.Map < a.Map<int[]> ,\t? super T > "⟩
    ∃ tree, type.parse = .ok tree ∧ tree.isWildcard = false ∧ tree.dimensions = 0 ∧
      type.qualifiedName = "java.util.Map" ∧ type.simpleName = tree.name ∧
      type.package? = some "java.util" ∧ tree.package = "java.util" ∧
      type.isPrimitive = false := by
  intro type
  have found : type.parse.toOption.any (fun tree => !tree.isWildcard && tree.dimensions == 0 &&
      tree.qualified == some "java.util.Map" && tree.package == "java.util") = true := by
    decide +kernel
  cases read : type.parse with
  | error fault =>
    rw [read] at found
    cases found
  | ok tree =>
    rw [read] at found
    simp only [Except.toOption, Option.any_some, Bool.and_eq_true, Bool.not_eq_true',
      beq_iff_eq] at found
    obtain ⟨⟨⟨ordinary, flat⟩, qualified⟩, package⟩ := found
    obtain ⟨full, -, simple, placed, kind⟩ := reference_agrees_with_reading read ordinary flat
    refine ⟨tree, rfl, ordinary, flat, full _ qualified, simple, ?_, package, ?_⟩
    · rw [placed, package]
      rfl
    · rw [← Bool.not_eq_true, kind, qualified]
      simp

end TypeRef

end DelegateClasses
