import DelegateClasses.Imports.Eligibility
import DelegateClasses.Proofs.DottedName
import Mathlib.Data.List.Basic

/-! Which names need an import, told by their packages. The tests look at the start
of a name, while everything else takes names apart at their last dot. Main
statement: both come to the same for all texts, and a name needs an import exactly
if it has a package that is neither the file's own nor covered by an entry. -/
namespace DelegateClasses.Imports

variable {scope : Scope} {name : String} {entries others : List String}

/-- A name is declared directly in its package and in no other. -/
theorem inPackage_iff {package name : String} :
    inPackage package name = true ↔ DottedName.package? name = some package := by
  rw [DottedName.package?_eq_some, inPackage]
  constructor
  · intro inside
    split at inside
    · next rest found =>
      exact ⟨rest, by simpa using inside, (List.append_eq_of_isPrefixOf?_eq_some found).symm⟩
    · cases inside
  · rintro ⟨rest, free, shape⟩
    rw [List.isPrefixOf?_eq_some_iff_append_eq.2 shape.symm]
    simpa using free

/-- An entry that ends in a dot covers the names that start with it, any other
entry the names whose package it is. -/
theorem covers_iff {entry name : String} :
    covers entry name = true ↔
      if entry.toList.getLast? = some '.' then entry.toList <+: name.toList
      else DottedName.package? name = some entry := by
  rw [covers]
  split
  · exact List.isPrefixOf_iff_prefix
  · exact inPackage_iff

/-- A name is not available if its package is no entry without a dot at its end,
and no entry with one starts the name. -/
theorem isAvailable_eq_false_iff :
    isAvailable name entries = false ↔
      (∀ entry ∈ entries, entry.toList.getLast? ≠ some '.' →
        DottedName.package? name ≠ some entry) ∧
      ∀ entry ∈ entries, entry.toList.getLast? = some '.' → ¬ entry.toList <+: name.toList := by
  rw [isAvailable, List.any_eq_false]
  constructor
  · intro uncovered
    refine ⟨fun entry member single owned => ?_, fun entry member spreading starts => ?_⟩
    · apply uncovered entry member
      rwa [covers_iff, if_neg single]
    · apply uncovered entry member
      rwa [covers_iff, if_pos spreading]
  · rintro ⟨unowned, unstarted⟩ entry member covered
    rw [covers_iff] at covered
    split at covered
    · next spreading => exact unstarted entry member spreading covered
    · next single => exact unowned entry member single covered

/-- Only which entries there are decides, not their order or how often they are listed. -/
theorem isAvailable_congr (same : ∀ entry, entry ∈ entries ↔ entry ∈ others) (name : String) :
    isAvailable name entries = isAvailable name others := by
  rw [Bool.eq_iff_iff, isAvailable, isAvailable, List.any_eq_true, List.any_eq_true]
  exact exists_congr fun entry => and_congr_left' (same entry)

/-- A name needs an import if it has a package, other than that of the file, and is
not available. -/
theorem requires_iff_unavailable :
    scope.requires name = true ↔
      '.' ∈ name.toList ∧ DottedName.package? name ≠ some scope.package ∧
        isAvailable name scope.available = false := by
  rw [Scope.requires, Bool.and_eq_true, Bool.and_eq_true, Bool.not_eq_true', Bool.not_eq_true',
    ← Bool.not_eq_true (inPackage _ _), inPackage_iff, DottedName.isQualified_iff, and_assoc,
    and_comm (a := isAvailable _ _ = false)]

/-- Where only the default packages are available, a name needs an import unless
it has no package, or that of the file, or `java.lang`. -/
theorem requires_iff {package name : String} :
    Scope.requires ⟨package, defaultAvailable⟩ name = true ↔
      DottedName.isQualified name = true ∧ DottedName.package? name ≠ some "java.lang" ∧
        DottedName.package? name ≠ some package := by
  rw [requires_iff_unavailable, isAvailable_eq_false_iff]
  simp [defaultAvailable, DottedName.isQualified_iff, and_comm]

/-- **Packages decide what is imported.** A name is declared directly in a package
exactly if it has a dot and the package is all that stands before its last one. A
name needs an import exactly if it has a dot, its package is neither that of the
file nor one of the entries that end in no dot, and it starts with none of the
entries that do. How the entries are ordered or repeated makes no difference. -/
theorem import_needed_by_package :
    (∀ package name, inPackage package name = true ↔
      '.' ∈ name.toList ∧ DottedName.package? name = some package) ∧
    (∀ (scope : Scope) (name : String), scope.requires name = true ↔
      '.' ∈ name.toList ∧ DottedName.package? name ≠ some scope.package ∧
        (∀ entry ∈ scope.available, entry.toList.getLast? ≠ some '.' →
          DottedName.package? name ≠ some entry) ∧
        ∀ entry ∈ scope.available, entry.toList.getLast? = some '.' →
          ¬ entry.toList <+: name.toList) ∧
    ∀ package name entries others, (∀ entry, entry ∈ entries ↔ entry ∈ others) →
      Scope.requires ⟨package, entries⟩ name = Scope.requires ⟨package, others⟩ name := by
  refine ⟨fun package name => ?_, fun scope name => ?_, fun package name entries others same => ?_⟩
  · rw [inPackage_iff]
    refine ⟨fun owned => ⟨?_, owned⟩, And.right⟩
    obtain ⟨rest, -, shape⟩ := DottedName.package?_eq_some.1 owned
    simp [shape]
  · rw [requires_iff_unavailable, isAvailable_eq_false_iff]
  · rw [Scope.requires, Scope.requires, isAvailable_congr same]

/-- A package may end in a dot itself or have an empty name, and one below that of
the file is another package. -/
theorem doubled_dots_told_apart :
    let entries := ["java.", "", "java."]
    let others := ["", "java."]
    (∀ entry, entry ∈ entries ↔ entry ∈ others) ∧
    inPackage "a." "a..Item" = true ∧ inPackage "a" "a..Item" = false ∧
    Scope.requires ⟨"a.b", entries⟩ "a.b.c.Item" = true ∧
    Scope.requires ⟨"a.b", others⟩ "a.b.c.Item" = true ∧
    Scope.requires ⟨"a.b", others⟩ ".Item" = false := by
  intro entries others
  obtain ⟨direct, needed, alike⟩ := import_needed_by_package
  have same : ∀ entry, entry ∈ entries ↔ entry ∈ others := by
    intro entry
    grind
  have nested : Scope.requires ⟨"a.b", entries⟩ "a.b.c.Item" = true :=
    (needed ⟨"a.b", entries⟩ "a.b.c.Item").2 (by decide)
  refine ⟨same, (direct "a." "a..Item").2 (by decide), ?_, nested, ?_, ?_⟩
  · rw [← Bool.not_eq_true, direct]
    decide
  · rw [← alike "a.b" "a.b.c.Item" entries others same, nested]
  · rw [← Bool.not_eq_true, needed]
    decide

end DelegateClasses.Imports
