import DelegateClasses.DottedName
import DelegateClasses.Proofs.Text.Trimming

/-! Taking dotted names apart at their last dot. -/
namespace DelegateClasses.DottedName

/-- The last segment of a text is that of the part behind any of its dots. -/
theorem lastSegment_append (front rest : List Char) :
    lastSegment (front ++ '.' :: rest) = lastSegment rest := by
  simp only [lastSegment, List.reverse_append, List.reverse_cons, List.append_assoc,
    List.takeWhile_append, List.length_reverse]
  split
  · next whole =>
    have same : rest.reverse.takeWhile (· != '.') = rest.reverse :=
      (List.takeWhile_prefix _).eq_of_length (by simpa using whole)
    simp [same]
  · rfl

theorem lastSegment_no_dot (text : List Char) : '.' ∉ lastSegment text := by
  intro member
  rw [lastSegment, List.mem_reverse] at member
  have kept := List.all_eq_true.1 (List.all_takeWhile (l := text.reverse) (p := (· != '.')))
  simpa using kept '.' member

theorem lastSegment_of_no_dot (free : '.' ∉ text) : lastSegment text = text := by
  have passed := Text.passed_of_not_mem (mt List.mem_reverse.1 free)
  rw [lastSegment, Text.takeWhile_of_all passed, List.reverse_reverse]

/-- A dotted text is cut at its last dot. -/
private theorem cut_at_last_dot (dotted : '.' ∈ text) :
    text = beforeLastDot text ++ '.' :: lastSegment text := by
  have whole : text.reverse =
      text.reverse.takeWhile (· != '.') ++ text.reverse.dropWhile (· != '.') :=
    List.takeWhile_append_dropWhile.symm
  cases rest : text.reverse.dropWhile (· != '.') with
  | nil =>
    rw [rest, List.append_nil] at whole
    refine absurd ?_ (lastSegment_no_dot text)
    rw [lastSegment, ← whole, List.reverse_reverse]
    exact dotted
  | cons c others =>
    have dot : c = '.' := by
      have stops := List.head?_dropWhile_not (· != '.') text.reverse
      rw [rest] at stops
      simpa using stops
    subst dot
    have front : beforeLastDot text = others.reverse := by rw [beforeLastDot, rest]; rfl
    calc text = text.reverse.reverse := (List.reverse_reverse text).symm
      _ = (text.reverse.takeWhile (· != '.') ++ '.' :: others).reverse := by rw [← rest, ← whole]
      _ = beforeLastDot text ++ '.' :: lastSegment text := by simp [front, lastSegment]

theorem isQualified_iff : isQualified name = true ↔ '.' ∈ name.toList :=
  List.contains_iff_mem

theorem isQualified_eq_false_iff : isQualified name = false ↔ '.' ∉ name.toList := by
  rw [← Bool.not_eq_true, isQualified_iff]

/-- A simple name has no package. -/
theorem isQualified_simple (name : String) : isQualified (simple name) = false := by
  rw [isQualified_eq_false_iff, simple, String.toList_ofList]
  exact lastSegment_no_dot name.toList

/-- Primitive types are in no package. -/
theorem isQualified_of_isPrimitive (listed : isPrimitive word = true) :
    isQualified word = false := by
  have each : ∀ word ∈ primitives, isQualified word = false := by decide +kernel
  exact each word (List.contains_iff_mem.1 listed)

theorem simple_of_unqualified (unqualified : isQualified name = false) : simple name = name := by
  have free := isQualified_eq_false_iff.1 unqualified
  rw [simple, lastSegment_of_no_dot free, String.ofList_toList]

/-- A package gives a member its name as the simple name. -/
theorem simple_member (unqualified : isQualified name = false) :
    simple (member package name) = name := by
  have free := isQualified_eq_false_iff.1 unqualified
  have shape : (member package name).toList = package.toList ++ '.' :: name.toList := by
    simp [member]
  rw [simple, shape, lastSegment_append, lastSegment_of_no_dot free, String.ofList_toList]

theorem beforeLastDot_append (free : '.' ∉ rest) :
    beforeLastDot (front ++ '.' :: rest) = front := by
  have passed := Text.passed_of_not_mem (mt List.mem_reverse.1 free)
  simp [beforeLastDot, List.dropWhile_append_of_pos passed]

/-- The package of a name is what stands before its last dot. -/
theorem package?_eq_some {name package : String} :
    package? name = some package ↔
      ∃ rest, '.' ∉ rest ∧ name.toList = package.toList ++ '.' :: rest := by
  constructor
  · intro found
    rw [package?] at found
    split at found
    · next qualified =>
      cases found
      have dotted := isQualified_iff.1 qualified
      refine ⟨lastSegment name.toList, lastSegment_no_dot _, ?_⟩
      rw [String.toList_ofList]
      exact cut_at_last_dot dotted
    · cases found
  · rintro ⟨rest, free, shape⟩
    have qualified : isQualified name = true := by simp [isQualified, shape]
    rw [package?, if_pos qualified, shape, beforeLastDot_append free, String.ofList_toList]

theorem package?_member (unqualified : isQualified name = false) :
    package? (member package name) = some package := by
  have free := isQualified_eq_false_iff.1 unqualified
  exact package?_eq_some.2 ⟨name.toList, free, by simp [member]⟩

end DelegateClasses.DottedName
