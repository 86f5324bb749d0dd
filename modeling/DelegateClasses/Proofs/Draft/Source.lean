import DelegateClasses.Draft.Basic
import DelegateClasses.Proofs.Imports.Ownership
import DelegateClasses.Proofs.Text.Lines

/-! Reading a generated text. Its imports are the lines that start like imports,
from the third line on. Main statement: what is read there are the names that
the class imports, in ascending order and each once. -/
namespace DelegateClasses
open Text

/-- How import lines start. -/
def importStart : List Char :=
  "import ".toList

/-- The import lines of a generated text, which follow the package and a blank line. -/
def importLinesOf (text : String) : List String :=
  ((lines text).drop 2).takeWhile (importStart.isPrefixOf ·.toList)

theorem importLine_start (name : String) :
    importStart.isPrefixOf (Fragment.importLine name).toList = true := by
  rw [Fragment.importLine, String.toList_append, String.toList_append, List.append_assoc,
    List.isPrefixOf_iff_prefix]
  exact List.prefix_append ..

theorem oneLine_append (first : OneLine front) (second : OneLine rear) : OneLine (front ++ rear) :=
  fun c member => (List.mem_append.1 member).elim (first c) (second c)

private theorem oneLine_importLine (name : OneLine full.toList) :
    OneLine (Fragment.importLine full).toList := by
  have start : OneLine "import ".toList := by simp [OneLine]
  have stop : OneLine ";".toList := by simp [OneLine]
  simpa [Fragment.importLine] using oneLine_append start (oneLine_append name stop)

private theorem oneLine_packageLine (name : OneLine full.toList) :
    OneLine (Fragment.packageLine full).toList := by
  have start : OneLine "package ".toList := by simp [OneLine]
  have stop : OneLine ";".toList := by simp [OneLine]
  simpa [Fragment.packageLine] using oneLine_append start (oneLine_append name stop)

namespace ClassDraft

variable {draft : ClassDraft} {place : String}

/-- The lines of a class behind its imports. -/
def restLines (draft : ClassDraft) : List String :=
  (if draft.imports.lines.isEmpty then [] else [""]) ++
    draft.opening :: (draft.bodyLines ++ ["\x7d"])

theorem source_terminated (packaged : draft.package = some place) :
    draft.source.toList =
      terminated (Fragment.packageLine place :: "" :: draft.imports.lines) ++
        terminated draft.restLines := by
  have shape : draft.importLines =
      draft.imports.lines ++ if draft.imports.lines.isEmpty then [] else [""] := by
    rw [importLines]
    split
    · next none => rw [List.isEmpty_iff.1 none]; rfl
    · rfl
  rw [source, packaged]
  simp only
  rw [intercalate_terminated _ (by simp), shape, restLines, terminated, terminated, terminated,
    ← List.flatMap_append]
  congr 1
  simp

private theorem classLine_start (name : String) :
    ∃ rest, (Fragment.classLine name "public").toList = 'p' :: rest := by
  have start : "public".toList = 'p' :: "ublic".toList := by decide
  rw [Fragment.classLine, if_neg (by decide)]
  simp only [String.toList_append, start, List.cons_append]
  exact ⟨_, rfl⟩

/-- No line behind the imports is taken for one: a blank line follows them, or
the line that opens the class. -/
theorem restLines_no_import (opened : draft.opening = Fragment.classLine draft.className "public") :
    ((splitLines (unifyLineEnds (terminated draft.restLines))).map String.ofList).takeWhile
      (importStart.isPrefixOf ·.toList) = [] := by
  have marked : importStart = 'i' :: "mport ".toList := by decide
  rw [restLines]
  split
  · obtain ⟨start, first⟩ := classLine_start draft.className
    have ordinary : 'p' ≠ '\n' ∧ 'p' ≠ '\r' := by decide
    obtain ⟨line, others, shape⟩ := lines_of_start ordinary
      (start ++ '\n' :: terminated (draft.bodyLines ++ ["\x7d"]))
    have text : terminated ([] ++ draft.opening :: (draft.bodyLines ++ ["\x7d"])) =
        'p' :: (start ++ '\n' :: terminated (draft.bodyLines ++ ["\x7d"])) := by
      rw [opened, List.nil_append, terminated, List.flatMap_cons, first]
      simp [terminated]
    rw [text, shape, marked]
    simp
  · have text : terminated ([""] ++ draft.opening :: (draft.bodyLines ++ ["\x7d"])) =
        [] ++ '\n' :: terminated (draft.opening :: (draft.bodyLines ++ ["\x7d"])) := by
      simp [terminated]
    rw [text, lines_of_line (by simp [OneLine]), marked]
    simp

/-- The import lines of a generated text are those of the names it imports. -/
theorem importLinesOf_source (packaged : draft.package = some place)
    (opened : draft.opening = Fragment.classLine draft.className "public")
    (within : OneLine place.toList) (names : ∀ name ∈ draft.imports.toList, OneLine name.toList) :
    importLinesOf draft.source = draft.imports.toList.map Fragment.importLine := by
  have each : ∀ line ∈ Fragment.packageLine place :: "" :: draft.imports.lines,
      OneLine line.toList := by
    intro line member
    rcases List.mem_cons.1 member with rfl | member
    · exact oneLine_packageLine within
    rcases List.mem_cons.1 member with rfl | member
    · simp [OneLine]
    · obtain ⟨name, among, rfl⟩ := List.mem_map.1 member
      exact oneLine_importLine (names name among)
  have starts : ∀ line ∈ draft.imports.lines, importStart.isPrefixOf line.toList = true := by
    intro line member
    obtain ⟨name, -, rfl⟩ := List.mem_map.1 member
    exact importLine_start name
  rw [importLinesOf, lines, source_terminated packaged, lines_of_terminated _ each, List.map_append,
    List.map_map]
  simp only [List.map_cons, List.cons_append, List.drop_succ_cons, List.drop_zero]
  rw [List.takeWhile_append_of_pos]
  · rw [restLines_no_import opened, List.append_nil]
    simp [Function.comp_def, Imports.Registry.lines]
  · simpa using starts

end ClassDraft

end DelegateClasses
