import DelegateClasses.Proofs.Text.Joining
import DelegateClasses.Text.Lines
import Mathlib.Data.List.Basic

/-! The lines of a text, and of one that was put together from lines. Main statement: a
text is made of lines and their ends in one way only, and those are the lines that are
read. -/
namespace DelegateClasses.Text

/-- A text without line ends. -/
def OneLine (text : List Char) : Prop :=
  ∀ c ∈ text, c ≠ '\n' ∧ c ≠ '\r'

/-- Texts as lines, each with its end. -/
def terminated (lines : List String) : List Char :=
  lines.flatMap (·.toList ++ ['\n'])

theorem unifyLineEnds_cons (ordinary : c ≠ '\r') (rest : List Char) :
    unifyLineEnds (c :: rest) = c :: unifyLineEnds rest := by
  cases rest with
  | nil => simp [unifyLineEnds, ordinary]
  | cons d rest =>
    by_cases feed : d = '\n'
    · subst feed
      rw [unifyLineEnds]
      · simp [ordinary]
      · simp [ordinary]
    · rw [unifyLineEnds]
      · simp [ordinary]
      · simp [ordinary]

theorem unifyLineEnds_append (line : OneLine text) (rest : List Char) :
    unifyLineEnds (text ++ rest) = text ++ unifyLineEnds rest := by
  induction text with
  | nil => rfl
  | cons c text ih =>
    rw [List.cons_append, unifyLineEnds_cons (line c List.mem_cons_self).2,
      ih fun d member => line d (List.mem_cons_of_mem _ member), List.cons_append]

private theorem splitLines_line (line : OneLine text) (rest : List Char) :
    splitLines (text ++ '\n' :: rest) = text :: splitLines rest := by
  induction text with
  | nil => rw [List.nil_append, splitLines, if_pos rfl]
  | cons c text ih =>
    rw [List.cons_append, splitLines, if_neg (line c List.mem_cons_self).1,
      ih fun d member => line d (List.mem_cons_of_mem _ member)]

private theorem splitLines_unended (line : OneLine text) (some : text ≠ []) :
    splitLines text = [text] := by
  induction text with
  | nil => exact absurd rfl some
  | cons c text ih =>
    rw [splitLines, if_neg (line c List.mem_cons_self).1]
    by_cases last : text = []
    · subst last
      rfl
    · rw [ih (fun d member => line d (List.mem_cons_of_mem _ member)) last]

/-- A line is the first of the text that starts with it. -/
theorem lines_of_line (line : OneLine text) (rest : List Char) :
    splitLines (unifyLineEnds (text ++ '\n' :: rest)) =
      text :: splitLines (unifyLineEnds rest) := by
  rw [unifyLineEnds_append line, unifyLineEnds_cons (by decide), splitLines_line line]

/-- Lines that are put in front of a text are its first lines. -/
theorem lines_of_terminated (lines : List String) (each : ∀ line ∈ lines, OneLine line.toList)
    (rest : List Char) :
    splitLines (unifyLineEnds (terminated lines ++ rest)) =
      lines.map String.toList ++ splitLines (unifyLineEnds rest) := by
  induction lines with
  | nil => rfl
  | cons line lines ih =>
    rw [terminated, List.flatMap_cons, List.append_assoc, List.append_assoc, List.singleton_append,
      lines_of_line (each line (by simp)), List.map_cons, List.cons_append,
      ← ih fun other member => each other (List.mem_cons_of_mem _ member)]
    rfl

/-- No line of a text holds a line feed. -/
theorem line_feed_not_mem (member : line ∈ splitLines text) : '\n' ∉ line := by
  induction text generalizing line with
  | nil => cases member
  | cons c text ih =>
    rw [splitLines] at member
    split at member
    · rcases List.mem_cons.1 member with rfl | later
      · exact List.not_mem_nil
      · exact ih later
    · next ordinary =>
      have first : '\n' ∉ [c] := by simpa using Ne.symm ordinary
      split at member
      · rwa [List.mem_singleton.1 member]
      · next start others rest =>
        rw [rest] at ih
        rcases List.mem_cons.1 member with rfl | later
        · rw [← List.singleton_append, List.mem_append, not_or]
          exact ⟨first, ih List.mem_cons_self⟩
        · exact ih (List.mem_cons_of_mem _ later)

/-- A text that starts within a line has its start on the first line. -/
theorem lines_of_start (ordinary : c ≠ '\n' ∧ c ≠ '\r') (rest : List Char) :
    ∃ line others, splitLines (unifyLineEnds (c :: rest)) = (c :: line) :: others := by
  rw [unifyLineEnds_cons ordinary.2, splitLines, if_neg ordinary.1]
  split
  · exact ⟨[], [], rfl⟩
  · next line others _ => exact ⟨line, others, rfl⟩

/-- Lines joined by line feeds, with one at the end, are the lines with their ends. -/
theorem intercalate_terminated (lines : List String) (nonempty : lines ≠ []) :
    ("\n".intercalate lines ++ "\n").toList = terminated lines := by
  have some : lines.map String.toList ≠ [] := by simpa using nonempty
  rw [String.toList_append, String.toList_intercalate, intercalate_append some, List.flatMap_map]
  rfl

theorem terminated_append (first second : List String) :
    terminated (first ++ second) = terminated first ++ terminated second :=
  List.flatMap_append

/-- Blocks with blank lines between them are one longer text. -/
theorem terminated_intersperse (block : String) (blocks : List String) :
    terminated ((block :: blocks).intersperse "") =
      terminated ["\n\n".intercalate (block :: blocks)] := by
  induction blocks generalizing block with
  | nil => simp
  | cons next blocks ih =>
    have apart : terminated ((block :: next :: blocks).intersperse "") =
        terminated [block, ""] ++ terminated ((next :: blocks).intersperse "") := by
      rw [List.intersperse_cons_cons, ← terminated_append]
      rfl
    rw [apart, ih, String.intercalate_cons_cons]
    simp [terminated]

/-! ## A text and its lines -/

/-- The ways in which a line ends. -/
def lineEnds : List (List Char) :=
  [['\n'], ['\r', '\n'], ['\r']]

/-- A text and the lines that it is made of. -/
inductive Lined : List Char → List (List Char) → Prop where
  | nothing : Lined [] []
  /-- The last line may lack its end, unless it is empty. -/
  | unended (line : OneLine text) (some : text ≠ []) : Lined text [text]
  /-- A carriage return in front of a line feed is no end of its own. -/
  | ended (line : OneLine text) (stop : ending ∈ lineEnds)
      (whole : ending = ['\r'] → rest.head? ≠ some '\n') (others : Lined rest parts) :
      Lined (text ++ ending ++ rest) (text :: parts)

/-- Every line end is read as a single line feed. -/
theorem unifyLineEnds_ending (stop : ending ∈ lineEnds)
    (whole : ending = ['\r'] → List.head? rest ≠ some '\n') :
    unifyLineEnds (ending ++ rest) = '\n' :: unifyLineEnds rest := by
  simp only [lineEnds, List.mem_cons, List.not_mem_nil, or_false] at stop
  rcases stop with rfl | rfl | rfl
  · exact unifyLineEnds_cons (by decide) rest
  · rfl
  · cases rest with
    | nil => rfl
    | cons c rest =>
      have other : c ≠ '\n' := by simpa using whole rfl
      rw [List.singleton_append, unifyLineEnds]
      · rfl
      · simpa using other

/-- The lines that a text is made of are the ones that are read. -/
theorem lines_of_lined (lined : Lined text parts) : splitLines (unifyLineEnds text) = parts := by
  induction lined with
  | nothing => rfl
  | unended line some =>
    have same := unifyLineEnds_append line []
    rw [List.append_nil, unifyLineEnds, List.append_nil] at same
    rw [same, splitLines_unended line some]
  | ended line stop whole others ih =>
    rw [List.append_assoc, unifyLineEnds_append line, unifyLineEnds_ending stop whole,
      splitLines_line line, ih]

/-- A character in front of a text is the first of its first line. -/
theorem lined_cons (ordinary : c ≠ '\n' ∧ c ≠ '\r') (lined : Lined text parts) :
    ∃ others, Lined (c :: text) others := by
  have longer {line : List Char} (one : OneLine line) : OneLine (c :: line) :=
    List.forall_mem_cons.2 ⟨ordinary, one⟩
  cases lined with
  | nothing => exact ⟨_, .unended (longer (by simp [OneLine])) (List.cons_ne_nil _ _)⟩
  | unended line some => exact ⟨_, .unended (longer line) (List.cons_ne_nil _ _)⟩
  | ended line stop whole others => exact ⟨_, .ended (longer line) stop whole others⟩

/-- Every text is made of lines. -/
theorem exists_lined (text : List Char) : ∃ parts, Lined text parts := by
  have empty : OneLine [] := by simp [OneLine]
  fun_induction unifyLineEnds text with
  | case1 => exact ⟨[], .nothing⟩
  | case2 rest ih =>
    obtain ⟨parts, lined⟩ := ih
    have pair : ['\r', '\n'] ∈ lineEnds := by decide
    exact ⟨_, .ended empty pair nofun lined⟩
  | case3 c rest apart ih =>
    obtain ⟨parts, lined⟩ := ih
    by_cases feed : c = '\n'
    · subst feed
      have single : ['\n'] ∈ lineEnds := by decide
      exact ⟨_, .ended empty single (by simp) lined⟩
    · by_cases carriage : c = '\r'
      · subst carriage
        have single : ['\r'] ∈ lineEnds := by decide
        refine ⟨_, .ended empty single (fun _ next => ?_) lined⟩
        obtain ⟨others, rfl⟩ := List.head?_eq_some_iff.1 next
        exact apart others rfl rfl
      · exact lined_cons ⟨feed, carriage⟩ lined

theorem lined_iff : Lined text parts ↔ splitLines (unifyLineEnds text) = parts := by
  refine ⟨lines_of_lined, fun read => ?_⟩
  obtain ⟨others, lined⟩ := exists_lined text
  rwa [← read, lines_of_lined lined]

/-- A line end at the very end of a text adds no line. -/
theorem lined_final_end (lined : Lined text parts) (stop : ending ∈ lineEnds)
    (unended : ∃ c, text.getLast? = some c ∧ c ≠ '\n' ∧ c ≠ '\r') :
    Lined (text ++ ending) parts := by
  induction lined with
  | nothing =>
    obtain ⟨c, last, -⟩ := unended
    cases last
  | unended line some =>
    have closed := Lined.ended line stop (by simp) .nothing
    rwa [List.append_nil] at closed
  | @ended text own rest parts line first whole others ih =>
    obtain ⟨c, last, ordinary⟩ := unended
    by_cases nothing : rest = []
    · -- The text ends with a line end then, and not within a line.
      subst nothing
      simp only [lineEnds, List.mem_cons, List.not_mem_nil, or_false] at first
      rcases first with rfl | rfl | rfl <;> simp at last <;> simp [← last] at ordinary
    · have still : rest.getLast? = some c := by
        rwa [List.getLast?_append_of_ne_nil _ nothing] at last
      rw [List.append_assoc]
      refine .ended line first ?_ (ih ⟨c, still, ordinary⟩)
      rwa [List.head?_append_of_ne_nil _ nothing]

end DelegateClasses.Text
