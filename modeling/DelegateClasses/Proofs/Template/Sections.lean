import DelegateClasses.Proofs.Steps
import DelegateClasses.Proofs.Text.Joining
import DelegateClasses.Proofs.Text.Lines
import DelegateClasses.Template
import Mathlib.Data.List.DropRight
import Mathlib.Data.List.Induction

/-! The sections of a template. Main statements: what is read of a template, up to
the first marker and behind it, is what stands between its markers, and a template
that is read to its end is UTF-8; the text of a section is that of its lines without
the empty ones at both ends. -/
namespace DelegateClasses.Template
open Steps

/-- What stands between the markers of a template, in order. -/
def sections (lines : List String) : List (List String) :=
  lines.splitOnP isMarker

/-- The lines of a section without the empty ones at both ends. -/
def trimmed (lines : List String) : List String :=
  (lines.dropWhile (· == "")).rdropWhile (· == "")

/-- The texts of sections, without those of which nothing remains. -/
def texts (sections : List (List String)) : List String :=
  ((sections.map trimmed).filter (· ≠ [])).map ("\n".intercalate ·)

/-- What a generated class is given for sections. -/
def entries (sections : List (List String)) : List String :=
  (sections.map sectionText).filter (· ≠ "")

theorem entries_append (first second : List (List String)) :
    entries (first ++ second) = entries first ++ entries second := by
  rw [entries, List.map_append, List.filter_append]
  rfl

variable {lines taken rest : List String} {found : Bool} {remainder : Remainder}
variable {template after : Template}

/-! ## Reading -/

theorem openFrom_eq_ok {files : FileTree} {path : Path} {template : Template}
    (opened : openFrom files path = .ok template) :
    ∃ bytes, files.read path.text = .ok bytes ∧ template = ⟨path, some (content bytes)⟩ := by
  rw [openFrom] at opened
  split at opened
  · cases opened
  · next bytes read =>
    cases opened
    exact ⟨bytes, read, rfl⟩

/-- A section is read up to the first marker, or to the end if there is none. -/
theorem takeSection_eq (cut : takeSection lines = (taken, found, rest)) :
    (∀ line ∈ taken, isMarker line = false) ∧
    ((found = true ∧ ∃ marker, isMarker marker = true ∧ lines = taken ++ marker :: rest) ∨
      (found = false ∧ rest = [] ∧ lines = taken)) := by
  have whole : lines.takeWhile (!isMarker ·) ++ lines.dropWhile (!isMarker ·) = lines :=
    List.takeWhile_append_dropWhile
  have plain : ∀ line ∈ lines.takeWhile (!isMarker ·), isMarker line = false := by
    intro line member
    simpa using List.mem_takeWhile_imp member
  rw [takeSection] at cut
  cases behind : lines.dropWhile (!isMarker ·) with
  | nil =>
    rw [behind] at cut whole
    cases cut
    rw [List.append_nil] at whole
    rw [whole] at plain
    exact ⟨plain, .inr ⟨rfl, rfl, rfl⟩⟩
  | cons marker others =>
    rw [behind] at cut whole
    cases cut
    have mark : isMarker marker = true := by
      have first := List.head?_dropWhile_not (!isMarker ·) lines
      rw [behind] at first
      simpa using first
    exact ⟨plain, .inl ⟨rfl, marker, mark, whole.symm⟩⟩

/-- A section is what stands in front of the first marker, if there is one. -/
theorem sections_of_takeSection (cut : takeSection lines = (taken, found, rest)) :
    (found = true ∧ sections lines = taken :: sections rest ∧ rest.length < lines.length) ∨
    (found = false ∧ sections lines = [taken] ∧ rest = []) := by
  obtain ⟨plain, ⟨rfl, marker, mark, rfl⟩ | ⟨rfl, rfl, rfl⟩⟩ := takeSection_eq cut
  · refine .inl ⟨rfl, List.splitOnP_append_cons_of_forall_mem plain marker mark rest, ?_⟩
    simp
    omega
  · exact .inr ⟨rfl, List.splitOnP_eq_singleton plain, rfl⟩

theorem readSection_eq_ok (opened : template.rest = some (lines, remainder))
    (ran : readSection template = .ok (taken, found) after) :
    ∃ rest, takeSection lines = (taken, found, rest) ∧ after.rest = some (rest, remainder) ∧
      (found = false → remainder = .nothing) := by
  rw [readSection, get_bind] at ran
  simp only [opened] at ran
  split at ran
  · next complete =>
    cases ran
    refine ⟨_, rfl, rfl, fun last => ?_⟩
    simpa [last] using complete
  · cases ran

/-- Sections are read to the end of the template. -/
theorem sectionsFrom_eq_ok {result : List (List String)} (fuel : Nat)
    (enough : lines.length < fuel) (opened : template.rest = some (lines, remainder))
    (ran : sectionsFrom fuel template = .ok result after) :
    result = sections lines ∧ remainder = .nothing := by
  induction fuel generalizing lines template result with
  | zero => exact absurd enough (Nat.not_lt_zero _)
  | succ fuel ih =>
    rw [sectionsFrom] at ran
    obtain ⟨⟨taken, found⟩, middle, first, others⟩ := bind_eq_ok ran
    obtain ⟨rest, cut, still, last⟩ := readSection_eq_ok opened first
    rcases sections_of_takeSection cut with ⟨rfl, parts, shorter⟩ | ⟨rfl, parts, -⟩
    · obtain ⟨more, final, behind, done⟩ := bind_eq_ok others
      cases done
      obtain ⟨rfl, complete⟩ := ih (by omega) still behind
      exact ⟨parts.symm, complete⟩
    · cases others
      exact ⟨parts.symm, last rfl⟩

private theorem readSections_eq_ok {result : List (List String)}
    (opened : template.rest = some (lines, remainder))
    (ran : readSections template = .ok result after) :
    result = sections lines ∧ remainder = .nothing := by
  rw [readSections, get_bind] at ran
  refine sectionsFrom_eq_ok _ ?_ opened ran
  simp [opened]

/-- The first section is what stands in front of the first marker. -/
theorem entries_first (opened : template.rest = some (lines, remainder))
    (ran : readSection template = .ok (taken, found) after) :
    entries [taken] = entries ((sections lines).take 1) := by
  obtain ⟨rest, cut, -, -⟩ := readSection_eq_ok opened ran
  rcases sections_of_takeSection cut with ⟨-, parts, -⟩ | ⟨-, parts, -⟩ <;> rw [parts] <;> rfl

/-- The other sections are what stands behind the first marker. -/
theorem entries_others {result : List (List String)}
    (opened : template.rest = some (lines, remainder))
    (ran : (readSection >>= fun _ => readSections) template = .ok result after) :
    entries result = entries ((sections lines).drop 1) ∧ remainder = .nothing := by
  obtain ⟨⟨taken, found⟩, middle, first, others⟩ := bind_eq_ok ran
  obtain ⟨rest, cut, still, -⟩ := readSection_eq_ok opened first
  obtain ⟨rfl, complete⟩ := readSections_eq_ok still others
  refine ⟨?_, complete⟩
  rcases sections_of_takeSection cut with ⟨-, parts, -⟩ | ⟨-, parts, rfl⟩
  · rw [parts]
    rfl
  · rw [parts]
    change entries (sections []) = entries []
    decide

/-- A template that can be read to its end is UTF-8. -/
theorem content_complete {bytes : ByteArray} (complete : (content bytes).2 = .nothing) :
    ∃ text, Text.decode bytes = .text text ∧ (content bytes).1 = Text.lines text := by
  rw [content] at complete ⊢
  cases decoded : Text.decode bytes with
  | text text => exact ⟨text, rfl, rfl⟩
  | brokenOff intact =>
    rw [decoded] at complete
    cases complete
  | wrong =>
    rw [decoded] at complete
    cases complete

/-! ## The text of a section -/

/-- Line ends in front of a text are its empty first lines. -/
private theorem dropWhile_joined (lines : List String) (each : ∀ line ∈ lines, '\n' ∉ line.toList) :
    ("\n".intercalate lines).toList.dropWhile (· == '\n') =
      ("\n".intercalate (lines.dropWhile (· == ""))).toList := by
  induction lines with
  | nil => rfl
  | cons line lines ih =>
    by_cases blank : line = ""
    · subst blank
      rw [List.dropWhile_cons_of_pos rfl, ← ih fun other member => each other (by simp [member])]
      cases lines with
      | nil => rfl
      | cons next lines =>
        simp only [String.intercalate_cons_cons, String.toList_append]
        rfl
    · have kept : (line :: lines).dropWhile (· == "") = line :: lines :=
        List.dropWhile_cons_of_neg (by simpa using blank)
      obtain ⟨rest, text⟩ : ∃ rest,
          ("\n".intercalate (line :: lines)).toList = line.toList ++ rest := by
        rw [String.toList_intercalate, List.map_cons]
        exact Text.intercalate_starts _ _
      obtain ⟨c, others, chars⟩ := List.exists_cons_of_ne_nil
        (show line.toList ≠ [] by simpa using blank)
      have free := each line (by simp)
      rw [chars] at free
      rw [kept, text, chars]
      exact List.dropWhile_cons_of_neg (by simpa using Ne.symm (List.ne_of_not_mem_cons free))

/-- Line ends behind a text are its empty last lines. -/
private theorem rdropWhile_joined (lines : List String)
    (each : ∀ line ∈ lines, '\n' ∉ line.toList) :
    ("\n".intercalate lines).toList.rdropWhile (· == '\n') =
      ("\n".intercalate (lines.rdropWhile (· == ""))).toList := by
  induction lines using List.reverseRecOn with
  | nil => rfl
  | append_singleton lines line ih =>
    by_cases blank : line = ""
    · subst blank
      rw [List.rdropWhile_concat_pos _ _ _ rfl,
        ← ih fun other member => each other (by simp [member])]
      by_cases none : lines = []
      · subst none
        rfl
      · rw [String.intercalate_append_of_ne_nil none (by simp), String.intercalate_singleton,
          String.append_empty, String.toList_append]
        exact List.rdropWhile_concat_pos _ _ _ rfl
    · have kept : (lines ++ [line]).rdropWhile (· == "") = lines ++ [line] :=
        List.rdropWhile_concat_neg _ _ _ (by simpa using blank)
      obtain ⟨start, text⟩ : ∃ start,
          ("\n".intercalate (lines ++ [line])).toList = start ++ line.toList := by
        rw [String.toList_intercalate, List.map_append]
        exact Text.intercalate_ends _ _
      obtain ⟨others, c, chars⟩ := (List.eq_nil_or_concat line.toList).resolve_left
        (by simpa using blank)
      rw [List.concat_eq_append] at chars
      have free := each line (by simp)
      rw [chars] at free
      have ordinary : ¬(c == '\n') = true := by
        rintro same
        exact free (List.mem_append_right _ (by rw [eq_of_beq same]; exact List.mem_cons_self))
      rw [kept, text, chars, ← List.append_assoc]
      exact List.rdropWhile_concat_neg _ _ _ ordinary

/-- The text of a section is that of its lines, without the empty ones at both ends. -/
theorem sectionText_eq (each : ∀ line ∈ lines, '\n' ∉ line.toList) :
    sectionText lines = "\n".intercalate (trimmed lines) := by
  have inner : ∀ line ∈ lines.dropWhile (· == ""), '\n' ∉ line.toList := fun line member =>
    each line ((List.dropWhile_sublist _).subset member)
  calc sectionText lines
      = String.ofList ((("\n".intercalate lines).toList.dropWhile (· == '\n')).rdropWhile
          (· == '\n')) := rfl
    _ = String.ofList ("\n".intercalate (trimmed lines)).toList := by
      rw [dropWhile_joined lines each, rdropWhile_joined _ inner, trimmed]
    _ = "\n".intercalate (trimmed lines) := String.ofList_toList

/-- Something remains of a section unless all its lines are empty. -/
private theorem intercalate_trimmed_eq_empty :
    "\n".intercalate (trimmed lines) = "" ↔ trimmed lines = [] := by
  cases kept : trimmed lines with
  | nil => exact ⟨fun _ => rfl, fun _ => rfl⟩
  | cons first others =>
    have front : first :: others <+: lines.dropWhile (· == "") := by
      rw [← kept]
      exact List.rdropWhile_prefix _ _
    obtain ⟨more, parts⟩ := front
    have some := List.head?_dropWhile_not (· == "") lines
    rw [← parts] at some
    have filled : first ≠ "" := by simpa using some
    refine ⟨fun empty => absurd ?_ filled, nofun⟩
    cases others with
    | nil => rwa [String.intercalate_singleton] at empty
    | cons next others =>
      rw [String.intercalate_cons_cons, String.append_assoc, String.append_eq_empty_iff] at empty
      exact empty.1

private theorem mem_of_mem_sections {part : List String} {line : String}
    (among : part ∈ sections lines) (member : line ∈ part) : line ∈ lines := by
  induction lines generalizing part with
  | nil =>
    obtain rfl : part = [] := by simpa [sections] using among
    cases member
  | cons first lines ih =>
    rw [sections, List.splitOnP_cons_eq_if_modifyHead] at among
    split at among
    · rcases List.mem_cons.1 among with rfl | later
      · cases member
      · exact List.mem_cons_of_mem _ (ih later member)
    · obtain ⟨start, others, parts⟩ := List.exists_cons_of_ne_nil
        (List.splitOnP_ne_nil isMarker lines)
      rw [sections, parts] at ih
      rw [parts, List.modifyHead_cons] at among
      rcases List.mem_cons.1 among with rfl | later
      · rcases List.mem_cons.1 member with rfl | behind
        · exact List.mem_cons_self
        · exact List.mem_cons_of_mem _ (ih List.mem_cons_self behind)
      · exact List.mem_cons_of_mem _ (ih (List.mem_cons_of_mem _ later) member)

/-- What a generated class is given for sections of a text is their texts. -/
theorem entries_eq_texts {text : String} {parts : List (List String)}
    (within : parts ⊆ sections (Text.lines text)) : entries parts = texts parts := by
  have each : ∀ part ∈ parts, sectionText part = "\n".intercalate (trimmed part) := by
    intro part among
    refine sectionText_eq fun line member => ?_
    obtain ⟨chars, found, rfl⟩ := List.mem_map.1 (mem_of_mem_sections (within among) member)
    rw [String.toList_ofList]
    exact Text.line_feed_not_mem found
  rw [entries, texts, List.map_congr_left each, List.filter_map, List.filter_map, List.map_map]
  refine congrArg _ (List.filter_congr fun part among => ?_)
  simp [intercalate_trimmed_eq_empty]

end DelegateClasses.Template
