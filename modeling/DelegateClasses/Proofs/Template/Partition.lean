import DelegateClasses.Proofs.Template.Sections

/-! A template that is read section by section. Each reading goes on where the last one
stopped, which is in the middle of the file as long as there are markers. Main statement:
no line is lost, read twice or given to another section, and behind the last section there
is nothing more to read. -/
namespace DelegateClasses.Template
open Steps

/-- Lines, and the sections into which their markers divide them. -/
inductive Divided : List String → List (List String) → Prop where
  | last (plain : ∀ line ∈ part, isMarker line = false) : Divided part [part]
  | more (plain : ∀ line ∈ part, isMarker line = false) (mark : isMarker border = true)
      (others : Divided behind parts) : Divided (part ++ border :: behind) (part :: parts)

/-- Reads a number of sections one after the other, with the answers whether a marker was
read. -/
def readTimes : Nat → TemplateReading (List (List String × Bool))
  | 0 => return []
  | count + 1 => do
    let first ← readSection
    return first :: (← readTimes count)

variable {lines part rest : List String} {parts : List (List String)} {marker : String}
variable {template : Template}

/-! ## Sections -/

/-- Whatever lines there are, their markers divide them. -/
theorem exists_divided (lines : List String) : ∃ parts, Divided lines parts := by
  cases cut : takeSection lines with
  | mk taken answer =>
    obtain ⟨plain, ⟨-, marker, mark, shape⟩ | ⟨-, -, rfl⟩⟩ := takeSection_eq cut
    · obtain ⟨parts, divided⟩ := exists_divided answer.2
      rw [shape]
      exact ⟨_, .more plain mark divided⟩
    · exact ⟨_, .last plain⟩
termination_by lines.length
decreasing_by
  rw [shape]
  simp
  omega

theorem divided_ne_nil (divided : Divided lines parts) : parts ≠ [] := by
  cases divided <;> exact List.cons_ne_nil _ _

/-- There is one section more than there are markers. -/
private theorem length_of_divided (divided : Divided lines parts) :
    parts.length = lines.countP isMarker + 1 := by
  induction divided with
  | last plain => simpa [List.countP_eq_zero] using plain
  | more plain mark others ih =>
    have none := List.countP_eq_zero.2 fun line member => by simpa using plain line member
    rw [List.length_cons, ih, List.countP_append, none, List.countP_cons_of_pos mark]
    omega

/-- The sections hold all lines but the markers, in their order. -/
private theorem flatten_of_divided (divided : Divided lines parts) :
    parts.flatten = lines.filter (!isMarker ·) := by
  have kept {part : List String} (plain : ∀ line ∈ part, isMarker line = false) :
      part.filter (!isMarker ·) = part :=
    List.filter_eq_self.2 fun line member => by simpa using plain line member
  induction divided with
  | last plain => simp [kept plain]
  | more plain mark others ih =>
    rw [List.flatten_cons, ih, List.filter_append, kept plain,
      List.filter_cons_of_neg (by simpa using mark)]

/-! ## Reading them -/

private theorem takeSection_plain (plain : ∀ line ∈ part, isMarker line = false) :
    takeSection part = (part, false, []) := by
  have none : part.dropWhile (!isMarker ·) = [] :=
    List.dropWhile_eq_nil_iff.2 fun line member => by simpa using plain line member
  rw [takeSection, none]

private theorem takeSection_marked (plain : ∀ line ∈ part, isMarker line = false)
    (mark : isMarker marker = true) :
    takeSection (part ++ marker :: rest) = (part, true, rest) := by
  have kept : ∀ line ∈ part, (!isMarker line) = true := by simpa using plain
  rw [takeSection, List.dropWhile_append_of_pos kept, List.takeWhile_append_of_pos kept]
  simp [mark]

/-- A text that can be read to its end gives its next section. -/
theorem readSection_of_lines (still : template.rest = some (lines, .nothing)) :
    readSection template = .ok ((takeSection lines).1, (takeSection lines).2.1)
      { template with rest := some ((takeSection lines).2.2, .nothing) } := by
  rw [readSection, get_bind]
  simp only [still]
  simp
  rfl

/-- At the end of the template there is nothing more to read. -/
theorem readTimes_nothing (count : Nat) (still : template.rest = some ([], .nothing)) :
    readTimes count template = .ok (List.replicate count ([], false)) template := by
  have same : { template with rest := some ([], .nothing) } = template := by rw [← still]
  have first : readSection template = .ok ([], false) template := by
    rw [readSection_of_lines still]
    exact congrArg _ same
  induction count with
  | zero => rfl
  | succ count ih =>
    rw [readTimes, bind_of_ok first, bind_of_ok ih]
    rfl

/-- The sections are read one after the other, each but the last with its marker. -/
theorem readTimes_divided {front : List (List String)} {last : List String} (count : Nat)
    (divided : Divided lines (front ++ [last]))
    (still : template.rest = some (lines, .nothing)) :
    ∃ after, readTimes (front.length + 1 + count) template =
      .ok (front.map (·, true) ++ (last, false) :: List.replicate count ([], false)) after := by
  induction front generalizing lines template with
  | nil =>
    rw [List.nil_append] at divided
    cases divided with
    | last plain =>
      have first := readSection_of_lines still
      rw [takeSection_plain plain] at first
      refine ⟨{ template with rest := some ([], .nothing) }, ?_⟩
      rw [List.length_nil, Nat.zero_add, Nat.add_comm, readTimes, bind_of_ok first,
        bind_of_ok (readTimes_nothing count rfl)]
      rfl
    | more plain mark others => exact absurd rfl (divided_ne_nil others)
  | cons part front ih =>
    rw [List.cons_append] at divided
    generalize parts : front ++ [last] = behind at divided
    cases divided with
    | last plain => exact absurd parts (by simp)
    | more plain mark others =>
      have first := readSection_of_lines still
      rw [takeSection_marked plain mark] at first
      rw [← parts] at others
      obtain ⟨after, behind⟩ :=
        ih others (show ({ template with rest := some (_, .nothing) } : Template).rest = _ from rfl)
      refine ⟨after, ?_⟩
      rw [List.length_cons, Nat.add_right_comm, readTimes, bind_of_ok first,
        bind_of_ok behind]
      rfl

/-! ## A template -/

variable {files : FileTree} {path : Path} {text : String}

/-- **The markers divide a template, and its sections are read as they stand.** The lines are
those that the text is made of, with the last one also if it lacks its end, and a line end
behind it adds none. Every section but the last comes with the answer that a marker was read,
and behind the last there is nothing, however often it is asked for. -/
theorem sections_partition_template (stored : files.read path.text = .ok text.toUTF8) :
    ∃ template lines front last,
      openFrom files path = .ok template ∧
      Text.Lined text.toList (lines.map String.toList) ∧
      ((∃ c, text.toList.getLast? = some c ∧ c ≠ '\n' ∧ c ≠ '\r') →
        ∀ stop ∈ Text.lineEnds, Text.Lined (text.toList ++ stop) (lines.map String.toList)) ∧
      Divided lines (front ++ [last]) ∧
      front.length = lines.countP isMarker ∧
      (front ++ [last]).flatten = lines.filter (!isMarker ·) ∧
      ∀ later, ∃ after, readTimes (front.length + 1 + later) template =
        .ok (front.map (·, true) ++ (last, false) :: List.replicate later ([], false)) after := by
  have lined : Text.Lined text.toList ((Text.lines text).map String.toList) := by
    rw [Text.lined_iff, Text.lines, List.map_map]
    simp
  obtain ⟨parts, divided⟩ := exists_divided (Text.lines text)
  obtain ⟨front, last, rfl⟩ :=
    (List.eq_nil_or_concat' parts).resolve_left (divided_ne_nil divided)
  have opened : openFrom files path = .ok ⟨path, some (Text.lines text, .nothing)⟩ := by
    simp only [openFrom, stored, content, Text.decode_toUTF8]
  refine ⟨_, _, front, last, opened, lined, fun unended stop member =>
    Text.lined_final_end lined member unended, divided, ?_, flatten_of_divided divided,
    fun later => readTimes_divided later divided rfl⟩
  have count := length_of_divided divided
  rw [List.length_append, List.length_singleton] at count
  exact Nat.succ.inj count

/-- Line ends of three kinds, two markers in a row and no line end at the end. -/
theorem mixed_ends_partition_template :
    let files : FileTree := ⟨[], [(["t"], .file "a\r\n++++x\r++++\nb".toUTF8)]⟩
    files.read (Path.ofText "t").text = .ok "a\r\n++++x\r++++\nb".toUTF8 ∧
    ∃ template front last after, openFrom files (.ofText "t") = .ok template ∧
      Divided ["a", "++++x", "++++", "b"] (front ++ [last]) ∧ front.length = 2 ∧
      (front ++ [last]).flatten = ["a", "b"] ∧
      readTimes 5 template =
        .ok (front.map (·, true) ++ [(last, false), ([], false), ([], false)]) after := by
  intro files
  have stored : files.read (Path.ofText "t").text = .ok "a\r\n++++x\r++++\nb".toUTF8 := rfl
  obtain ⟨template, lines, front, last, opened, lined, -, divided, count, whole, reads⟩ :=
    sections_partition_template stored
  have shape : lines = ["a", "++++x", "++++", "b"] := by
    rw [Text.lined_iff] at lined
    rw [← List.map_inj_right (fun _ _ => String.toList_inj.1), ← lined]
    decide
  subst shape
  have two : front.length = 2 := count.trans (by decide)
  obtain ⟨after, ran⟩ := reads 2
  rw [two] at ran
  exact ⟨stored, template, front, last, after, opened, divided, two, whole.trans (by decide), ran⟩

end DelegateClasses.Template
