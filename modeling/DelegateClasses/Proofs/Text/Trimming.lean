import DelegateClasses.Text.Blank

/-! Trimming undoes padding. A text is its trimmed core between two runs of
blanks, and the core is the only part of the text with that property that has
no blank at either end. -/
namespace DelegateClasses.Text

/-- The text consists of blanks only; it may be empty. -/
def Blanks (text : List Char) : Prop :=
  ∀ c ∈ text, isBlank c = true

/-- The text neither starts nor ends with a blank. -/
structure Tight (text : List Char) : Prop where
  head : ∀ c, text.head? = some c → isBlank c = false
  last : ∀ c, text.getLast? = some c → isBlank c = false

theorem blanks_nil : Blanks [] := by
  intro c member
  cases member

theorem blanks_space : Blanks [' '] := by
  intro c member
  rw [List.mem_singleton] at member
  subst member
  decide

theorem blanks_reverse (blanks : Blanks gap) : Blanks gap.reverse :=
  fun c member => blanks c (List.mem_reverse.1 member)

theorem blanks_iff_all : Blanks text ↔ text.all isBlank = true := by
  rw [List.all_eq_true]
  exact Iff.rfl

theorem takeWhile_of_all {text : List Char} {test : Char → Bool}
    (kept : ∀ c ∈ text, test c = true) :
    text.takeWhile test = text := by
  induction text with
  | nil => rfl
  | cons c rest ih =>
    rw [List.takeWhile_cons_of_pos (kept c (by simp)),
      ih fun d member => kept d (List.mem_cons_of_mem _ member)]

/-- A search for a mark passes over a text without it. -/
theorem passed_of_not_mem {text : List Char} {mark : Char} (free : mark ∉ text) :
    ∀ c ∈ text, (c != mark) = true := by
  intro c member
  rw [bne_iff_ne]
  rintro rfl
  exact free member

theorem dropWhile_blanks (blanks : Blanks gap) (rest : List Char) :
    (gap ++ rest).dropWhile isBlank = rest.dropWhile isBlank :=
  List.dropWhile_append_of_pos blanks

/-- Nothing is dropped from a text that starts with no blank. -/
theorem dropWhile_of_head {text : List Char} (head : ∀ c, text.head? = some c → isBlank c = false) :
    text.dropWhile isBlank = text := by
  cases text with
  | nil => rfl
  | cons c rest => simp [head c rfl]

theorem head_of_dropWhile {text : List Char} (found : (text.dropWhile isBlank).head? = some c) :
    isBlank c = false := by
  have stops := List.head?_dropWhile_not isBlank text
  rw [found] at stops
  exact stops

theorem blanks_takeWhile (text : List Char) : Blanks (text.takeWhile isBlank) :=
  blanks_iff_all.2 List.all_takeWhile

/-- What follows a solid text only matters at its end. -/
theorem tight_append (nonempty : front ≠ []) (first : Tight front)
    (last : ∀ c, rear.getLast? = some c → isBlank c = false) : Tight (front ++ rear) := by
  constructor
  · intro c found
    cases front with
    | nil => exact absurd rfl nonempty
    | cons d front => exact first.head c found
  · intro c found
    rw [List.getLast?_append] at found
    cases ending : rear.getLast? with
    | none =>
      rw [ending, Option.none_or] at found
      exact first.last c found
    | some d =>
      rw [ending, Option.some_or] at found
      exact last c (ending.trans found)

theorem tight_of_append (whole : Tight (front ++ rear))
    (starts : ∀ c, rear.head? = some c → isBlank c = false) : Tight rear :=
  ⟨starts, fun c found => whole.last c (by rw [List.getLast?_append, found, Option.some_or])⟩

theorem trim_padded (before : Blanks front) (core : Tight text) (after : Blanks rear) :
    trim (front ++ text ++ rear) = text := by
  have fromStart : trimStart (front ++ text ++ rear) = (text ++ rear).dropWhile isBlank := by
    rw [trimStart, List.append_assoc, dropWhile_blanks before]
  cases text with
  | nil =>
    have emptied : ([] ++ rear : List Char).dropWhile isBlank = [] := by
      simpa using dropWhile_blanks after []
    rw [trim, fromStart, emptied]
    rfl
  | cons c rest =>
    have kept : (c :: rest ++ rear).dropWhile isBlank = c :: rest ++ rear :=
      dropWhile_of_head fun d found => core.head d (by simpa using found)
    have trimmedEnd : ((c :: rest).reverse).dropWhile isBlank = (c :: rest).reverse :=
      dropWhile_of_head fun d found => core.last d (by rwa [List.head?_reverse] at found)
    rw [trim, fromStart, kept, trimEnd, List.reverse_append,
      dropWhile_blanks (blanks_reverse after), trimmedEnd, List.reverse_reverse]

theorem trim_of_tight (core : Tight text) : trim text = text := by
  simpa using trim_padded blanks_nil core blanks_nil

/-- What trimming leaves of a text stands between runs of blanks in it. -/
theorem exists_padding (text : List Char) :
    ∃ front rear, Blanks front ∧ Blanks rear ∧ text = front ++ trim text ++ rear := by
  let shorter := trimStart text
  refine ⟨text.takeWhile isBlank, (shorter.reverse.takeWhile isBlank).reverse,
    blanks_takeWhile text, blanks_reverse (blanks_takeWhile _), ?_⟩
  have ending : trim text ++ (shorter.reverse.takeWhile isBlank).reverse = shorter := by
    rw [trim, trimEnd, ← List.reverse_append, List.takeWhile_append_dropWhile, List.reverse_reverse]
  rw [List.append_assoc, ending]
  exact List.takeWhile_append_dropWhile.symm

theorem trim_within (text : List Char) : trim text <:+: text := by
  obtain ⟨front, rear, -, -, shape⟩ := exists_padding text
  exact ⟨front, rear, shape.symm⟩

theorem tight_trim (text : List Char) : Tight (trim text) := by
  constructor
  · intro c found
    cases started : trimStart text with
    | nil => simp [trim, started, trimEnd] at found
    | cons d rest =>
      -- The end of a text that starts with no blank is never trimmed away entirely.
      have dropped : text.dropWhile isBlank = d :: rest := started
      have solid : isBlank d = false := head_of_dropWhile (congrArg List.head? dropped)
      have split := List.takeWhile_append_dropWhile (p := isBlank) (l := (d :: rest).reverse)
      have shape : trim text ++ ((d :: rest).reverse.takeWhile isBlank).reverse = d :: rest := by
        rw [trim, started, trimEnd, ← List.reverse_append, split, List.reverse_reverse]
      cases kept : trim text with
      | nil => simp [kept] at found
      | cons e others =>
        rw [kept] at shape found
        have first : e = d := (List.cons.inj shape).1
        cases found
        rw [first]
        exact solid
  · intro c found
    rw [trim, trimEnd, List.getLast?_reverse] at found
    exact head_of_dropWhile found

theorem trim_trim (text : List Char) : trim (trim text) = trim text :=
  trim_of_tight (tight_trim text)

theorem trim_eq_nil_iff : trim text = [] ↔ Blanks text := by
  constructor
  · intro emptied
    obtain ⟨front, rear, before, after, shape⟩ := exists_padding text
    rw [emptied] at shape
    intro c member
    rw [shape] at member
    simp only [List.append_nil, List.mem_append] at member
    exact member.elim (before c) (after c)
  · intro blanks
    have core : Tight [] := ⟨by simp, by simp⟩
    simpa using trim_padded blanks core blanks_nil

end DelegateClasses.Text
