import DelegateClasses.Proofs.TypeTree.Grammar

/-! The cuts of the reader. It takes a text apart from the outside, suffixes
and brackets from the right, bounds at their word; each cut falls where the
grammar puts the two parts together. Main statements: what one step of the reader
makes of a name with or without brackets, and induction along its steps. -/
namespace DelegateClasses.TypeTree
open Text

/-! ## Array suffixes -/

private theorem dropSuffixes_stop (stop : text.head? ≠ some ']') :
    dropSuffixes count text = (count, text) := by
  unfold dropSuffixes
  split
  · exact absurd rfl stop
  · rfl

private theorem dropSuffixes_suffixes (suffixes : Suffixes more rear)
    (solid : ∀ c, List.head? text = some c → isBlank c = false) (count : Nat) :
    dropSuffixes count (rear.reverse ++ text) = dropSuffixes (count + more) text := by
  induction suffixes generalizing count with
  | none => rfl
  | @more amount front space others gap ih =>
    have start : ∀ c, (front.reverse ++ text).head? = some c → isBlank c = false := by
      intro c found
      rw [List.head?_append, List.head?_reverse] at found
      rcases suffixes_last others with rfl | last
      · exact solid c found
      · rw [last] at found
        cases found
        decide
    have shape : (front ++ space ++ ['[', ']']).reverse ++ text =
        ']' :: '[' :: (space.reverse ++ (front.reverse ++ text)) := by simp
    rw [shape, dropSuffixes, dropWhile_blanks (blanks_reverse gap), dropWhile_of_head start, ih,
      Nat.add_right_comm, Nat.add_assoc]

/-- Array suffixes are split off a text that ends in none. -/
theorem splitSuffixes_append (solid : Tight base) (stop : base.getLast? ≠ some ']')
    (suffixes : Suffixes count rear) : splitSuffixes (base ++ rear) = (count, base) := by
  have start : ∀ c, base.reverse.head? = some c → isBlank c = false := by
    intro c found
    exact solid.last c (by rwa [List.head?_reverse] at found)
  have stopped : base.reverse.head? ≠ some ']' := by rwa [List.head?_reverse]
  have dropped : dropSuffixes 0 (rear.reverse ++ base.reverse) = (0 + count, base.reverse) :=
    (dropSuffixes_suffixes suffixes start 0).trans (dropSuffixes_stop stopped)
  rw [splitSuffixes, List.reverse_append, dropped]
  simp

theorem dropSuffixes_eq (dropped : dropSuffixes count text = (total, rest)) :
    ∃ more rear, total = count + more ∧ Suffixes more rear ∧ text = rear.reverse ++ rest := by
  fun_induction dropSuffixes count text with
  | case1 count content ih =>
    obtain ⟨more, rear, rfl, suffixes, shape⟩ := ih dropped
    have gap : Blanks (content.takeWhile isBlank).reverse :=
      blanks_reverse (blanks_takeWhile content)
    refine ⟨more + 1, _, Nat.add_right_comm .., .more suffixes gap, ?_⟩
    have whole : content = content.takeWhile isBlank ++ (rear.reverse ++ rest) := by
      rw [← shape]
      exact List.takeWhile_append_dropWhile.symm
    simpa using whole
  | case2 =>
    cases dropped
    exact ⟨0, [], rfl, .none, rfl⟩

/-- What is split off a text are array suffixes. -/
theorem splitSuffixes_eq (split : splitSuffixes text = (count, base)) :
    ∃ rear, Suffixes count rear ∧ text = base ++ rear := by
  cases dropped : dropSuffixes 0 text.reverse with
  | mk total rest =>
    rw [splitSuffixes, dropped] at split
    cases split
    obtain ⟨more, rear, rfl, suffixes, shape⟩ := dropSuffixes_eq dropped
    rw [Nat.zero_add]
    exact ⟨rear, suffixes, by simpa using congrArg List.reverse shape⟩

/-! ## Bounds -/

private theorem word_not_blank (word : kind = "extends" ∨ kind = "super") :
    ∀ c ∈ kind.toList, isBlank c = false := by
  rcases word with rfl | rfl <;> simp [isBlank]

/-- A word ends at the blank behind it. -/
private theorem span_word (solid : ∀ c ∈ word, isBlank c = false) (gap : Blanks space)
    (apart : space ≠ []) (rest : List Char) :
    (word ++ (space ++ rest)).takeWhile (!isBlank ·) = word ∧
      (word ++ (space ++ rest)).dropWhile (!isBlank ·) = space ++ rest := by
  have kept : ∀ c ∈ word, (!isBlank c) = true := by simpa using solid
  cases space with
  | nil => exact absurd rfl apart
  | cons c space =>
    have blank : isBlank c = true := gap c (by simp)
    rw [List.takeWhile_append_of_pos kept, List.dropWhile_append_of_pos kept]
    simp [blank]

/-- A bound is split at the blanks around its word. -/
theorem splitBound_append (word : kind = "extends" ∨ kind = "super") (gap : Blanks space)
    (apart : space ≠ []) (pause : Blanks between) (distinct : between ≠ []) (solid : Tight text)
    (nonempty : text ≠ []) :
    splitBound (space ++ kind.toList ++ between ++ text) = some (kind, text) := by
  have starts : (space ++ kind.toList ++ between ++ text).head?.any isBlank = true := by
    cases space with
    | nil => exact absurd rfl apart
    | cons c space => simpa using gap c (by simp)
  have wordStart : ∀ c, (kind.toList ++ (between ++ text)).head? = some c → isBlank c = false := by
    intro c found
    rcases word with rfl | rfl <;> cases found <;> decide
  have trimmed : trimStart (space ++ kind.toList ++ between ++ text) =
      kind.toList ++ (between ++ text) := by
    rw [trimStart, List.append_assoc, List.append_assoc, dropWhile_blanks gap,
      dropWhile_of_head wordStart]
  have textStart : trimStart (between ++ text) = text := by
    rw [trimStart, dropWhile_blanks pause, dropWhile_of_head solid.head]
  obtain ⟨taken, dropped⟩ := span_word (word_not_blank word) pause distinct text
  have listed : kind ∈ boundKinds := by
    rcases word with rfl | rfl <;> decide
  rw [splitBound, if_pos starts, trimmed]
  simp [taken, dropped, textStart, listed, nonempty]

/-- A word that something stands behind ends at a blank. -/
private theorem blank_behind_word {words : List Char}
    (followed : trimStart (words.dropWhile (!isBlank ·)) ≠ []) :
    (words.dropWhile (!isBlank ·)).takeWhile isBlank ≠ [] := by
  cases behind : words.dropWhile (!isBlank ·) with
  | nil =>
    rw [behind] at followed
    exact absurd rfl followed
  | cons c rest =>
    have stops := List.head?_dropWhile_not (!isBlank ·) words
    rw [behind] at stops
    have blank : isBlank c = true := by simpa using stops
    simp [blank]

/-- What is split off as a bound stands behind blanks, one of the two words and
blanks again. -/
theorem splitBound_eq_some (found : splitBound text = some (kind, content)) :
    ∃ space between, (kind = "extends" ∨ kind = "super") ∧ Blanks space ∧ space ≠ [] ∧
      Blanks between ∧ between ≠ [] ∧ content ≠ [] ∧
      (∀ c, content.head? = some c → isBlank c = false) ∧
      text = space ++ kind.toList ++ between ++ content := by
  rw [splitBound] at found
  let words := trimStart text
  let behind := words.dropWhile (!isBlank ·)
  split at found
  · next starts =>
    simp only at found
    split at found
    · next accepted =>
      simp only [Option.some.injEq, Prod.mk.injEq] at found
      obtain ⟨rfl, rfl⟩ := found
      simp only [Bool.and_eq_true, List.contains_iff_mem, Bool.not_eq_true',
        List.isEmpty_eq_false_iff] at accepted
      obtain ⟨listed, nonempty⟩ := accepted
      refine ⟨text.takeWhile isBlank, behind.takeWhile isBlank, ?_, blanks_takeWhile text, ?_,
        blanks_takeWhile behind, blank_behind_word nonempty, nonempty,
        fun c => head_of_dropWhile, ?_⟩
      · simpa [boundKinds] using listed
      · cases text with
        | nil => cases starts
        | cons c text =>
          have blank : isBlank c = true := by simpa using starts
          simp [blank]
      · have first : text = text.takeWhile isBlank ++ words := List.takeWhile_append_dropWhile.symm
        have second : words = words.takeWhile (!isBlank ·) ++ behind :=
          List.takeWhile_append_dropWhile.symm
        have third : behind = behind.takeWhile isBlank ++ trimStart behind :=
          List.takeWhile_append_dropWhile.symm
        calc text = text.takeWhile isBlank ++ (words.takeWhile (!isBlank ·) ++
              (behind.takeWhile isBlank ++ trimStart behind)) := by
              rw [← third, ← second, ← first]
          _ = _ := by simp [words, behind]
    · cases found
  · cases found

/-! ## One step of the reader -/

private theorem readType_wildcard (trimmed : trim text = '?' :: rest) :
    readType text =
      if rest.all isBlank then .ok anything
      else match splitBound rest with
        | none => .error ⟨.invalidWildcard, '?' :: rest⟩
        | some (kind, content) => (readType content).map (bounded kind) := by
  rw [readType]
  split
  · next others trimmedAgain =>
    rw [trimmed] at trimmedAgain
    cases trimmedAgain
    split
    · rfl
    · split <;> simp_all
  · next different => exact absurd trimmed (different rest)

private theorem readType_body (ordinary : ∀ rest, trim text ≠ '?' :: rest)
    (cut : splitSuffixes (trim text) = (count, base)) :
    readType text =
      if base.getLast? = some '>' then
        match splitLastGroup base with
        | none => .error ⟨.unmatchedClosing, base⟩
        | some (before, content) => match splitArguments content with
          | .error fault => .error fault
          | .ok texts => match texts.mapM readType with
            | .error fault => .error fault
            | .ok given => assemble base (trim before) true given count
      else assemble base base false [] count := by
  rw [readType]
  split
  · next rest trimmed => exact absurd trimmed (ordinary rest)
  · split
    next recut =>
    rw [cut] at recut
    cases recut
    split
    · split
      · next missing => simp only [missing]
      · next found =>
        simp only [found]
        split
        · next refused => simp only [refused]
        · next parts =>
          simp only [parts]
          rewrite [List.mapM_subtype (g := readType) (fun _ _ => rfl), List.unattach_attach]
          rfl
    · rfl

theorem readType_anything (marked : trim text = '?' :: rest) (blanks : Blanks rest) :
    readType text = .ok anything := by
  rw [readType_wildcard marked, if_pos (blanks_iff_all.1 blanks)]

theorem readType_unbound (marked : trim text = '?' :: rest) (more : ¬Blanks rest)
    (lost : splitBound rest = none) :
    readType text = .error ⟨.invalidWildcard, '?' :: rest⟩ := by
  rw [readType_wildcard marked, if_neg (by rwa [← blanks_iff_all]), lost]

/-- A mark with nothing but blanks behind it is all there is of a trimmed text. -/
theorem eq_nil_of_blanks_behind (trimmed : trim text = c :: rest) (blanks : Blanks rest) :
    rest = [] := by
  cases ending : rest.getLast? with
  | none => exact List.getLast?_eq_none_iff.1 ending
  | some d =>
    have last : (trim text).getLast? = some d := by
      rw [trimmed, List.getLast?_cons, ending]
      rfl
    have solid := (tight_trim text).last d last
    rw [blanks d (List.mem_of_getLast? ending)] at solid
    cases solid

theorem readType_bound (marked : trim text = '?' :: rest)
    (found : splitBound rest = some (kind, content)) :
    readType text = (readType content).map (bounded kind) := by
  have more : ¬rest.all isBlank = true := by
    rw [← blanks_iff_all]
    intro blanks
    rw [eq_nil_of_blanks_behind marked blanks] at found
    cases found
  rw [readType_wildcard marked, if_neg more, found]

theorem readType_unopened (ordinary : ∀ rest, trim text ≠ '?' :: rest)
    (cut : splitSuffixes (trim text) = (count, base)) (closed : base.getLast? = some '>')
    (lost : splitLastGroup base = none) : readType text = .error ⟨.unmatchedClosing, base⟩ := by
  rw [readType_body ordinary cut, if_pos closed, lost]

theorem readType_plain (ordinary : ∀ rest, trim text ≠ '?' :: rest)
    (cut : splitSuffixes (trim text) = (count, base)) (bare : base.getLast? ≠ some '>') :
    readType text = assemble base base false [] count := by
  rw [readType_body ordinary cut, if_neg bare]

/-- A text that ends in brackets, but for its array suffixes. A name stands before them, and
arguments in them. -/
structure Grouped (text : List Char) (count : Nat) (base before content : List Char) : Prop where
  ordinary : ∀ rest, trim text ≠ '?' :: rest
  cut : splitSuffixes (trim text) = (count, base)
  closed : base.getLast? = some '>'
  group : splitLastGroup base = some (before, content)

theorem Grouped.shape (grouped : Grouped text count base before content) :
    base = before ++ '<' :: (content ++ ['>']) :=
  splitLastGroup_eq_some grouped.closed grouped.group

theorem Grouped.readType_eq (grouped : Grouped text count base before content) :
    readType text = match splitArguments content with
      | .error fault => .error fault
      | .ok texts => match texts.mapM readType with
        | .error fault => .error fault
        | .ok given => assemble base (trim before) true given count := by
  have body := readType_body grouped.ordinary grouped.cut
  rw [if_pos grouped.closed, grouped.group] at body
  exact body

/-- Induction along the reader, by the ways in which it takes a text apart. It goes on with
the text of a bound, or with those of arguments. -/
theorem readType_induction {holds : List Char → Prop}
    (anything : ∀ {text rest}, trim text = '?' :: rest → Blanks rest → holds text)
    (unbound : ∀ {text rest}, trim text = '?' :: rest → ¬Blanks rest →
      splitBound rest = none → holds text)
    (bound : ∀ {text rest kind content}, trim text = '?' :: rest →
      splitBound rest = some (kind, content) → holds content → holds text)
    (unopened : ∀ {text count base}, (∀ rest, trim text ≠ '?' :: rest) →
      splitSuffixes (trim text) = (count, base) → base.getLast? = some '>' →
      splitLastGroup base = none → holds text)
    (uncut : ∀ {text count base before content fault}, Grouped text count base before content →
      splitArguments content = .error fault → holds text)
    (arguments : ∀ {text count base before content texts},
      Grouped text count base before content → splitArguments content = .ok texts →
      (∀ part ∈ texts, holds part) → holds text)
    (plain : ∀ {text count base}, (∀ rest, trim text ≠ '?' :: rest) →
      splitSuffixes (trim text) = (count, base) → base.getLast? ≠ some '>' → holds text)
    (text : List Char) : holds text := by
  induction text using readType.induct with
  | case1 text rest marked blank => exact anything marked (blanks_iff_all.2 blank)
  | case2 text rest marked more lost => exact unbound marked (by rwa [blanks_iff_all]) lost
  | case3 text rest marked more kind content found ih => exact bound marked found ih
  | case4 text count base closed lost ordinary cut => exact unopened ordinary cut closed lost
  | case5 text count base closed before content group fault refused ordinary cut =>
    exact uncut ⟨ordinary, cut, closed, group⟩ refused
  | case6 text count base closed before content group texts parts fault failed ordinary cut ih =>
    exact arguments ⟨ordinary, cut, closed, group⟩ parts ih
  | case7 text count base closed before content group texts parts given all ordinary cut ih =>
    exact arguments ⟨ordinary, cut, closed, group⟩ parts ih
  | case8 text count base bare ordinary cut => exact plain ordinary cut bare

/-! ## Names with and without brackets -/

theorem assemble_named (name : Name written)
    (ordinary : DottedName.isPrimitive (String.ofList written) = false) :
    assemble text written generic given count =
      .ok (named (String.ofList written) given count) := by
  simp [assemble, ordinary, isTypeName_iff.2 name]

theorem assemble_primitive (listed : DottedName.isPrimitive (String.ofList written) = true) :
    assemble text written false given count = .ok (primitive (String.ofList written) count) := by
  simp [assemble, listed]

theorem assemble_eq_ok (assembled : assemble text written generic given count = .ok tree) :
    (DottedName.isPrimitive (String.ofList written) = true ∧ generic = false ∧
      tree = primitive (String.ofList written) count) ∨
    (DottedName.isPrimitive (String.ofList written) = false ∧ Name written ∧
      tree = named (String.ofList written) given count) := by
  simp only [assemble] at assembled
  split at assembled
  · next listed =>
    split at assembled
    · cases assembled
    · next plain =>
      cases assembled
      exact .inl ⟨listed, by simpa using plain, rfl⟩
  · next ordinary =>
    split at assembled
    · next name =>
      cases assembled
      exact .inr ⟨by simpa using ordinary, isTypeName_iff.1 name, rfl⟩
    · cases assembled

/-- A name is not taken for a wildcard. -/
theorem name_not_wildcard (name : Name written) : ∀ others, written ++ rest ≠ '?' :: others := by
  intro others same
  cases written with
  | nil => exact name_ne_nil name rfl
  | cons c written =>
    have char := name_chars name c (by simp)
    rw [(List.cons.inj same).1] at char
    exact not_mark_of_name_char char (by decide)

private theorem name_last (name : Name written) (mark : Char) (marked : mark ∈ marks) :
    written.getLast? ≠ some mark := fun last =>
  not_mark_of_name_char (name_chars name mark (List.mem_of_getLast? last)) marked

/-- A name with array suffixes is read by its name. -/
theorem readType_name (name : Name written) (suffixes : Suffixes count rear)
    (trimmed : trim text = written ++ rear) :
    readType text = assemble written written false [] count := by
  have cut : splitSuffixes (trim text) = (count, written) := by
    rw [trimmed]
    exact splitSuffixes_append (name_tight name) (name_last name ']' (by decide)) suffixes
  have ordinary : ∀ rest, trim text ≠ '?' :: rest := by
    rw [trimmed]
    exact name_not_wildcard name
  exact readType_plain ordinary cut (name_last name '>' (by decide))

/-- A name with brackets and array suffixes is read by its name and the text in
the brackets. -/
theorem readType_group (name : Name written) (gap : Blanks space) (inside : Balanced content)
    (suffixes : Suffixes count rear)
    (trimmed : trim text = written ++ space ++ '<' :: (content ++ ['>']) ++ rear)
    (parts : splitArguments content = .ok texts) (read : texts.mapM readType = .ok given) :
    readType text =
      assemble (written ++ space ++ '<' :: (content ++ ['>'])) written true given count := by
  have closing : (written ++ space ++ '<' :: (content ++ ['>'])).getLast? = some '>' := by
    simp [List.getLast?_cons]
  have cut : splitSuffixes (trim text) =
      (count, written ++ space ++ '<' :: (content ++ ['>'])) := by
    rw [trimmed]
    exact splitSuffixes_append (compact_group name gap inside).tight (by rw [closing]; decide)
      suffixes
  have ordinary : ∀ rest, trim text ≠ '?' :: rest := by
    rw [trimmed, List.append_assoc, List.append_assoc]
    exact name_not_wildcard name
  have spelled : trim (written ++ space) = written := by
    simpa using trim_padded blanks_nil (name_tight name) gap
  have grouped : Grouped text count (written ++ space ++ '<' :: (content ++ ['>']))
      (written ++ space) content := ⟨ordinary, cut, closing, splitLastGroup_group inside _⟩
  rw [grouped.readType_eq, parts]
  simp only [read, spelled]

end DelegateClasses.TypeTree
