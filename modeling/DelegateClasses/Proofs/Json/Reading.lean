import DelegateClasses.Proofs.Json.Grammar
import Mathlib.Data.List.TakeWhile

/-! Reading the texts of the grammar. Main statement: the text of a value is read as this
value, unless another value lies too deep inside of it or it holds a number. -/
namespace DelegateClasses.Json

variable {text source content rest gap front middle behind : List Char} {c : Char}
variable {value : JsonValue} {fuel depth : Nat}

/-! ## Ends -/

/-- What can follow a value. -/
def Ended (rest : List Char) : Prop :=
  ∀ c ∈ rest.head?, c ∈ [' ', '\t', '\n', '\r', ',', ']', '\x7d']

/-- The text starts with a character that neither is blank nor closes a group. -/
def Solid (text : List Char) : Prop :=
  ∃ c rest, text = c :: rest ∧ c ∉ [' ', '\t', '\n', '\r', ']', '\x7d']

/-- No digit comes first. -/
def Undigited (rest : List Char) : Prop :=
  ∀ c ∈ rest.head?, c.isDigit = false

private theorem undigited_of_ended (ended : Ended rest) : Undigited rest := by
  intro c first
  have none : ∀ c ∈ [' ', '\t', '\n', '\r', ',', ']', '\x7d'], c.isDigit = false := by simp
  exact none c (ended c first)

theorem isSpace_iff : isSpace c = true ↔ c ∈ [' ', '\t', '\n', '\r'] := by
  simp [isSpace, or_assoc]

private theorem ended_blanks (blanks : Blanks gap) (ended : Ended rest) : Ended (gap ++ rest) := by
  cases gap with
  | nil => exact ended
  | cons c gap =>
    intro first same
    obtain rfl : c = first := by simpa using same
    have among := blanks c List.mem_cons_self
    simp only [List.mem_cons, List.not_mem_nil, or_false] at among ⊢
    rcases among with rfl | rfl | rfl | rfl <;> simp

theorem ended_cons (mark : c ∈ [',', ']', '\x7d']) : Ended (c :: rest) := by
  intro first same
  obtain rfl : c = first := by simpa using same
  simp only [List.mem_cons, List.not_mem_nil, or_false] at mark ⊢
  rcases mark with rfl | rfl | rfl <;> simp

/-- Blanks are skipped up to what is none. -/
theorem skipSpace_append (blanks : Blanks gap) (next : ∀ c ∈ rest.head?, isSpace c = false) :
    skipSpace (gap ++ rest) = rest := by
  rw [skipSpace, List.dropWhile_append_of_pos fun c member => isSpace_iff.2 (blanks c member)]
  cases rest with
  | nil => rfl
  | cons c rest => rw [List.dropWhile_cons_of_neg (by simpa using next c rfl)]

private theorem skipSpace_solid (blanks : Blanks gap) (solid : Solid text) :
    skipSpace (gap ++ (text ++ rest)) = text ++ rest := by
  obtain ⟨c, more, rfl, mark⟩ := solid
  refine skipSpace_append blanks fun first same => ?_
  obtain rfl : c = first := by simpa using same
  rw [← Bool.not_eq_true, isSpace_iff]
  intro among
  apply mark
  simp only [List.mem_cons, List.not_mem_nil, or_false] at among ⊢
  rcases among with rfl | rfl | rfl | rfl <;> simp

private theorem skipSpace_blanks (blanks : Blanks gap) : skipSpace gap = [] := by
  have skipped : skipSpace (gap ++ []) = [] := skipSpace_append blanks (by simp)
  rwa [List.append_nil] at skipped

/-! ## Numbers -/

theorem afterDigits_append (digits : Digits text) (next : Undigited rest) :
    afterDigits (text ++ rest) = some rest := by
  obtain ⟨c, more, rfl⟩ := List.exists_cons_of_ne_nil digits.nonempty
  rw [afterDigits, if_pos (by simpa using digits.all c List.mem_cons_self),
    List.dropWhile_append_of_pos digits.all]
  cases rest with
  | nil => rfl
  | cons c rest => rw [List.dropWhile_cons_of_neg (by simpa using next c rfl)]

/-- The whole part of a number is passed by, unless it is too long. -/
theorem afterWhole_append (whole : Whole text) (next : Undigited rest) :
    afterWhole (text ++ rest) = some rest ∨ afterWhole (text ++ rest) = none := by
  cases whole with
  | zero => exact .inl rfl
  | @digits c more digits first =>
    have passed := afterDigits_append digits next
    unfold afterWhole
    split
    · next same => exact absurd (List.cons.inj same).1 first
    · split
      · exact .inr rfl
      · exact .inl passed

theorem afterFraction_append (fraction : Fraction text) (next : Undigited rest)
    (dot : rest.head? ≠ some '.') : afterFraction (text ++ rest) = some rest := by
  cases fraction with
  | none =>
    unfold afterFraction
    split
    · next same =>
      rw [List.nil_append] at same
      rw [same] at dot
      exact absurd rfl dot
    · rfl
  | digits digits => exact afterDigits_append digits next

theorem afterExponent_append (exponent : Exponent text) (ended : Ended rest) :
    afterExponent (text ++ rest) = some rest := by
  have next := undigited_of_ended ended
  cases exponent with
  | none =>
    cases rest with
    | nil => rfl
    | cons c rest =>
      have other : ∀ c ∈ [' ', '\t', '\n', '\r', ',', ']', '\x7d'],
          (c = 'e' || c = 'E') = false := by simp
      exact if_neg (by simpa using other c (ended c rfl))
  | @plain c digits mark all =>
    have marked : (c = 'e' || c = 'E') = true := by simpa using mark
    obtain ⟨d, more, rfl⟩ := List.exists_cons_of_ne_nil all.nonempty
    have unsigned : ¬ (d = '+' || d = '-') = true := by
      intro sign
      have digit := all.all d List.mem_cons_self
      rcases (by simpa using sign : d = '+' ∨ d = '-') with rfl | rfl <;> revert digit <;> decide
    rw [List.cons_append, List.cons_append, afterExponent, if_pos marked, if_neg unsigned]
    exact afterDigits_append all next
  | @signed c d digits mark sign all =>
    have marked : (c = 'e' || c = 'E') = true := by simpa using mark
    have signed : (d = '+' || d = '-') = true := by simpa using sign
    rw [List.cons_append, List.cons_append, afterExponent, if_pos marked, if_pos signed]
    exact afterDigits_append all next

private theorem fraction_head (fraction : Fraction text) : text = [] ∨ text.head? = some '.' := by
  cases fraction with
  | none => exact .inl rfl
  | digits => exact .inr rfl

private theorem exponent_head (exponent : Exponent text) :
    text = [] ∨ text.head? = some 'e' ∨ text.head? = some 'E' := by
  cases exponent with
  | none => exact .inl rfl
  | plain mark => exact .inr (by simpa using mark)
  | signed mark => exact .inr (by simpa using mark)

/-- Neither a digit nor a dot comes before the end, or before an exponent. -/
private theorem exponent_ended_head (exponent : Exponent text) (ended : Ended rest) :
    Undigited (text ++ rest) ∧ (text ++ rest).head? ≠ some '.' := by
  have marked (more : List Char) (mark : more.head? = some 'e' ∨ more.head? = some 'E') :
      Undigited more ∧ more.head? ≠ some '.' := by
    rcases mark with first | first <;> simp [Undigited, first]
  rcases exponent_head exponent with rfl | first
  · refine ⟨undigited_of_ended ended, fun dot => ?_⟩
    have among := ended '.' dot
    revert among
    decide
  · cases text with
    | nil => simp at first
    | cons c text => exact marked _ (by simpa using first)

private theorem whole_head (whole : Whole text) :
    ∃ c more, text = c :: more ∧ c.isDigit = true := by
  cases whole with
  | zero => exact ⟨_, _, rfl, rfl⟩
  | digits digits => exact ⟨_, _, rfl, digits.all _ List.mem_cons_self⟩

private theorem unsigned_head (unsigned : Unsigned text) :
    ∃ c more, text = c :: more ∧ c.isDigit = true := by
  cases unsigned with
  | parts whole =>
    obtain ⟨c, more, rfl, digit⟩ := whole_head whole
    exact ⟨c, _, rfl, digit⟩

/-- A number is passed by, unless it is too long. -/
theorem afterNumber_append (unsigned : Unsigned text) (ended : Ended rest) :
    afterNumber (text ++ rest) = some rest ∨ afterNumber (text ++ rest) = none := by
  have word : "Infinity".toList.isPrefixOf? (text ++ rest) = none := by
    obtain ⟨c, more, rfl, digit⟩ := unsigned_head unsigned
    have other : ('I' == c) ≠ true := by
      intro same
      obtain rfl := eq_of_beq same
      revert digit
      decide
    exact if_neg other
  cases unsigned with
  | @parts front middle behind whole fraction exponent =>
    obtain ⟨undigited, undotted⟩ := exponent_ended_head exponent ended
    have next : Undigited (middle ++ (behind ++ rest)) := by
      rcases fraction_head fraction with rfl | dot
      · exact undigited
      · cases middle with
        | nil => simp at dot
        | cons c middle =>
          obtain rfl : c = '.' := by simpa using dot
          intro first same
          obtain rfl : '.' = first := by simpa using same
          rfl
    rw [List.append_assoc, List.append_assoc] at word ⊢
    rw [afterNumber, word]
    simp only
    rcases afterWhole_append whole next with passed | stopped
    · rw [passed]
      simp only [bind, Option.bind, afterFraction_append fraction undigited undotted]
      exact .inl (afterExponent_append exponent ended)
    · rw [stopped]
      exact .inr rfl

/-! ## Strings -/

private theorem hexDigit?_of_hexDigit {value : Nat} (digit : HexDigit c value) :
    hexDigit? c = some value := by
  have all : ∀ value < 16,
      "0123456789abcdef".toList[value]?.all (hexDigit? · == some value) = true ∧
      "0123456789ABCDEF".toList[value]?.all (hexDigit? · == some value) = true := by
    decide
  rcases digit with lower | upper
  · have found := (all value (List.getElem?_eq_some_iff.1 lower).1).1
    rw [lower] at found
    simpa using found
  · have found := (all value (List.getElem?_eq_some_iff.1 upper).1).2
    rw [upper] at found
    simpa using found

private theorem hexNumber?_of_code {digits : List Char} {number : Nat} (code : Code digits number) :
    hexNumber? digits = some number := by
  cases code with
  | digits first second third fourth =>
    simp [hexNumber?, hexDigit?_of_hexDigit first, hexDigit?_of_hexDigit second,
      hexDigit?_of_hexDigit third, hexDigit?_of_hexDigit fourth]

/-- A code unit that is none of a pair stands for a character by itself. -/
private theorem assemble_unit {number : Nat} (whole : number < 0xD800 ∨ 0xDFFF < number)
    (pieces : List Piece) :
    assemble (.unit number :: pieces) = (assemble pieces).map (Char.ofNat number :: ·) := by
  have high : ¬ (0xD800 ≤ number && number ≤ 0xDBFF) = true := by
    simp only [Bool.and_eq_true, decide_eq_true_eq]
    omega
  have low : ¬ (0xDC00 ≤ number && number ≤ 0xDFFF) = true := by
    simp only [Bool.and_eq_true, decide_eq_true_eq]
    omega
  have half : ¬ (0xD800 ≤ number && number ≤ 0xDFFF) = true := by
    simp only [Bool.and_eq_true, decide_eq_true_eq]
    omega
  cases pieces with
  | nil => exact if_neg half
  | cons piece pieces =>
    cases piece with
    | char c => exact if_neg half
    | unit other => rw [assemble, if_neg high, if_neg low]

/-- Two code units that belong together stand for one character. -/
private theorem assemble_pair {high low : Nat} (upper : 0xD800 ≤ high ∧ high ≤ 0xDBFF)
    (lower : 0xDC00 ≤ low ∧ low ≤ 0xDFFF) (pieces : List Piece) :
    assemble (.unit high :: .unit low :: pieces) =
      (assemble pieces).map (paired high low :: ·) := by
  have above : (0xD800 ≤ high && high ≤ 0xDBFF) = true := by simpa using upper
  have below : (0xDC00 ≤ low && low ≤ 0xDFFF) = true := by simpa using lower
  rw [assemble, if_pos above, if_pos below]

/-- A piece is read in front of the others. -/
def prepend (piece : Piece) (read : Option (List Piece × List Char)) :
    Option (List Piece × List Char) :=
  read.map fun (pieces, rest) => (piece :: pieces, rest)

private theorem readPieces_char (visible : 0x20 ≤ c.toNat) (quote : c ≠ '\x22')
    (backslash : c ≠ '\x5C') (text : List Char) :
    readPieces (c :: text) = prepend (.char c) (readPieces text) := by
  have other : ¬ (decide (c.toNat < 0x20) || decide (c = '\x5C')) = true := by
    simp only [Bool.or_eq_true, decide_eq_true_eq, not_or, backslash, not_false_eq_true, and_true]
    omega
  rw [readPieces.eq_def]
  split
  · next same => cases same
  · next same => exact absurd (List.cons.inj same).1 quote
  · next same => exact absurd (List.cons.inj same).1 backslash
  · next same => exact absurd (List.cons.inj same).1 backslash
  · next same =>
    obtain ⟨rfl, rfl⟩ := List.cons.inj same
    rw [if_neg other]
    cases readPieces text <;> rfl

private theorem readPieces_escape {letter : Char} (known : (letter, c) ∈ escapes)
    (text : List Char) :
    readPieces ('\x5C' :: letter :: text) = prepend (.char c) (readPieces text) := by
  have table : ∀ pair ∈ escapes, pair.1 ≠ 'u' ∧ escaped? pair.1 = some pair.2 := by decide
  obtain ⟨other, stands⟩ := table _ known
  simp only at other stands
  rw [readPieces.eq_def]
  split
  · next same => cases same
  · next same => exact absurd (List.cons.inj same).1 (by decide)
  · next same => exact absurd (List.cons.inj (List.cons.inj same).2).1 other
  · next same =>
    obtain ⟨-, tail⟩ := List.cons.inj same
    obtain ⟨rfl, rfl⟩ := List.cons.inj tail
    rw [stands]
    cases readPieces text <;> rfl
  · next whole same =>
    obtain ⟨rfl, rfl⟩ := List.cons.inj same
    exact (whole _ _ rfl rfl).elim

private theorem readPieces_code {digits : List Char} {number : Nat} (code : Code digits number)
    (text : List Char) : readPieces ('\x5C' :: 'u' :: (digits ++ text)) =
      prepend (.unit number) (readPieces text) := by
  have stands := hexNumber?_of_code code
  cases code
  simp only [List.cons_append, List.nil_append, readPieces, stands]
  cases readPieces text <;> rfl

/-- What stands between the quotes of a string is read up to the closing quote. -/
theorem readPieces_inside (inside : Inside source content) (rest : List Char) :
    ∃ pieces, readPieces (source ++ '\x22' :: rest) = some (pieces, rest) ∧
      assemble pieces = some content := by
  induction inside with
  | nil => exact ⟨[], rfl, rfl⟩
  | @char c source content visible quote backslash inside ih =>
    obtain ⟨pieces, read, assembled⟩ := ih
    refine ⟨.char c :: pieces, ?_, by rw [assemble, assembled]; rfl⟩
    rw [List.cons_append, readPieces_char visible quote backslash, read]
    rfl
  | @escape letter c source content known inside ih =>
    obtain ⟨pieces, read, assembled⟩ := ih
    refine ⟨.char c :: pieces, ?_, by rw [assemble, assembled]; rfl⟩
    rw [List.cons_append, List.cons_append, readPieces_escape known, read]
    rfl
  | @unit digits number source content code whole inside ih =>
    obtain ⟨pieces, read, assembled⟩ := ih
    refine ⟨.unit number :: pieces, ?_, by rw [assemble_unit whole, assembled]; rfl⟩
    rw [List.cons_append, List.cons_append, List.append_assoc, readPieces_code code, read]
    rfl
  | @pair digits high others low source content first upper second lower inside ih =>
    obtain ⟨pieces, read, assembled⟩ := ih
    refine ⟨.unit high :: .unit low :: pieces, ?_, by
      rw [assemble_pair upper lower, assembled]; rfl⟩
    simp only [List.cons_append, List.append_assoc]
    rw [readPieces_code first, readPieces_code second, read]
    rfl

private theorem readString_inside (inside : Inside source content) (rest : List Char) :
    readString (source ++ '\x22' :: rest) = some (String.ofList content, rest) := by
  obtain ⟨pieces, read, assembled⟩ := readPieces_inside inside rest
  simp [readString, read, assembled]

/-! ## Attempts -/

/-- A reader reads a value that fits. Otherwise it reads nothing, and nothing of a value that
fits only with an excuse. -/
def Attempt {α : Type} (result : Option (α × List Char)) (value : α) (rest : List Char)
    (fits excused : Prop) : Prop :=
  (result = some (value, rest) ∧ fits) ∨ (result = none ∧ (fits → excused))

variable {α β : Type} {result : Option (α × List Char)} {fits excused : Prop}

theorem Attempt.map {found : α} (attempt : Attempt result found rest fits excused) (wrap : α → β) :
    Attempt (result.map fun (found, rest) => (wrap found, rest)) (wrap found) rest fits
      excused := by
  rcases attempt with ⟨rfl, fit⟩ | ⟨rfl, excuse⟩
  · exact .inl ⟨rfl, fit⟩
  · exact .inr ⟨rfl, excuse⟩

theorem Attempt.imp {found : α} {others reasons : Prop}
    (attempt : Attempt result found rest fits excused) (same : fits ↔ others)
    (reason : excused → reasons) : Attempt result found rest others reasons := by
  rcases attempt with ⟨read, fit⟩ | ⟨stopped, excuse⟩
  · exact .inl ⟨read, same.1 fit⟩
  · exact .inr ⟨stopped, fun fit => reason (excuse (same.2 fit))⟩

/-! ## Groups -/

private theorem source_length_le {first part : Part α} {others : List (Part α)}
    (member : part ∈ first :: others) :
    part.source.length ≤ (first.text ++ Part.behind others).length := by
  have own (part : Part α) : part.source.length ≤ part.text.length := by
    simp only [Part.text, List.length_append]
    omega
  induction others generalizing first with
  | nil =>
    obtain rfl := List.mem_singleton.1 member
    simpa [Part.behind] using own part
  | cons next others ih =>
    have split : (Part.behind (next :: others)).length =
        (next.text ++ Part.behind others).length + 1 := by
      simp [Part.behind]
    rw [List.length_append, split]
    rcases List.mem_cons.1 member with rfl | later
    · have := own part
      omega
    · have := ih later
      omega

private theorem parts_length_le (others : List (Part α)) :
    others.length ≤ (Part.behind others).length := by
  induction others with
  | nil => exact Nat.zero_le _
  | cons next others ih =>
    have split : (Part.behind (next :: others)).length =
        next.text.length + (Part.behind others).length + 1 := by
      simp [Part.behind]
    rw [List.length_cons, split]
    omega

/-- A reader of items attempts every part of a group. -/
structure Attempts (item : Reader α) (fits excused : α → Prop) (part : Part α) : Prop where
  spaced : part.Spaced
  solid : Solid part.source
  attempt : ∀ rest, Ended rest →
    Attempt (item (part.source ++ rest)) part.value rest (fits part.value) (excused part.value)

variable {item : Reader α} {closing : Char} {sound reason : α → Prop}

private theorem readItems_none {text : List Char} (stopped : item text = none) :
    readItems item closing (fuel + 1) text = none := by
  rw [readItems, stopped]
  rfl

private theorem readItems_last {text : List Char} {found : α}
    (read : item text = some (found, behind)) (skipped : skipSpace behind = closing :: rest)
    (mark : closing ≠ ',') :
    readItems item closing (fuel + 1) text = some ([found], rest) := by
  rw [readItems, read]
  simp only [Option.bind_eq_bind, Option.bind_some, skipped, if_true]
  rfl

private theorem readItems_more {text : List Char} {found : α}
    (read : item text = some (found, behind)) (skipped : skipSpace behind = ',' :: rest) :
    readItems item closing (fuel + 1) text =
      (readItems item closing fuel (skipSpace rest)).map
        fun (others, rest) => (found :: others, rest) := by
  rw [readItems, read]
  simp only [Option.bind_eq_bind, Option.bind_some, skipped]
  cases readItems item closing fuel (skipSpace rest) <;> rfl

/-- Nothing is skipped at the end of a group. -/
private theorem skipSpace_closing (mark : closing = ']' ∨ closing = '\x7d') (blanks : Blanks gap)
    (rest : List Char) : skipSpace (gap ++ closing :: rest) = closing :: rest := by
  refine skipSpace_append blanks fun c same => ?_
  obtain rfl : closing = c := by simpa using same
  rcases mark with rfl | rfl <;> rfl

/-- The items of a group are read one after the other, each if it fits. -/
theorem readItems_attempt (mark : closing = ']' ∨ closing = '\x7d') {first : Part α}
    {others : List (Part α)} (each : ∀ part ∈ first :: others, Attempts item sound reason part)
    (enough : others.length < fuel) (rest : List Char) :
    Attempt (readItems item closing fuel
        (first.source ++ (first.after ++ (Part.behind others ++ closing :: rest))))
      ((first :: others).map Part.value) rest (∀ part ∈ first :: others, sound part.value)
      (∃ part ∈ first :: others, reason part.value) := by
  -- The induction is on the parts behind the first one, and the fuel outlasts them.
  obtain ⟨fuel, rfl⟩ := Nat.exists_eq_succ_of_ne_zero (Nat.ne_of_gt (Nat.zero_lt_of_lt enough))
  induction others generalizing fuel first with
  | nil =>
    have single := each first List.mem_cons_self
    have ended : Ended (closing :: rest) := ended_cons (by rcases mark with rfl | rfl <;> simp)
    rcases single.attempt _ (ended_blanks single.spaced.after ended) with
      ⟨read, fit⟩ | ⟨stopped, excuse⟩
    · refine .inl ⟨readItems_last read (skipSpace_closing mark single.spaced.after rest) ?_, ?_⟩
      · rcases mark with rfl | rfl <;> decide
      · simpa using fit
    · exact .inr ⟨readItems_none stopped,
        fun fit => ⟨first, List.mem_cons_self, excuse (fit first List.mem_cons_self)⟩⟩
  | cons next others ih =>
    have single := each first List.mem_cons_self
    have second := each next (by simp)
    have tail : Part.behind (next :: others) ++ closing :: rest =
        ',' :: (next.before ++ (next.source ++
          (next.after ++ (Part.behind others ++ closing :: rest)))) := by
      simp [Part.behind, Part.text]
    rw [tail]
    have skipped (rest : List Char) : skipSpace (first.after ++ ',' :: rest) = ',' :: rest :=
      skipSpace_append single.spaced.after (by simp [isSpace])
    have ended (rest : List Char) : Ended (first.after ++ ',' :: rest) :=
      ended_blanks single.spaced.after (ended_cons (by simp))
    rcases single.attempt _ (ended _) with ⟨read, fit⟩ | ⟨stopped, excuse⟩
    · obtain ⟨fuel, rfl⟩ : ∃ less, fuel = less + 1 :=
        Nat.exists_eq_succ_of_ne_zero (by rw [List.length_cons] at enough; omega)
      have later := ih (fun part member => each part (List.mem_cons_of_mem _ member)) fuel
        (by rw [List.length_cons] at enough; omega)
      rw [readItems_more read (skipped _), skipSpace_solid second.spaced.before second.solid]
      refine (later.map (first.value :: ·)).imp ?_ ?_
      · simp [fit]
      · rintro ⟨part, member, held⟩
        exact ⟨part, List.mem_cons_of_mem _ member, held⟩
    · exact .inr ⟨readItems_none stopped,
        fun fit => ⟨first, List.mem_cons_self, excuse (fit first List.mem_cons_self)⟩⟩

private theorem readGroup_attempt (mark : closing = ']' ∨ closing = '\x7d') {first : Part α}
    {others : List (Part α)} (each : ∀ part ∈ first :: others, Attempts item sound reason part)
    (enough : others.length < fuel) (rest : List Char) :
    Attempt (readGroup item closing fuel (first.text ++ Part.behind others ++ closing :: rest))
      ((first :: others).map Part.value) rest (∀ part ∈ first :: others, sound part.value)
      (∃ part ∈ first :: others, reason part.value) := by
  have single := each first List.mem_cons_self
  have read := readItems_attempt mark each enough rest
  have regrouped : first.text ++ Part.behind others ++ closing :: rest = first.before ++
      (first.source ++ (first.after ++ (Part.behind others ++ closing :: rest))) := by
    simp [Part.text]
  rw [readGroup, regrouped, skipSpace_solid single.spaced.before single.solid]
  obtain ⟨c, more, same, apart⟩ := single.solid
  rw [same] at read ⊢
  have other : ¬ c = closing := by
    rintro rfl
    apply apart
    rcases mark with rfl | rfl <;> simp
  rw [List.cons_append] at read ⊢
  simp only [if_neg other]
  exact read

/-- Nothing but blanks stands in a group without parts. -/
private theorem readGroup_empty (mark : closing = ']' ∨ closing = '\x7d') (blanks : Blanks gap)
    (rest : List Char) :
    readGroup item closing fuel (gap ++ closing :: rest) = some ([], rest) := by
  rw [readGroup, skipSpace_closing mark blanks]
  exact if_pos rfl

/-- The fuel outlasts the parts of a group, and the text of every part, if it outlasts the text
of the group. -/
theorem readGroup_written (mark : closing = ']' ∨ closing = '\x7d') {opening : Char}
    {first : Part α} {others : List (Part α)}
    (enough : (opening :: (first.text ++ Part.behind others ++ [closing])).length ≤ fuel)
    (each : ∀ part ∈ first :: others, part.source.length ≤ fuel → Attempts item sound reason part)
    (rest : List Char) :
    Attempt (readGroup item closing fuel (first.text ++ Part.behind others ++ closing :: rest))
      ((first :: others).map Part.value) rest (∀ part ∈ first :: others, sound part.value)
      (∃ part ∈ first :: others, reason part.value) := by
  have short : (first.text ++ Part.behind others).length < fuel := by
    simp only [List.length_cons, List.length_append, List.length_nil] at enough ⊢
    omega
  have counted := parts_length_le others
  have fewer : others.length < fuel := by
    rw [List.length_append] at short
    omega
  exact readGroup_attempt mark
    (fun part member => each part member ((source_length_le member).trans short.le)) fewer rest

/-! ## Values -/

open JsonValue

private theorem written_solid (written : Written text value) : Solid text := by
  have digit {c : Char} (isDigit : c.isDigit = true) :
      c ∉ [' ', '\t', '\n', '\r', ']', '\x7d'] := by
    intro among
    have none : ∀ c ∈ [' ', '\t', '\n', '\r', ']', '\x7d'], c.isDigit = false := by simp
    rw [none c among] at isDigit
    cases isDigit
  cases written with
  | number number =>
    cases number with
    | plain unsigned =>
      obtain ⟨c, more, rfl, isDigit⟩ := unsigned_head unsigned
      exact ⟨c, more, rfl, digit isDigit⟩
    | negative unsigned => exact ⟨_, _, rfl, by decide⟩
  | null => exact ⟨_, _, rfl, by decide⟩
  | true => exact ⟨_, _, rfl, by decide⟩
  | false => exact ⟨_, _, rfl, by decide⟩
  | string => exact ⟨_, _, rfl, by decide⟩
  | emptyArray => exact ⟨_, _, rfl, by decide⟩
  | array => exact ⟨_, _, rfl, by decide⟩
  | emptyObject => exact ⟨_, _, rfl, by decide⟩
  | object => exact ⟨_, _, rfl, by decide⟩

private theorem writtenMember_solid {member : String × JsonValue}
    (written : WrittenMember text member) :
    Solid text := by
  cases written
  exact ⟨_, _, rfl, by decide⟩

private theorem readScalar_number (number : Number text) (ended : Ended rest) :
    Attempt (readScalar (text ++ rest)) .number rest True (HasNumber .number) := by
  have outcome {found : Option (List Char)} (passed : found = some rest ∨ found = none) :
      Attempt (found.map (JsonValue.number, ·)) .number rest True (HasNumber .number) := by
    rcases passed with rfl | rfl
    · exact .inl ⟨rfl, trivial⟩
    · exact .inr ⟨rfl, fun _ => .here⟩
  cases number with
  | negative unsigned => exact outcome (afterNumber_append unsigned ended)
  | plain unsigned =>
    have passed := afterNumber_append unsigned ended
    obtain ⟨c, more, rfl, digit⟩ := unsigned_head unsigned
    have plain : readScalar (c :: more ++ rest) =
        (afterNumber (c :: more ++ rest)).map (JsonValue.number, ·) := by
      rw [List.cons_append]
      unfold readScalar
      split
      case h_7 => rfl
      all_goals
        next same =>
        obtain ⟨rfl, -⟩ := List.cons.inj same
        exact absurd digit (by decide)
    rw [plain]
    exact outcome passed

private theorem number_head (number : Number text) :
    ∃ c more, text = c :: more ∧ c ≠ '[' ∧ c ≠ '\x7b' := by
  cases number with
  | plain unsigned =>
    obtain ⟨c, more, rfl, digit⟩ := unsigned_head unsigned
    refine ⟨c, more, rfl, ?_, ?_⟩ <;> rintro rfl <;> revert digit <;> decide
  | negative => exact ⟨_, _, rfl, by decide, by decide⟩

private theorem readMember_attempt {inner : Reader JsonValue} {sound : JsonValue → Prop}
    {member : String × JsonValue} (written : WrittenMember text member)
    (each : ∀ source value, Written source value → source.length ≤ text.length → ∀ rest,
      Ended rest → Attempt (inner (source ++ rest)) value rest (sound value) (HasNumber value))
    (ended : Ended rest) :
    Attempt (readMember inner (text ++ rest)) member rest (sound member.2)
      (HasNumber member.2) := by
  cases written with
  | @member source content front back text value inside before after written =>
    have key := readString_inside inside (front ++ ':' :: (back ++ (text ++ rest)))
    have colon : skipSpace (front ++ ':' :: (back ++ (text ++ rest))) =
        ':' :: (back ++ (text ++ rest)) := by
      refine skipSpace_append before fun c same => ?_
      obtain rfl : ':' = c := by simpa using same
      rfl
    have regrouped : '\x22' :: (source ++ '\x22' :: (front ++ ':' :: (back ++ text))) ++ rest =
        '\x22' :: (source ++ '\x22' :: (front ++ ':' :: (back ++ (text ++ rest)))) := by
      simp
    rw [regrouped, readMember, key]
    simp only [bind, Option.bind, colon]
    rw [skipSpace_solid after (written_solid written)]
    rcases each text value written (by simp; omega) rest ended with ⟨read, fit⟩ | ⟨stopped, excuse⟩
    · exact .inl ⟨by rw [read]; rfl, fit⟩
    · exact .inr ⟨by rw [stopped], excuse⟩

private theorem readValueWith_number {inner : Reader JsonValue} (number : Number text)
    (rest : List Char) :
    readValueWith fuel inner (text ++ rest) = readScalar (text ++ rest) := by
  obtain ⟨c, more, rfl, other⟩ := number_head number
  rw [List.cons_append]
  unfold readValueWith
  split
  · next same => exact absurd (List.cons.inj same).1 other.1
  · next same => exact absurd (List.cons.inj same).1 other.2
  · rfl

/-- What follows a closing character follows it at once. -/
theorem closed_append (opening closing : Char) (inside rest : List Char) :
    opening :: (inside ++ [closing]) ++ rest = opening :: (inside ++ closing :: rest) := by
  simp

/-- A value is read if what is directly inside of it is. -/
theorem readValueWith_attempt {inner : Reader JsonValue} {sound : JsonValue → Prop}
    (each : ∀ source value, Written source value → source.length ≤ fuel → ∀ rest,
      Ended rest → Attempt (inner (source ++ rest)) value rest (sound value) (HasNumber value))
    (written : Written text value) (enough : text.length ≤ fuel) (ended : Ended rest) :
    Attempt (readValueWith fuel inner (text ++ rest)) value rest (value.Holding sound)
      (HasNumber value) := by
  cases written with
  | null => exact .inl ⟨rfl, trivial⟩
  | true => exact .inl ⟨rfl, trivial⟩
  | false => exact .inl ⟨rfl, trivial⟩
  | number number =>
    rw [readValueWith_number number]
    exact readScalar_number number ended
  | @string source content inside =>
    have read := readString_inside inside rest
    refine .inl ⟨?_, trivial⟩
    rw [closed_append]
    change (readString (source ++ '\x22' :: rest)).map _ = _
    rw [read]
    rfl
  | @emptyArray space gap =>
    have read : readGroup inner ']' fuel (space ++ ']' :: rest) = some ([], rest) :=
      readGroup_empty (.inl rfl) gap rest
    refine .inl ⟨?_, by simp [Holding]⟩
    rw [closed_append, readValueWith, read]
    rfl
  | @emptyObject space gap =>
    have read : readGroup (readMember inner) '\x7d' fuel (space ++ '\x7d' :: rest) =
        some ([], rest) :=
      readGroup_empty (.inr rfl) gap rest
    refine .inl ⟨?_, by simp [Holding]⟩
    rw [closed_append, readValueWith, read]
    rfl
  | @array first others spaced written =>
    have parts : ∀ part ∈ first :: others, part.source.length ≤ fuel →
        Attempts inner sound HasNumber part := fun part member shorter =>
      ⟨spaced part member, written_solid (written part member),
        each _ _ (written part member) shorter⟩
    have read := readGroup_written (.inl rfl) enough parts rest
    rw [closed_append, readValueWith]
    refine (read.map JsonValue.array).imp ?_ ?_
    · simp [Holding]
    · rintro ⟨part, member, held⟩
      exact .item (List.mem_map.2 ⟨part, member, rfl⟩) held
  | @object first others spaced written =>
    have parts : ∀ part ∈ first :: others, part.source.length ≤ fuel →
        Attempts (readMember inner) (fun member => sound member.2)
          (fun member => HasNumber member.2) part := fun part member shorter =>
      ⟨spaced part member, writtenMember_solid (written part member), fun rest ended =>
        readMember_attempt (written part member) (fun source value written inside =>
          each source value written (inside.trans shorter)) ended⟩
    have read := readGroup_written (.inr rfl) enough parts rest
    rw [closed_append, readValueWith]
    refine (read.map JsonValue.object).imp ?_ ?_
    · simp [Holding]
    · rintro ⟨part, member, held⟩
      exact .member (List.mem_map.2 ⟨part, member, rfl⟩) held

/-- A value is read unless another one lies too deep inside of it. -/
theorem readValue_attempt (written : Written text value) (enough : text.length ≤ fuel)
    (ended : Ended rest) :
    Attempt (readValue fuel depth (text ++ rest)) value rest (value.Within depth)
      (HasNumber value) := by
  induction depth generalizing text value rest with
  | zero =>
    exact readValueWith_attempt (fun _ _ _ _ _ _ => .inr ⟨rfl, False.elim⟩) written enough ended
  | succ depth ih =>
    exact readValueWith_attempt (fun _ _ written shorter _ ended => ih written shorter ended)
      written enough ended

/-- **The text of a value is read as this value if no other lies too deep inside of it.** Else
it is no JSON text, and the same can happen to one with a number. -/
theorem parse_textOf {content : String} (written : TextOf content.toList value) :
    (parse content = some value ∧ value.Within depthLimit) ∨
      (parse content = none ∧ (value.Within depthLimit → HasNumber value)) := by
  obtain ⟨part, spaced, written, same, rfl⟩ := written
  have chars : content.toList = part.before ++ (part.source ++ part.after) := by
    rw [← same, Part.text, List.append_assoc]
  have enough : part.source.length ≤ content.toList.length := by
    rw [chars, List.length_append, List.length_append]
    omega
  have ended : Ended part.after := by
    have blank : Ended (part.after ++ []) := ended_blanks spaced.after (by simp [Ended])
    rwa [List.append_nil] at blank
  have begun : skipSpace content.toList = part.source ++ part.after := by
    rw [chars]
    exact skipSpace_solid spaced.before (written_solid written)
  rw [parse]
  simp only [begun]
  have attempt : Attempt (readValue content.toList.length depthLimit (part.source ++ part.after))
      part.value part.after (part.value.Within depthLimit) (HasNumber part.value) :=
    readValue_attempt written enough ended
  rcases attempt with ⟨read, fit⟩ | ⟨stopped, excuse⟩
  · refine .inl ⟨?_, fit⟩
    rw [read]
    simp [skipSpace_blanks spaced.after]
  · exact .inr ⟨by rw [stopped]; rfl, excuse⟩

end DelegateClasses.Json
