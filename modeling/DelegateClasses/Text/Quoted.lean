import DelegateClasses.Text.Printable

/-! Quoted texts, as they stand in messages about files and arguments. A text
stands between single quotes, or between double quotes when it holds single
quotes only. Unprintable characters are written by their code point. -/
namespace DelegateClasses.Text

/-- The lower-case hexadecimal digits of a number, padded with zeros. -/
def hexadecimal (width number : Nat) : List Char :=
  let digits := Nat.toDigits 16 number
  List.replicate (width - digits.length) '0' ++ digits

/-- The written form of one character between the given quotes. -/
def quotedChar (quote c : Char) : List Char :=
  if c = quote || c = '\x5C' then ['\x5C', c]
  else if c = '\n' then ['\x5C', 'n']
  else if c = '\r' then ['\x5C', 'r']
  else if c = '\t' then ['\x5C', 't']
  else if isPrintable c then [c]
  else if c.toNat ≤ 0xFF then '\x5C' :: 'x' :: hexadecimal 2 c.toNat
  else if c.toNat ≤ 0xFFFF then '\x5C' :: 'u' :: hexadecimal 4 c.toNat
  else '\x5C' :: 'U' :: hexadecimal 8 c.toNat

/-- A character between the space and the tilde stands as it is, but for the quote and the
backslash. -/
theorem quotedChar_plain {quote c : Char} (least : 0x20 ≤ c.toNat) (most : c.toNat < 0x7F)
    (unquoted : c ≠ quote) (other : c ≠ '\x5C') : quotedChar quote c = [c] := by
  have control (mark : Char) (low : mark.toNat < 0x20) : c ≠ mark := by
    rintro rfl
    exact absurd least (Nat.not_le.2 low)
  rw [quotedChar, if_neg (by simp [unquoted, other]), if_neg (control '\n' (by decide)),
    if_neg (control '\r' (by decide)), if_neg (control '\t' (by decide)),
    if_pos (isPrintable_ascii least most)]

/-- The quote that a text is written with. -/
def quoteFor (text : List Char) : Char :=
  if text.contains '\x27' && !text.contains '\x22' then '\x22' else '\x27'

/-- The text between quotes. -/
def quoted (text : String) : String :=
  let quote := quoteFor text.toList
  String.ofList (quote :: text.toList.flatMap (quotedChar quote) ++ [quote])

/-- A text in which nothing is escaped stands between single quotes as it is. -/
theorem quoted_of_plain {text : String} (plain : ∀ c ∈ text.toList, quotedChar '\x27' c = [c]) :
    quoted text = "'" ++ text ++ "'" := by
  have single : quoteFor text.toList = '\x27' := by
    rw [quoteFor, if_neg]
    intro doubled
    have quote := List.contains_iff_mem.1 (Bool.and_eq_true_iff.1 doubled).1
    cases plain _ quote
  have kept : text.toList.flatMap (quotedChar '\x27') = text.toList := by
    rw [List.flatMap_def, List.map_congr_left plain, ← List.flatMap_def, List.flatMap_singleton']
  simp only [quoted]
  rw [single, kept, ← String.toList_inj]
  simp

/-- The quoted texts of a list, between square brackets. -/
def quotedList (texts : List String) : String :=
  "[" ++ ", ".intercalate (texts.map quoted) ++ "]"

end DelegateClasses.Text
