/-! Blank characters and the trimming of texts. Blank are the white-space
characters of every script and the four information separators; a zero-width
space, a byte-order mark and NUL are not blank. -/
namespace DelegateClasses.Text

/-- Whether a character is white space or an information separator. -/
def isBlank (c : Char) : Bool :=
  let code := c.toNat
  (0x09 ≤ code && code ≤ 0x0D) || (0x1C ≤ code && code ≤ 0x20) || code == 0x85 || code == 0xA0 ||
    code == 0x1680 || (0x2000 ≤ code && code ≤ 0x200A) || code == 0x2028 || code == 0x2029 ||
    code == 0x202F || code == 0x205F || code == 0x3000

/-- The text without the blanks at its start. -/
def trimStart (text : List Char) : List Char :=
  text.dropWhile isBlank

/-- The text without the blanks at its end. -/
def trimEnd (text : List Char) : List Char :=
  (text.reverse.dropWhile isBlank).reverse

/-- The text without the blanks at both ends. -/
def trim (text : List Char) : List Char :=
  trimEnd (trimStart text)

/-- The string without the blanks at both ends. -/
def trimmed (text : String) : String :=
  String.ofList (trim text.toList)

theorem length_trimStart_le (text : List Char) : (trimStart text).length ≤ text.length :=
  (List.dropWhile_sublist isBlank).length_le

private theorem length_trimEnd_le (text : List Char) : (trimEnd text).length ≤ text.length := by
  simpa [trimEnd] using (List.dropWhile_sublist (l := text.reverse) isBlank).length_le

/-- Trimming never lengthens a text. -/
theorem length_trim_le (text : List Char) : (trim text).length ≤ text.length :=
  Nat.le_trans (length_trimEnd_le _) (length_trimStart_le _)

end DelegateClasses.Text
