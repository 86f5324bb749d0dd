/-! Texts from bytes. Bytes that are not UTF-8 are either broken off inside of
the last character, with everything before it intact, or wrong altogether. -/
namespace DelegateClasses.Text

/-- What the bytes of a file stand for. -/
inductive Decoded where
  | text (content : String)
  | brokenOff (intact : String)
  | wrong

/-- The bytes that may follow the first byte of a character. -/
def isSecondByte (first second : UInt8) : Bool :=
  if first = 0xE0 then 0xA0 ≤ second && second ≤ 0xBF
  else if first = 0xED then 0x80 ≤ second && second ≤ 0x9F
  else if first = 0xF0 then 0x90 ≤ second && second ≤ 0xBF
  else if first = 0xF4 then 0x80 ≤ second && second ≤ 0x8F
  else 0x80 ≤ second && second ≤ 0xBF

/-- Whether bytes start a character that is longer than they are. -/
def startsLonger : List UInt8 → Bool
  | [first] => 0xC2 ≤ first && first ≤ 0xF4
  | [first, second] => 0xE0 ≤ first && first ≤ 0xF4 && isSecondByte first second
  | [first, second, third] =>
    0xF0 ≤ first && first ≤ 0xF4 && isSecondByte first second && 0x80 ≤ third && third ≤ 0xBF
  | _ => false

/-- The text of bytes whose last character lacks its end, if the given number
of bytes belongs to that character. -/
def intactBefore (bytes : ByteArray) (count : Nat) : Option String :=
  let cut := bytes.size - count
  if count ≤ bytes.size && startsLonger (bytes.extract cut bytes.size).toList then
    String.fromUTF8? (bytes.extract 0 cut)
  else none

/-- Reads bytes as UTF-8. -/
def decode (bytes : ByteArray) : Decoded :=
  match String.fromUTF8? bytes with
  | some content => .text content
  | none => match [1, 2, 3].findSome? (intactBefore bytes) with
    | some intact => .brokenOff intact
    | none => .wrong

/-- The bytes that a text is written with stand for that text. -/
theorem decode_toUTF8 (text : String) : decode text.toUTF8 = .text text := by
  have valid : String.fromUTF8? text.toUTF8 = some text := dif_pos text.isValidUTF8
  rw [decode, valid]

end DelegateClasses.Text
