import DelegateClasses.Json.Value

/-! Reading JSON texts. The text has to be one value with nothing but white
space around it. Beyond the standard, `NaN`, `Infinity` and `-Infinity` are
numbers. There are limits to the depth of nested values and to the length of
numbers. -/
namespace DelegateClasses.Json

/-- Reads something from the start of a text and gives the text behind it. -/
abbrev Reader (α : Type) := List Char → Option (α × List Char)

/-- How deep a value may lie inside of others. -/
def depthLimit : Nat := 200

/-- Whether a character may stand between the parts of a text. -/
def isSpace (c : Char) : Bool :=
  c == ' ' || c == '\t' || c == '\n' || c == '\r'

/-- The text without the white space at its start. -/
def skipSpace (text : List Char) : List Char :=
  text.dropWhile isSpace

/-- The value of a hexadecimal digit. -/
def hexDigit? (c : Char) : Option Nat :=
  if c.isDigit then some (c.toNat - 0x30)
  else if 'a' ≤ c && c ≤ 'f' then some (c.toNat - 0x57)
  else if 'A' ≤ c && c ≤ 'F' then some (c.toNat - 0x37)
  else none

/-- The number that hexadecimal digits stand for. -/
def hexNumber? (digits : List Char) : Option Nat :=
  digits.foldlM (fun number c => (hexDigit? c).map (number * 16 + ·)) 0

/-- What stands in a string: a character, or a code unit given by its number. -/
inductive Piece where
  | char (c : Char)
  | unit (code : Nat)

/-- The character that a letter stands for behind a backslash. -/
def escaped? (c : Char) : Option Char :=
  if c = '\x22' || c = '\x5C' || c = '/' then some c
  else if c = 'b' then some '\x08'
  else if c = 'f' then some '\x0C'
  else if c = 'n' then some '\n'
  else if c = 'r' then some '\r'
  else if c = 't' then some '\t'
  else none

/-- Reads the inside of a string up to its closing quote. -/
def readPieces : Reader (List Piece)
  | [] => none
  | '\x22' :: rest => some ([], rest)
  | '\x5C' :: 'u' :: a :: b :: c :: d :: rest => do
    let code ← hexNumber? [a, b, c, d]
    let (pieces, rest) ← readPieces rest
    return (.unit code :: pieces, rest)
  | '\x5C' :: letter :: rest => do
    let c ← escaped? letter
    let (pieces, rest) ← readPieces rest
    return (.char c :: pieces, rest)
  | c :: rest =>
    if c.toNat < 0x20 || c = '\x5C' then none
    else do
      let (pieces, rest) ← readPieces rest
      return (.char c :: pieces, rest)

/-- The character that two code units stand for together. -/
def paired (high low : Nat) : Char :=
  Char.ofNat (0x10000 + (high - 0xD800) * 0x400 + (low - 0xDC00))

/-- The text of the pieces of a string. Code units of a pair have to stand
together. -/
def assemble : List Piece → Option (List Char)
  | [] => some []
  | .char c :: rest => (assemble rest).map (c :: ·)
  | .unit high :: .unit low :: rest =>
    if 0xD800 ≤ high && high ≤ 0xDBFF then
      if 0xDC00 ≤ low && low ≤ 0xDFFF then (assemble rest).map (paired high low :: ·) else none
    else if 0xDC00 ≤ high && high ≤ 0xDFFF then none
    else (assemble (.unit low :: rest)).map (Char.ofNat high :: ·)
  | .unit code :: rest =>
    if 0xD800 ≤ code && code ≤ 0xDFFF then none else (assemble rest).map (Char.ofNat code :: ·)

/-- Reads a string whose opening quote was read. -/
def readString : Reader String := fun text => do
  let (pieces, rest) ← readPieces text
  return (String.ofList (← assemble pieces), rest)

/-- The text behind at least one digit. -/
def afterDigits (text : List Char) : Option (List Char) :=
  if text.head?.any Char.isDigit then some (text.dropWhile Char.isDigit) else none

/-- How many digits the whole part of a number may have. -/
def wholeLimit : Nat := 4300

/-- The text behind the whole part of a number. -/
def afterWhole : List Char → Option (List Char)
  | '0' :: rest => some rest
  | text => if (text.takeWhile Char.isDigit).length > wholeLimit then none else afterDigits text

/-- The text behind the fraction of a number, if it has one. -/
def afterFraction : List Char → Option (List Char)
  | '.' :: rest => afterDigits rest
  | text => some text

/-- The text behind the exponent of a number, if it has one. -/
def afterExponent : List Char → Option (List Char)
  | [] => some []
  | c :: rest =>
    if c = 'e' || c = 'E' then
      match rest with
      | [] => none
      | sign :: digits =>
        if sign = '+' || sign = '-' then afterDigits digits else afterDigits (sign :: digits)
    else some (c :: rest)

/-- The text behind a number without a sign. -/
def afterNumber (text : List Char) : Option (List Char) :=
  match "Infinity".toList.isPrefixOf? text with
  | some rest => some rest
  | none => do afterExponent (← afterFraction (← afterWhole text))

/-- Reads a value that holds no others. -/
def readScalar : Reader JsonValue
  | '\x22' :: rest => (readString rest).map fun (text, rest) => (.string text, rest)
  | 'n' :: rest => ("ull".toList.isPrefixOf? rest).map (.null, ·)
  | 't' :: rest => ("rue".toList.isPrefixOf? rest).map (.bool true, ·)
  | 'f' :: rest => ("alse".toList.isPrefixOf? rest).map (.bool false, ·)
  | 'N' :: rest => ("aN".toList.isPrefixOf? rest).map (.number, ·)
  | '-' :: rest => (afterNumber rest).map (.number, ·)
  | text => (afterNumber text).map (.number, ·)

/-- Reads a key and its value. -/
def readMember (value : Reader JsonValue) : Reader (String × JsonValue)
  | '\x22' :: rest => do
    let (key, rest) ← readString rest
    match skipSpace rest with
    | ':' :: rest =>
      let (found, rest) ← value (skipSpace rest)
      return ((key, found), rest)
    | _ => none
  | _ => none

/-- Reads items with commas between them, up to a closing character. There are
no more items than the fuel says. -/
def readItems {α : Type} (item : Reader α) (closing : Char) : Nat → Reader (List α)
  | 0, _ => none
  | fuel + 1, text => do
    let (first, rest) ← item text
    match skipSpace rest with
    | ',' :: rest =>
      let (others, rest) ← readItems item closing fuel (skipSpace rest)
      return (first :: others, rest)
    | c :: rest => if c = closing then return ([first], rest) else none
    | [] => none

/-- Reads the items of a list or an object, if it has any. -/
def readGroup {α : Type} (item : Reader α) (closing : Char) (fuel : Nat) : Reader (List α) :=
  fun text => match skipSpace text with
    | [] => none
    | c :: rest => if c = closing then some ([], rest) else readItems item closing fuel (c :: rest)

/-- Reads a value, given how to read the values inside of it. -/
def readValueWith (fuel : Nat) (inner : Reader JsonValue) : Reader JsonValue
  | '[' :: rest => (readGroup inner ']' fuel rest).map fun (items, rest) => (.array items, rest)
  | '\x7b' :: rest =>
    (readGroup (readMember inner) '\x7d' fuel rest).map
      fun (members, rest) => (.object members, rest)
  | text => readScalar text

/-- Reads a value with others nested in it to the given depth. -/
def readValue (fuel : Nat) : Nat → Reader JsonValue
  | 0 => readValueWith fuel fun _ => none
  | depth + 1 => readValueWith fuel (readValue fuel depth)

/-- The value of a text. -/
def parse (text : String) : Option JsonValue := do
  let chars := text.toList
  let (value, rest) ← readValue chars.length depthLimit (skipSpace chars)
  if (skipSpace rest).isEmpty then return value else none

end DelegateClasses.Json
