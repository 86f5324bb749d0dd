import DelegateClasses.Json.Reader

/-! The grammar of JSON texts, by the standard, with the values that the texts stand for.
Strings stand for texts, so escapes of half a pair of code units stand for nothing. The
grammar bounds neither the depth of values nor the length of numbers. -/
namespace DelegateClasses

namespace JsonValue

/-- The values directly inside of a value all fit. -/
def Holding (fits : JsonValue → Prop) : JsonValue → Prop
  | .array items => ∀ item ∈ items, fits item
  | .object members => ∀ member ∈ members, fits member.2
  | _ => True

/-- No value lies deeper than this inside of the value. -/
def Within : Nat → JsonValue → Prop
  | 0 => Holding fun _ => False
  | depth + 1 => Holding (Within depth)

theorem array_within_iff {items : List JsonValue} {depth : Nat} :
    (array items).Within depth ↔
      items = [] ∨ 1 ≤ depth ∧ ∀ item ∈ items, item.Within (depth - 1) := by
  cases depth with
  | zero => simp [Within, Holding, List.eq_nil_iff_forall_not_mem]
  | succ depth =>
    simp only [Within, Holding, Nat.le_add_left, true_and, Nat.add_sub_cancel]
    refine ⟨.inr, ?_⟩
    rintro (rfl | all)
    · exact fun _ none => (by cases none)
    · exact all

theorem object_within_iff {members : List (String × JsonValue)} {depth : Nat}
    (inner : members ≠ []) :
    (object members).Within depth ↔
      1 ≤ depth ∧ ∀ member ∈ members, member.2.Within (depth - 1) := by
  cases depth with
  | zero =>
    obtain ⟨first, others, rfl⟩ := List.exists_cons_of_ne_nil inner
    refine ⟨fun empty => (empty first List.mem_cons_self).elim, fun some => ?_⟩
    exact absurd some.1 (by decide)
  | succ depth =>
    simp only [Within, Holding, Nat.le_add_left, true_and, Nat.add_sub_cancel]

theorem string_within (content : String) (depth : Nat) : (string content).Within depth := by
  cases depth <;> trivial

/-- The value is a number, or one lies inside of it. -/
inductive HasNumber : JsonValue → Prop where
  | here : HasNumber .number
  | item (member : item ∈ items) (inside : HasNumber item) : HasNumber (.array items)
  | member (member : (key, value) ∈ members) (inside : HasNumber value) :
      HasNumber (.object members)

end JsonValue

namespace Json

/-- Blanks between the parts of a text. -/
def Blanks (text : List Char) : Prop :=
  ∀ c ∈ text, c ∈ [' ', '\t', '\n', '\r']

/-! ## Numbers -/

/-- At least one digit. -/
structure Digits (text : List Char) : Prop where
  nonempty : text ≠ []
  all : ∀ c ∈ text, c.isDigit = true

/-- The whole part of a number. No zero stands in front of other digits. -/
inductive Whole : List Char → Prop where
  | zero : Whole ['0']
  | digits (digits : Digits (c :: rest)) (first : c ≠ '0') : Whole (c :: rest)

/-- The fraction of a number, which may be absent. -/
inductive Fraction : List Char → Prop where
  | none : Fraction []
  | digits (digits : Digits text) : Fraction ('.' :: text)

/-- The exponent of a number, which may be absent. -/
inductive Exponent : List Char → Prop where
  | none : Exponent []
  | plain (mark : c ∈ ['e', 'E']) (digits : Digits text) : Exponent (c :: text)
  | signed (mark : c ∈ ['e', 'E']) (sign : d ∈ ['+', '-']) (digits : Digits text) :
      Exponent (c :: d :: text)

/-- A number without a sign. -/
inductive Unsigned : List Char → Prop where
  | parts (whole : Whole front) (fraction : Fraction middle) (exponent : Exponent behind) :
      Unsigned (front ++ middle ++ behind)

/-- A number. -/
inductive Number : List Char → Prop where
  | plain (unsigned : Unsigned text) : Number text
  | negative (unsigned : Unsigned text) : Number ('-' :: text)

/-! ## Strings -/

/-- The letters behind a backslash and the characters that they stand for. -/
def escapes : List (Char × Char) :=
  [('\x22', '\x22'), ('\x5C', '\x5C'), ('/', '/'), ('b', '\x08'), ('f', '\x0C'), ('n', '\n'),
    ('r', '\r'), ('t', '\t')]

/-- A hexadecimal digit and its value. -/
def HexDigit (c : Char) (value : Nat) : Prop :=
  "0123456789abcdef".toList[value]? = some c ∨ "0123456789ABCDEF".toList[value]? = some c

/-- Four hexadecimal digits and the number of the code unit that they give. -/
inductive Code : List Char → Nat → Prop where
  | digits (first : HexDigit a v) (second : HexDigit b w) (third : HexDigit c x)
      (fourth : HexDigit d y) : Code [a, b, c, d] (((v * 16 + w) * 16 + x) * 16 + y)

/-- What stands between the quotes of a string, and the text that it stands for. -/
inductive Inside : List Char → List Char → Prop where
  | nil : Inside [] []
  | char (visible : 0x20 ≤ c.toNat) (quote : c ≠ '\x22') (backslash : c ≠ '\x5C')
      (rest : Inside source content) : Inside (c :: source) (c :: content)
  | escape (known : (letter, c) ∈ escapes) (rest : Inside source content) :
      Inside ('\x5C' :: letter :: source) (c :: content)
  | unit (code : Code digits number) (whole : number < 0xD800 ∨ 0xDFFF < number)
      (rest : Inside source content) :
      Inside ('\x5C' :: 'u' :: (digits ++ source)) (Char.ofNat number :: content)
  | pair (first : Code digits high) (upper : 0xD800 ≤ high ∧ high ≤ 0xDBFF)
      (second : Code others low) (lower : 0xDC00 ≤ low ∧ low ≤ 0xDFFF)
      (rest : Inside source content) :
      Inside ('\x5C' :: 'u' :: (digits ++ '\x5C' :: 'u' :: (others ++ source)))
        (Char.ofNat (0x10000 + (high - 0xD800) * 0x400 + (low - 0xDC00)) :: content)

/-! ## Values -/

/-- What stands between commas, and what it stands for. -/
structure Part (α : Type) where
  before : List Char
  source : List Char
  after : List Char
  value : α

namespace Part

variable {α : Type}

/-- The text of the part, with the blanks around it. -/
def text (part : Part α) : List Char :=
  part.before ++ part.source ++ part.after

/-- Only blanks stand around the part. -/
structure Spaced (part : Part α) : Prop where
  before : Blanks part.before
  after : Blanks part.after

/-- The text of parts that follow another one. -/
def behind (parts : List (Part α)) : List Char :=
  parts.flatMap fun part => ',' :: part.text

end Part

mutual

/-- A text without blanks around it stands for a value. -/
inductive Written : List Char → JsonValue → Prop where
  | null : Written "null".toList .null
  | true : Written "true".toList (.bool true)
  | false : Written "false".toList (.bool false)
  | number (number : Number text) : Written text .number
  | string (inside : Inside source content) :
      Written ('\x22' :: (source ++ ['\x22'])) (.string (String.ofList content))
  | emptyArray (gap : Blanks space) : Written ('[' :: (space ++ [']'])) (.array [])
  | array (spaced : ∀ part ∈ first :: others, part.Spaced)
      (written : ∀ part ∈ first :: others, Written part.source part.value) :
      Written ('[' :: (first.text ++ Part.behind others ++ [']']))
        (.array ((first :: others).map Part.value))
  | emptyObject (gap : Blanks space) : Written ('\x7b' :: (space ++ ['\x7d'])) (.object [])
  | object (spaced : ∀ part ∈ first :: others, part.Spaced)
      (written : ∀ part ∈ first :: others, WrittenMember part.source part.value) :
      Written ('\x7b' :: (first.text ++ Part.behind others ++ ['\x7d']))
        (.object ((first :: others).map Part.value))

/-- A text stands for a key and its value. -/
inductive WrittenMember : List Char → String × JsonValue → Prop where
  | member (inside : Inside source content) (before : Blanks front) (after : Blanks back)
      (written : Written text value) :
      WrittenMember ('\x22' :: (source ++ '\x22' :: (front ++ ':' :: (back ++ text))))
        (String.ofList content, value)

end

/-- The text stands for a value, with blanks around it. -/
def TextOf (text : List Char) (value : JsonValue) : Prop :=
  ∃ part : Part JsonValue, part.Spaced ∧ Written part.source part.value ∧
    part.text = text ∧ part.value = value

end Json

end DelegateClasses
