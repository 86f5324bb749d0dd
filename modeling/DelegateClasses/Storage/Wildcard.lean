/-! Patterns for the names of files: a star stands for any text, a question mark
for any character, and brackets for one character of a set. -/
namespace DelegateClasses

/-- One member of a set of characters: a range, both ends included. -/
structure CharRange where
  first : Char
  last : Char

/-- One part of a pattern. -/
inductive Wildcard where
  | anyText
  | anyChar
  | oneOf (excluded : Bool) (ranges : List CharRange)
  | literal (c : Char)

namespace Wildcard

/-- One entry in the text of a set. -/
inductive Entry where
  | single (c : Char)
  | span (first last : Char)

/-- The characters that an entry stands for. -/
def Entry.range : Entry → CharRange
  | single c => ⟨c, c⟩
  | span first last => ⟨first, last⟩

/-- The entries of a set. A hyphen between two characters makes a span, a hyphen
at either end stands for itself. -/
def entries : List Char → List Entry
  | [] => []
  | [c] => [.single c]
  | [c, '-'] => [.single c, .single '-']
  | first :: '-' :: last :: rest => .span first last :: entries rest
  | c :: rest => .single c :: entries rest

/-- The entries of a set without the spans whose ends are not in order. -/
def sensibleEntries (body : List Char) : List Entry :=
  (entries body).filter fun entry => entry.range.first ≤ entry.range.last

/-- The set of entries that no exclamation mark stands in front of in the text.
One that has come to the front, because the spans before it were dropped,
excludes all the same; if it began a span, the hyphen then stands for itself. -/
def ofEntries : List Entry → Wildcard
  | .single '!' :: rest => .oneOf true (rest.map (·.range))
  | .span '!' last :: rest =>
    .oneOf true ((.single '-' :: .single last :: rest : List Entry).map (·.range))
  | members => .oneOf false (members.map (·.range))

/-- Cuts a text at the first closing bracket behind its first character. -/
def untilClosing : List Char → Option (List Char × List Char)
  | [] => none
  | c :: rest => match rest.dropWhile (· != ']') with
    | [] => none
    | _ :: tail => some (c :: rest.takeWhile (· != ']'), tail)

/-- The set that starts after an opening bracket, and the text after its closing
bracket. A set holds at least one character, so a closing bracket at its start
stands for itself; an exclamation mark in front of it excludes. -/
def takeSet : List Char → Option (Wildcard × List Char)
  | '!' :: rest => (untilClosing rest).map fun (body, tail) =>
    (.oneOf true ((sensibleEntries body).map (·.range)), tail)
  | text => (untilClosing text).map fun (body, tail) => (ofEntries (sensibleEntries body), tail)

private theorem length_untilClosing_lt {text body rest : List Char}
    (found : untilClosing text = some (body, rest)) : rest.length < text.length := by
  unfold untilClosing at found
  split at found
  · cases found
  · next c tail =>
    split at found
    · cases found
    · next closing =>
      simp only [Option.some.injEq, Prod.mk.injEq] at found
      obtain ⟨-, rfl⟩ := found
      have short := congrArg List.length closing
      have kept := (List.dropWhile_sublist (l := tail) (· != ']')).length_le
      simp at short ⊢
      omega

private theorem length_takeSet_lt {text rest : List Char} {part : Wildcard}
    (found : takeSet text = some (part, rest)) : rest.length < text.length := by
  unfold takeSet at found
  split at found
  all_goals
    obtain ⟨⟨body, tail⟩, cut, same⟩ := Option.map_eq_some_iff.1 found
    simp only [Prod.mk.injEq] at same
    obtain ⟨-, rfl⟩ := same
    have := length_untilClosing_lt cut
    simp at this ⊢
    omega

set_option linter.unusedVariables false in
/-- The parts of a pattern. An opening bracket without a closing one stands for
itself. -/
def parse (text : List Char) : List Wildcard :=
  match text with
  | [] => []
  | '*' :: rest => .anyText :: parse rest
  | '?' :: rest => .anyChar :: parse rest
  | '[' :: rest =>
    match found : takeSet rest with
    | some (part, tail) => part :: parse tail
    | none => .literal '[' :: parse rest
  | c :: rest => .literal c :: parse rest
termination_by text.length
decreasing_by
  all_goals simp
  have := length_takeSet_lt found
  omega

/-- Whether a character is in one of the ranges. -/
def inSet (c : Char) (members : List CharRange) : Bool :=
  members.any fun range => range.first ≤ c && c ≤ range.last

/-- Whether a single part accepts a character. -/
def acceptsChar : Wildcard → Char → Bool
  | anyText, _ => false
  | anyChar, _ => true
  | oneOf excluded members, c => inSet c members != excluded
  | literal expected, c => c == expected

/-- For each position, whether the mark there or one behind it is set. -/
def setFromHere : List Bool → List Bool
  | [] => []
  | mark :: marks =>
    let behind := setFromHere marks
    (mark || behind.headD false) :: behind

/-- For each end of a text, whether it has the form of a pattern: the text itself
comes first, the empty end last. Each part is tried once at each position. -/
def acceptedEnds : List Wildcard → List Char → List Bool
  | [], text => text.map (fun _ => false) ++ [true]
  | .anyText :: parts, text => setFromHere (acceptedEnds parts text)
  | part :: parts, text =>
    List.zipWith (fun c rest => acceptsChar part c && rest) text (acceptedEnds parts text).tail ++
      [false]

/-- Whether a text has the form of a pattern. -/
def accepts (pattern : List Wildcard) (text : List Char) : Bool :=
  (acceptedEnds pattern text).headD false

/-- Whether a text holds a character with a meaning in patterns. -/
def isPattern (text : String) : Bool :=
  text.toList.any fun c => c == '*' || c == '?' || c == '['

/-- Whether a name has the form of a pattern. -/
def accepting (pattern name : String) : Bool :=
  accepts (parse pattern.toList) name.toList

end Wildcard

end DelegateClasses
