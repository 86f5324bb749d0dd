import DelegateClasses.Text.Alphanumeric
import DelegateClasses.TypeTree.Basic
import DelegateClasses.TypeTree.Brackets

/-! Reading the written form of a type. A text is first checked for balanced
brackets as a whole, then read from the outside in. Blanks are insignificant
around a type, its brackets and commas and before an array suffix, and are
needed after `?` and after the word that introduces a bound. -/
namespace DelegateClasses.TypeTree

/-- Whether a character can start an identifier. -/
def startsIdentifier (c : Char) : Bool :=
  c.isAlpha || c == '_' || c == '$'

/-- Whether a character can continue an identifier. -/
def continuesIdentifier (c : Char) : Bool :=
  Text.isAlphanumeric c || c == '_' || c == '$'

/-- Whether a text is an identifier. -/
def isIdentifier : List Char → Bool
  | [] => false
  | c :: rest => startsIdentifier c && rest.all continuesIdentifier

/-- Whether a text consists of identifiers with single dots between them. -/
def isTypeName (text : List Char) : Bool :=
  (text.splitOn '.').all isIdentifier

/-- Takes array suffixes off a text that is given backwards, together with the
blanks before each, and counts them. -/
def dropSuffixes (count : Nat) : List Char → Nat × List Char
  | ']' :: '[' :: rest => dropSuffixes (count + 1) (rest.dropWhile Text.isBlank)
  | text => (count, text)
termination_by text => text.length
decreasing_by
  have := (List.dropWhile_sublist (l := rest) Text.isBlank).length_le
  simp
  omega

/-- The number of array suffixes of a text, and the text before them. -/
def splitSuffixes (text : List Char) : Nat × List Char :=
  let (count, rest) := dropSuffixes 0 text.reverse
  (count, rest.reverse)

/-- The word that introduces a bound and the text after it, given what follows
the `?` of a wildcard. -/
def splitBound (text : List Char) : Option (String × List Char) :=
  if text.head?.any Text.isBlank then
    let words := Text.trimStart text
    let kind := String.ofList (words.takeWhile (!Text.isBlank ·))
    let rest := Text.trimStart (words.dropWhile (!Text.isBlank ·))
    if boundKinds.contains kind && !rest.isEmpty then some (kind, rest) else none
  else none

private theorem length_dropSuffixes_le (count : Nat) (text : List Char) :
    (dropSuffixes count text).2.length ≤ text.length := by
  fun_induction dropSuffixes count text with
  | case1 count rest ih =>
    have := (List.dropWhile_sublist (l := rest) Text.isBlank).length_le
    simp
    omega
  | case2 => simp

private theorem length_splitSuffixes_le (text : List Char) :
    (splitSuffixes text).2.length ≤ text.length := by
  simpa [splitSuffixes] using length_dropSuffixes_le 0 text.reverse

private theorem length_splitBound_le {text rest : List Char} {kind : String}
    (found : splitBound text = some (kind, rest)) : rest.length ≤ text.length := by
  unfold splitBound at found
  split at found
  · simp only at found
    split at found
    · simp only [Option.some.injEq, Prod.mk.injEq] at found
      obtain ⟨-, rfl⟩ := found
      exact Nat.le_trans (Text.length_trimStart_le _)
        (Nat.le_trans (List.dropWhile_sublist _).length_le (Text.length_trimStart_le _))
    · cases found
  · cases found

/-- The node for a name that was read with its arguments. `text` is the whole
text without array suffixes, `generic` tells whether it has brackets. -/
def assemble (text name : List Char) (generic : Bool) (arguments : List TypeTree)
    (dimensions : Nat) : Except Malformed TypeTree :=
  let written := String.ofList name
  if DottedName.isPrimitive written then
    if generic then .error ⟨.primitiveArguments, text⟩ else .ok (primitive written dimensions)
  else if isTypeName name then .ok (named written arguments dimensions)
  else .error ⟨.invalidName, if name.isEmpty then text else name⟩

set_option linter.unusedVariables false in
/-- Reads a type, a wildcard included. -/
def readType (text : List Char) : Except Malformed TypeTree :=
  match trimmed : Text.trim text with
  | '?' :: rest =>
    if rest.all Text.isBlank then .ok anything
    else match found : splitBound rest with
      | none => .error ⟨.invalidWildcard, '?' :: rest⟩
      | some (kind, inner) => (readType inner).map (bounded kind)
  | body =>
    match split : splitSuffixes body with
    | (dimensions, base) =>
      if base.getLast? = some '>' then
        match group : splitLastGroup base with
        | none => .error ⟨.unmatchedClosing, base⟩
        | some (before, inner) =>
          match parts : splitArguments inner with
          | .error fault => .error fault
          | .ok texts =>
            match texts.attach.mapM fun ⟨part, _⟩ => readType part with
            | .error fault => .error fault
            | .ok arguments => assemble base (Text.trim before) true arguments dimensions
      else assemble base base false [] dimensions
termination_by text.length
decreasing_by
  · have := length_splitBound_le found
    have := Text.length_trim_le text
    simp [trimmed] at this
    omega
  · next member =>
    have := length_le_of_mem_splitArguments parts part member
    have := splitLastGroup_length group
    have shorter := length_splitSuffixes_le body
    rw [split] at shorter
    have := Text.length_trim_le text
    rw [trimmed] at this
    simp at shorter
    omega

/-- Reads the written form of a type. -/
def parse (descriptor : String) : Except Malformed TypeTree :=
  let text := Text.trim descriptor.toList
  if text.isEmpty then .error ⟨.emptyDescriptor, descriptor.toList⟩
  else match checkBalance text with
    | .error fault => .error fault
    | .ok () => readType text

/-- The text of a type without its type arguments. -/
def withoutArguments (descriptor : String) : String :=
  String.ofList (Text.trim (descriptor.toList.takeWhile (· != '<')))

end DelegateClasses.TypeTree
