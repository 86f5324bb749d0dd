import DelegateClasses.Text.Blank
import DelegateClasses.TypeTree.Malformed

/-! The angle brackets around type arguments: whether they are balanced, where
the last group begins, and where commas separate the arguments of a group. -/
namespace DelegateClasses.TypeTree

/-- Reads a text against a stack that holds, for every open bracket, the text
from that bracket on. `seen` is what was read so far, backwards. -/
def checkBrackets (seen : List Char) (opened : List (List Char)) :
    List Char → Except Malformed Unit
  | [] => match opened.getLast? with
    | none => .ok ()
    | some rest => .error ⟨.unclosed, rest⟩
  | c :: rest =>
    if c = '<' then checkBrackets (c :: seen) ((c :: rest) :: opened) rest
    else if c = '>' then match opened with
      | [] => .error ⟨.unmatchedClosing, (c :: seen).reverse⟩
      | _ :: outer => checkBrackets (c :: seen) outer rest
    else checkBrackets (c :: seen) opened rest

/-- Accepts the texts whose brackets are balanced. A closing bracket too many is
shown with everything before it, a bracket left open with everything after it. -/
def checkBalance (text : List Char) : Except Malformed Unit :=
  checkBrackets [] [] text

/-- Reads a text backwards until it meets the bracket that opens the current
group, and gives the text before it and the text of the group. -/
def openingBracket (depth : Nat) (inner : List Char) : List Char → Option (List Char × List Char)
  | [] => none
  | c :: rest =>
    if c = '>' then openingBracket (depth + 1) (c :: inner) rest
    else if c = '<' then match depth with
      | 0 => some (rest.reverse, inner)
      | outer + 1 => openingBracket outer (c :: inner) rest
    else openingBracket depth (c :: inner) rest

/-- Cuts a text that ends in a closing bracket into the part before its last
group and the text inside of that group. -/
def splitLastGroup (text : List Char) : Option (List Char × List Char) :=
  match text.reverse with
  | [] => none
  | _ :: rest => openingBracket 0 [] rest

/-- The trimmed pieces between the commas outside of all brackets. `piece` is
the current piece and `seen` all that was read so far, both backwards. -/
def pieces (depth : Nat) (piece seen : List Char) :
    List Char → Except Malformed (List (List Char))
  | [] =>
    if depth = 0 then .ok [Text.trim piece.reverse] else .error ⟨.unclosed, seen.reverse⟩
  | c :: rest =>
    if c = '<' then pieces (depth + 1) (c :: piece) (c :: seen) rest
    else if c = '>' then match depth with
      | 0 => .error ⟨.unmatchedClosing, (c :: seen).reverse⟩
      | outer + 1 => pieces outer (c :: piece) (c :: seen) rest
    else if c = ',' ∧ depth = 0 then
      (pieces 0 [] (c :: seen) rest).map (Text.trim piece.reverse :: ·)
    else pieces depth (c :: piece) (c :: seen) rest

/-- The arguments of a group. A blank group has none; otherwise every argument
has to hold something. -/
def splitArguments (text : List Char) : Except Malformed (List (List Char)) :=
  if text.all Text.isBlank then .ok []
  else match pieces 0 [] [] text with
    | .error fault => .error fault
    | .ok found => if found.any List.isEmpty then .error ⟨.emptyArgument, text⟩ else .ok found

private theorem openingBracket_length {depth : Nat} {inner text before group : List Char}
    (found : openingBracket depth inner text = some (before, group)) :
    before.length + group.length < inner.length + text.length := by
  induction text generalizing depth inner with
  | nil => simp [openingBracket] at found
  | cons c rest ih =>
    unfold openingBracket at found
    split at found
    · have := ih found
      simp at this ⊢
      omega
    · split at found
      · split at found
        · simp only [Option.some.injEq, Prod.mk.injEq] at found
          obtain ⟨rfl, rfl⟩ := found
          simp
          omega
        · have := ih found
          simp at this ⊢
          omega
      · have := ih found
        simp at this ⊢
        omega

/-- The last group is shorter than the text that holds it. -/
theorem splitLastGroup_length {text before group : List Char}
    (found : splitLastGroup text = some (before, group)) : group.length < text.length := by
  unfold splitLastGroup at found
  split at found
  · cases found
  · next reversed =>
    have short := openingBracket_length found
    have total := congrArg List.length reversed
    simp at short total
    omega

private theorem length_le_of_mem_pieces {depth : Nat} {piece seen text : List Char}
    {found : List (List Char)} (split : pieces depth piece seen text = .ok found) :
    ∀ part ∈ found, part.length ≤ piece.length + text.length := by
  induction text generalizing depth piece seen found with
  | nil =>
    unfold pieces at split
    split at split
    · cases split
      intro part member
      rw [List.mem_singleton] at member
      subst member
      simpa using Text.length_trim_le piece.reverse
    · cases split
  | cons c rest ih =>
    unfold pieces at split
    split at split
    · intro part member
      have := ih split part member
      simp at this ⊢
      omega
    · split at split
      · split at split
        · cases split
        · intro part member
          have := ih split part member
          simp at this ⊢
          omega
      · split at split
        · cases others : pieces 0 [] (c :: seen) rest with
          | error fault => rw [others] at split; cases split
          | ok parts =>
            rw [others] at split
            cases split
            intro part member
            rcases List.mem_cons.1 member with rfl | later
            · have := Text.length_trim_le piece.reverse
              simp at this ⊢
              omega
            · have := ih others part later
              simp at this ⊢
              omega
        · intro part member
          have := ih split part member
          simp at this ⊢
          omega

/-- No argument is longer than its group. -/
theorem length_le_of_mem_splitArguments {text : List Char} {found : List (List Char)}
    (split : splitArguments text = .ok found) : ∀ part ∈ found, part.length ≤ text.length := by
  unfold splitArguments at split
  split at split
  · cases split
    simp
  · split at split
    · cases split
    · next parts pieced =>
      split at split
      · cases split
      · cases split
        intro part member
        simpa using length_le_of_mem_pieces pieced part member

end DelegateClasses.TypeTree
