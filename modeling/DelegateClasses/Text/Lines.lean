/-! The lines of a text. A line feed, a carriage return and the pair of both
end a line, nothing else does. A last line without an end counts, and an end
at the very end of the text starts no further line. -/
namespace DelegateClasses.Text

/-- Writes every line end as a single line feed. -/
def unifyLineEnds : List Char → List Char
  | [] => []
  | '\r' :: '\n' :: rest => '\n' :: unifyLineEnds rest
  | c :: rest => (if c = '\r' then '\n' else c) :: unifyLineEnds rest

/-- The lines of a text whose line ends are line feeds. -/
def splitLines : List Char → List (List Char)
  | [] => []
  | c :: rest =>
    if c = '\n' then [] :: splitLines rest
    else match splitLines rest with
      | [] => [[c]]
      | line :: lines => (c :: line) :: lines

/-- The lines of a text, without their ends. -/
def lines (text : String) : List String :=
  (splitLines (unifyLineEnds text.toList)).map String.ofList

end DelegateClasses.Text
