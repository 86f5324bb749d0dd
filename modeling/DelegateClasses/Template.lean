import DelegateClasses.Failure
import DelegateClasses.Storage.Tree
import DelegateClasses.Text.Lines
import DelegateClasses.Text.Utf8

/-! Templates. Lines that start with a marker divide a template into sections;
generated text goes where the markers are. -/
namespace DelegateClasses

/-- What happens behind the last line of a file that can be read. -/
inductive Remainder where
  /-- The file ends. -/
  | nothing
  /-- The next reading fails, and the file ends. -/
  | failing
  /-- Every further reading fails. -/
  | broken
deriving DecidableEq

/-- What remains to happen after a failed reading. -/
def Remainder.afterFailure : Remainder → Remainder
  | failing => nothing
  | other => other

/-- A template that was opened: the lines still to be read, unless it is closed. -/
structure Template where
  path : Path
  rest : Option (List String × Remainder)

/-- Work on a template. -/
abbrev TemplateReading := EStateM Failure Template

namespace Template

/-- How the lines start that divide a template. -/
def marker : List Char := ['+', '+', '+', '+']

/-- Whether a line divides the template. -/
def isMarker (line : String) : Bool :=
  marker.isPrefixOf line.toList

/-- The lines up to the next marker, whether there is one, and the lines after
it. -/
def takeSection (lines : List String) : List String × Bool × List String :=
  match lines.dropWhile (!isMarker ·) with
  | [] => (lines, false, [])
  | _ :: rest => (lines.takeWhile (!isMarker ·), true, rest)

/-- The lines of a text that is broken off, without the last one, whose end is
unknown. -/
def completeLines (text : String) : List String :=
  let certain := if text.toList.getLast? = some '\r' then text.toList.dropLast else text.toList
  let unified := Text.unifyLineEnds certain
  (Text.splitLines (unified.reverse.dropWhile (· != '\n')).reverse).map String.ofList

/-- What can be read from the bytes of a file. They are decoded as a whole: bytes
that are not UTF-8 fail at the first reading. A reader that decodes one block of
the file after the other gives the same for files of a single block, while in a
longer file it may hand out sections before it fails at a later one. -/
def content (bytes : ByteArray) : List String × Remainder :=
  match Text.decode bytes with
  | .text text => (Text.lines text, .nothing)
  | .brokenOff intact => (completeLines intact, .broken)
  | .wrong => ([], .failing)

/-- Opens a template. -/
def openFrom (tree : FileTree) (path : Path) : Except Failure Template :=
  match tree.read path.text with
  | .error error => .error (.ofAccess (.templateUnavailable path) error)
  | .ok bytes => .ok ⟨path, some (content bytes)⟩

/-- Reads the lines up to the next marker or the end. The answer also tells
whether a marker was read. -/
def readSection : TemplateReading (List String × Bool) := do
  let template ← get
  match template.rest with
  | none => throw .templateClosed
  | some (lines, remainder) =>
    let (taken, found, rest) := takeSection lines
    if found || remainder == .nothing then
      set { template with rest := some (rest, remainder) }
      return (taken, found)
    else
      set { template with rest := some ([], remainder.afterFailure) }
      throw .undecodable

/-- Closes the template. -/
def close (template : Template) : Template :=
  { template with rest := none }

/-- Reads sections until the end, at most as many as there are lines and one. -/
def sectionsFrom : Nat → TemplateReading (List (List String))
  | 0 => return []
  | fuel + 1 => do
    let (lines, found) ← readSection
    if found then return lines :: (← sectionsFrom fuel) else return [lines]

/-- Reads all sections that are left. -/
def readSections : TemplateReading (List (List String)) := do
  let template ← get
  sectionsFrom ((template.rest.map (·.1.length)).getD 0 + 1)

/-- The lines of a section without the empty ones at both ends, as one text. -/
def sectionText (lines : List String) : String :=
  let isEnd := fun c : Char => c == '\n'
  let text := ("\n".intercalate lines).toList.dropWhile isEnd
  String.ofList (text.reverse.dropWhile isEnd).reverse

end Template

end DelegateClasses
