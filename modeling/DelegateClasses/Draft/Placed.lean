import DelegateClasses.Draft.Basic
import DelegateClasses.Storage.Tree

/-! Generated classes that are written to files. The file is made, empty, when
the class is begun, and receives its text when the class is given up. -/
namespace DelegateClasses

/-- A generated class with the file that it goes to. -/
structure PlacedDraft where
  path : Path
  /-- Where the file stands in the tree. -/
  place : List String
  draft : ClassDraft

namespace PlacedDraft

/-- How the names of source files end. -/
def suffix : String := ".java"

/-- The name of a class that a file is made for, if none is given. -/
def classNameOf (fileName : String) : String :=
  let name := fileName.toList
  let ending := suffix.toList
  if ending.isSuffixOf name then String.ofList (name.take (name.length - ending.length))
  else fileName

/-- Makes the file of a generated class, and the directories above it. -/
def create (tree : FileTree) (path : Path) (className : String) :
    Except Failure PlacedDraft × FileTree :=
  match tree.ensureDirectories path.parent with
  | (.error error, tree) => (.error (.ofAccess (.outputUnavailable path) error), tree)
  | (.ok (), tree) => match tree.create path.text with
    | .error error => (.error (.ofAccess (.outputUnavailable path) error), tree)
    | .ok (place, tree) =>
      let name := if className = "" then classNameOf path.name else className
      (.ok ⟨path, place, .new name (some .fresh) Imports.defaultAvailable⟩, tree)

/-- Closes the class, and writes to its file what it has written. What another
class wrote to the same file in the meantime is left where it is longer. -/
def release (placed : PlacedDraft) (tree : FileTree) : PlacedDraft × FileTree :=
  let closed := { placed with draft := placed.draft.close }
  match placed.draft.sink with
  | none => (closed, tree)
  | some sink =>
    if sink.writes.isEmpty then (closed, tree)
    else (closed, tree.overwrite placed.place (String.join sink.writes).toUTF8)

end PlacedDraft

end DelegateClasses
