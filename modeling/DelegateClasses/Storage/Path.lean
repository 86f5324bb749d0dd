/-! Paths. The text of a path may hold empty and `.` components; a `Path` is
its normal form without them. Components `..` stay. A path that starts with
one slash, or with three and more, is absolute; exactly two leading slashes
are a root of their own. -/
namespace DelegateClasses

/-- A path in normal form. -/
structure Path where
  /-- Empty for a relative path, otherwise one or two slashes. -/
  root : String
  parts : List String
deriving DecidableEq, Repr

namespace Path

/-- The components of a path's text that are not empty. -/
def components (text : String) : List String :=
  ((text.toList.splitOn '/').filter (!·.isEmpty)).map String.ofList

/-- The root that a path's text starts with. -/
def rootOf : List Char → String
  | '/' :: '/' :: '/' :: _ => "/"
  | '/' :: '/' :: _ => "//"
  | '/' :: _ => "/"
  | _ => ""

/-- The normal form of a path's text. -/
def ofText (text : String) : Path :=
  ⟨rootOf text.toList, (components text).filter (· != ".")⟩

/-- The text of a path; the empty relative path is a dot. -/
def text (path : Path) : String :=
  if path.root = "" ∧ path.parts = [] then "."
  else path.root ++ "/".intercalate path.parts

/-- The second path seen from the first; an absolute path stays itself. -/
def join (base path : Path) : Path :=
  if path.root = "" then ⟨base.root, base.parts ++ path.parts⟩ else path

/-- The path that a text gives below another path. -/
def child (base : Path) (text : String) : Path :=
  base.join (ofText text)

/-- The path without its last component. -/
def parent (path : Path) : Path :=
  ⟨path.root, path.parts.dropLast⟩

/-- The last component, empty when there is none. -/
def name (path : Path) : String :=
  path.parts.getLastD ""

/-- Joins two texts with a slash. An absolute second text stays itself, and an
empty one leaves a slash at the end. -/
def joinText (base path : String) : String :=
  if path.toList.head? = some '/' then path
  else if base = "" || base.toList.getLast? = some '/' then base ++ path
  else base ++ "/" ++ path

/-- Cuts a text behind its last slash. The slashes at the end of the first part
are dropped, unless it consists of nothing else. -/
def splitText (path : String) : String × String :=
  let reversed := path.toList.reverse
  let last := (reversed.takeWhile (· != '/')).reverse
  let front := reversed.dropWhile (· != '/')
  let stem := front.dropWhile (· == '/')
  let directory := if stem.isEmpty then front.reverse else stem.reverse
  (String.ofList directory, String.ofList last)

/-- The text before the last slash. -/
def directoryText (path : String) : String :=
  (splitText path).1

end Path

end DelegateClasses
