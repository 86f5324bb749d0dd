import DelegateClasses.Storage.Fault
import DelegateClasses.Storage.Path

/-! A tree of directories and files, and the accesses to it by path. A path is
followed component by component: each but the last has to be a directory. The
tree holds no links, so `..` is the directory above. -/
namespace DelegateClasses

/-- What stands at a place of the tree. -/
inductive Node where
  | directory
  | file (content : ByteArray)

/-- Whether the node is a directory. -/
def Node.isDirectory : Node → Bool
  | .directory => true
  | .file _ => false

/-- A tree of directories and files. The places are given by the components
from the root, which is a directory and needs no entry. -/
structure FileTree where
  /-- The directory from which relative paths start. -/
  workingDirectory : List String
  entries : List (List String × Node)

namespace FileTree

/-- The longest name of a directory or file, in bytes. -/
def nameLimit : Nat := 255

/-- A path has to be shorter than this, in bytes. -/
def pathLimit : Nat := 4096

/-- Refuses a text that cannot be the path of anything. -/
def checkText (path : String) : Except Fault Unit :=
  if path.toList.contains '\x00' then .error .unnameable
  else if path = "" then .error .notFound
  else if path.utf8ByteSize ≥ pathLimit then .error .nameTooLong
  else .ok ()

/-- What stands at a place. -/
def node? (tree : FileTree) (place : List String) : Option Node :=
  if place = [] then some .directory else tree.entries.lookup place

/-- Puts a node at a place. -/
def set (tree : FileTree) (place : List String) (node : Node) : FileTree :=
  if (tree.entries.lookup place).isSome then
    { tree with entries := tree.entries.map fun entry => if entry.1 = place then (place, node) else entry }
  else { tree with entries := tree.entries ++ [(place, node)] }

/-- The names in a directory, with what stands there. -/
def children (tree : FileTree) (place : List String) : List (String × Node) :=
  tree.entries.filterMap fun entry =>
    if entry.1.dropLast = place then entry.1.getLast?.map (·, entry.2) else none

/-- Follows one component. -/
def step (tree : FileTree) (current : List String × Node) (component : String) :
    Except Fault (List String × Node) :=
  match current.2 with
  | .file _ => .error .notDirectory
  | .directory =>
    if component = "." then .ok current
    else if component = ".." then .ok (current.1.dropLast, .directory)
    else if component.utf8ByteSize > nameLimit then .error .nameTooLong
    else
      let place := current.1 ++ [component]
      match tree.node? place with
      | none => .error .notFound
      | some node => .ok (place, node)

/-- The components that a path's text makes one follow. A slash at the end asks
for a directory. -/
def route (path : String) : List String :=
  Path.components path ++ if path.toList.getLast? = some '/' then ["."] else []

/-- The place from which a path's text starts. -/
def origin (tree : FileTree) (path : String) : List String × Node :=
  (if path.toList.head? = some '/' then [] else tree.workingDirectory, .directory)

/-- Follows a path to something that exists. -/
def resolve (tree : FileTree) (path : String) : Except Fault (List String × Node) := do
  checkText path
  (route path).foldlM tree.step (tree.origin path)

/-- Follows a path to a place that need not exist yet: gives the directory and
the last name, or no name when the path ends in the root, `.` or `..`. -/
def locate (tree : FileTree) (path : String) : Except Fault (List String × Option String) := do
  checkText path
  let names := route path
  match names.getLast? with
  | none => return ([], none)
  | some last =>
    let (place, node) ← names.dropLast.foldlM tree.step (tree.origin path)
    match node with
    | .file _ => throw .notDirectory
    | .directory =>
      if last = "." || last = ".." then return (place, none)
      else if last.utf8ByteSize > nameLimit then throw .nameTooLong
      else return (place, some last)

/-- Whether a path leads to something. -/
def occupied (tree : FileTree) (path : String) : Bool :=
  (tree.resolve path).toBool

/-- Whether a path leads to a directory. -/
def isDirectory (tree : FileTree) (path : String) : Bool :=
  match tree.resolve path with
  | .ok (_, node) => node.isDirectory
  | .error _ => false

/-- Whether a path leads to a file. -/
def isFile (tree : FileTree) (path : String) : Bool :=
  match tree.resolve path with
  | .ok (_, node) => !node.isDirectory
  | .error _ => false

/-- The names in the directory to which a path leads, none if it leads to no
directory. -/
def list (tree : FileTree) (path : String) : List (String × Node) :=
  match tree.resolve path with
  | .ok (place, .directory) => tree.children place
  | _ => []

/-- The content of a file. -/
def read (tree : FileTree) (path : String) : Except FileError ByteArray :=
  match tree.resolve path with
  | .error fault => .error ⟨fault, path⟩
  | .ok (_, .directory) => .error ⟨.isDirectory, path⟩
  | .ok (_, .file content) => .ok content

/-- Makes one directory. -/
def makeDirectory (tree : FileTree) (path : String) : Except Fault FileTree := do
  match ← tree.locate path with
  | (_, none) => .error .alreadyExists
  | (place, some name) =>
    if (tree.node? (place ++ [name])).isSome then .error .alreadyExists
    else .ok (tree.set (place ++ [name]) .directory)

/-- Makes one directory unless it is there. -/
def ensureDirectory (tree : FileTree) (path : String) : Except FileError Unit × FileTree :=
  match tree.makeDirectory path with
  | .ok changed => (.ok (), changed)
  | .error fault =>
    if fault ≠ .notFound ∧ tree.isDirectory path then (.ok (), tree)
    else (.error ⟨fault, path⟩, tree)

/-- Makes a directory and those above it unless they are there. The components
are given from the last to the first. What was made stays, also on an error. -/
def ensureUpwards (root : String) : List String → FileTree → Except FileError Unit × FileTree
  | [], tree => tree.ensureDirectory (Path.text ⟨root, []⟩)
  | part :: above, tree =>
    let path := Path.text ⟨root, (part :: above).reverse⟩
    match tree.makeDirectory path with
    | .error .notFound =>
      match ensureUpwards root above tree with
      | (.ok (), tree) => tree.ensureDirectory path
      | failed => failed
    | _ => tree.ensureDirectory path

/-- Makes a directory and those above it unless they are there. -/
def ensureDirectories (tree : FileTree) (path : Path) : Except FileError Unit × FileTree :=
  ensureUpwards path.root path.parts.reverse tree

/-- Opens a file for writing, which leaves it empty, and gives its place. -/
def create (tree : FileTree) (path : String) : Except FileError (List String × FileTree) :=
  match tree.locate path with
  | .error fault => .error ⟨fault, path⟩
  | .ok (_, none) => .error ⟨.isDirectory, path⟩
  | .ok (place, some name) =>
    match tree.node? (place ++ [name]) with
    | some .directory => .error ⟨.isDirectory, path⟩
    | _ => .ok (place ++ [name], tree.set (place ++ [name]) (.file .empty))

/-- Writes over the start of a file. What lies behind the written text stays. -/
def overwrite (tree : FileTree) (place : List String) (text : ByteArray) : FileTree :=
  match tree.node? place with
  | some (.file content) =>
    tree.set place (.file (text ++ content.extract text.size content.size))
  | _ => tree

/-- The files whose content differs from an earlier state of the tree, and the
files that were not there. -/
def changedSince (tree before : FileTree) : List (List String × ByteArray) :=
  tree.entries.filterMap fun (place, node) =>
    match node, before.node? place with
    | .directory, _ => none
    | .file content, some (.file earlier) =>
      if content == earlier then none else some (place, content)
    | .file content, _ => some (place, content)

end FileTree

end DelegateClasses
