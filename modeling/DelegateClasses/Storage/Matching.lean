import DelegateClasses.Storage.Tree
import DelegateClasses.Storage.Wildcard
import DelegateClasses.Text.Ascending

/-! The paths of a tree that have the form of a pattern. The directory part and
the last part of a pattern are matched one after the other. A name with a
leading dot is matched by a pattern with a leading dot only. Two stars stand
for any number of directories when that is asked for. -/
namespace DelegateClasses.FileTree

/-- Whether a name starts with a dot. -/
def isHidden (name : String) : Bool :=
  name.toList.head? = some '.'

/-- Whether a part of a pattern stands for any number of directories. -/
def spansDirectories (recursive : Bool) (part : String) : Bool :=
  recursive && part == "**"

/-- Joins two texts with a slash, unless one of them is empty. -/
def joinNonEmpty (base name : String) : String :=
  if base = "" then name else if name = "" then base else Path.joinText base name

/-- The names in a directory, only those of directories if that is asked for. -/
def namesIn (tree : FileTree) (directory : String) (onlyDirectories : Bool) : List String :=
  (tree.list directory).filterMap fun entry =>
    if onlyDirectories && !entry.2.isDirectory then none else some entry.1

/-- The paths below a directory, seen from it, without those that pass through
or end in a hidden name. The fuel bounds the depth. -/
def namesBelow (tree : FileTree) (onlyDirectories : Bool) : Nat → String → List String
  | 0, _ => []
  | fuel + 1, directory =>
    ((tree.namesIn directory onlyDirectories).filter (!isHidden ·)).flatMap fun name =>
      name :: (tree.namesBelow onlyDirectories fuel (joinNonEmpty directory name)).map
        (joinNonEmpty name)

/-- A depth that no path of the tree exceeds. -/
def depthBound (tree : FileTree) : Nat :=
  tree.entries.foldl (fun deepest entry => max deepest entry.1.length) 0 + 1

/-- The names in a directory that match the last part of a pattern. -/
def matchesIn (tree : FileTree) (recursive onlyDirectories : Bool) (directory part : String) :
    List String :=
  if Wildcard.isPattern part then
    if spansDirectories recursive part then
      "" :: tree.namesBelow onlyDirectories tree.depthBound directory
    else
      let names := tree.namesIn directory onlyDirectories
      let visible := if isHidden part then names else names.filter (!isHidden ·)
      visible.filter (Wildcard.accepting part)
  else if part = "" then if tree.isDirectory directory then [part] else []
  else if tree.occupied (joinNonEmpty directory part) then [part] else []

/-- Cuts a pattern into a directory that is none and the parts below it. -/
def patternLevels : Nat → String → String × List String
  | 0, pattern => (pattern, [])
  | fuel + 1, pattern =>
    let (directory, part) := Path.splitText pattern
    if directory ≠ pattern && Wildcard.isPattern directory then
      let (base, parts) := patternLevels fuel directory
      (base, parts ++ [part])
    else (directory, [part])

/-- The paths below the given directories that match the parts of a pattern, each
directory on the way searched once. -/
def matchesBelow (tree : FileTree) (recursive : Bool) : List String → List String → List String
  | directories, [] => directories
  | directories, part :: parts =>
    let onlyDirectories := !parts.isEmpty
    let found := directories.flatMap fun directory =>
      (tree.matchesIn recursive onlyDirectories directory part).map (Path.joinText directory)
    tree.matchesBelow recursive (Text.ascendingOnce found) parts

/-- The paths that have the form of a pattern. A path that is no pattern matches
when it leads to something, with a slash at its end to a directory. Matching
fails when no directory can have the path in front of the wildcards. -/
def matching (tree : FileTree) (recursive : Bool) (pattern : String) :
    Except FileError (List String) :=
  if Wildcard.isPattern pattern then
    let (base, parts) := patternLevels pattern.length pattern
    if base.toList.contains '\x00' then .error ⟨.unnameable, base⟩
    else .ok (tree.matchesBelow recursive [base] parts)
  else
    let (directory, part) := Path.splitText pattern
    let present := if part = "" then tree.isDirectory directory else tree.occupied pattern
    .ok (if present then [pattern] else [])

/-- The files below a directory, hidden ones included. The fuel bounds the depth. -/
def filesBelow (tree : FileTree) : Nat → String → List String
  | 0, _ => []
  | fuel + 1, directory =>
    (tree.list directory).flatMap fun (name, node) =>
      let path := Path.joinText directory name
      if node.isDirectory then tree.filesBelow fuel path else [path]

/-- The files directly in a directory. -/
def filesIn (tree : FileTree) (directory : String) : List String :=
  (tree.list directory).filterMap fun (name, node) =>
    if node.isDirectory then none else some (Path.joinText directory name)

end DelegateClasses.FileTree
