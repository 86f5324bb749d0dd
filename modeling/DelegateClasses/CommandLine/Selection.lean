import DelegateClasses.Document.Load
import DelegateClasses.Storage.Matching
import DelegateClasses.Text.Ascending

/-! The class models of a run. A directory stands for the models in it, or
below it when directories are searched recursively; anything else is a pattern.
Paths are compared as they are written. -/
namespace DelegateClasses.CommandLine

/-- Whether a path is named like a class model. -/
def isModelName (path : String) : Bool :=
  Document.suffix.toList.isSuffixOf path.toList

/-- The paths that an exclusion stands for. -/
def excludedBy (tree : FileTree) (root : String) (recursive : Bool) (exclude : String) :
    Except FileError (List String) :=
  let path := Path.joinText root exclude
  if tree.isFile path then .ok [path] else tree.matching recursive path

/-- The paths that an inclusion stands for. -/
def includedBy (tree : FileTree) (root : String) (recursive : Bool) (included : String) :
    Except FileError (List String) :=
  let path := Path.joinText root included
  if tree.isDirectory path then
    let files := if recursive then tree.filesBelow tree.depthBound path else tree.filesIn path
    .ok (files.filter isModelName)
  else tree.matching recursive path

/-- The class models of a run, in ascending order. -/
def modelPaths (tree : FileTree) (root : String) (paths excludes : List String)
    (recursive : Bool) : Except FileError (List String) := do
  let excluded := (← excludes.mapM (excludedBy tree root recursive)).flatten
  let included := (← paths.mapM (includedBy tree root recursive)).flatten
  return Text.ascendingOnce (included.filter (!excluded.contains ·))

end DelegateClasses.CommandLine
