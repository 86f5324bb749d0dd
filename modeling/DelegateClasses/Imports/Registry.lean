import DelegateClasses.DottedName
import DelegateClasses.Fragment
import DelegateClasses.Text.Ascending

/-! The names that a file imports or uses without an import. A simple name
stands for one qualified name only: the first that claims it. -/
namespace DelegateClasses.Imports

/-- A qualified name that owns its simple name. -/
structure Claim where
  name : String
  imported : Bool

/-- The claims of a file, oldest first, at most one for a simple name. One list
stands for two maps, from simple names to the names that own them and to the names
that are imported. Nothing is lost, since a name is imported under its simple name
only while it owns it: the second map is the part of the first that is marked. -/
structure Registry where
  claims : List Claim

namespace Registry

/-- The registry of a new file. -/
def empty : Registry := ⟨[]⟩

/-- The qualified name that a simple name stands for. -/
def owner? (registry : Registry) (simple : String) : Option String :=
  (registry.claims.find? (DottedName.simple ·.name == simple)).map (·.name)

/-- Marks a claimed name as imported. -/
def markImported (registry : Registry) (name : String) : Registry :=
  ⟨registry.claims.map fun claim =>
    if claim.name = name then { claim with imported := true } else claim⟩

/-- Lets a name claim its simple name. The answer tells whether the simple name
now stands for it; a refused claim changes nothing. -/
def claim (registry : Registry) (name : String) (imported : Bool) : Bool × Registry :=
  match registry.owner? (DottedName.simple name) with
  | none => (true, ⟨registry.claims ++ [⟨name, imported⟩]⟩)
  | some owner =>
    if owner = name then (true, if imported then registry.markImported name else registry)
    else (false, registry)

/-- Imports a name, unless its simple name stands for another. -/
def register (registry : Registry) (name : String) : Bool × Registry :=
  registry.claim name true

/-- Uses a name without an import, unless its simple name stands for another. -/
def bind (registry : Registry) (name : String) : Bool × Registry :=
  registry.claim name false

/-- The imported names, in the order in which they were claimed. -/
def imported (registry : Registry) : List String :=
  (registry.claims.filter (·.imported)).map (·.name)

/-- The imported names, in ascending order. -/
def toList (registry : Registry) : List String :=
  Text.ascending registry.imported

/-- The number of imported names. -/
def size (registry : Registry) : Nat :=
  registry.imported.length

/-- Whether a name is imported. -/
def contains (registry : Registry) (name : String) : Bool :=
  registry.imported.contains name

/-- The import lines of the file, in ascending order. -/
def lines (registry : Registry) : List String :=
  registry.toList.map Fragment.importLine

end Registry

end DelegateClasses.Imports
