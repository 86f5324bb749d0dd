import DelegateClasses.Imports.Eligibility
import DelegateClasses.Imports.Registry
import DelegateClasses.TypeTree.Parser
import DelegateClasses.TypeTree.Printer

/-! Types as a file spells them. Where possible a name is imported, or used
without an import, and is then written by its simple name; a name whose simple
name stands for another is written in full. A node claims its name before its
arguments or its bound do. -/
namespace DelegateClasses.Imports

/-- Claims a name for a file, with an import where the file needs one. -/
def Scope.use (scope : Scope) (name : String) (registry : Registry) : Bool × Registry :=
  if scope.requires name then registry.register name else registry.bind name

/-- The spelling of a node's own name. -/
def Scope.spell (scope : Scope) (name : String) (qualified : Option String)
    (registry : Registry) : String × Registry :=
  match qualified with
  | none => (name, registry)
  | some full =>
    let (granted, registry) := scope.use full registry
    (if granted then name else full, registry)

mutual

/-- The spelling of a type, and the registry with the claims it made. -/
def render (scope : Scope) : TypeTree → Registry → String × Registry
  | ⟨name, qualified, arguments, dimensions, kind, bound⟩, registry =>
    if name = TypeTree.wildcardName then
      match bound with
      | none => (TypeTree.wildcardName, registry)
      | some type =>
        let (spelling, registry) := render scope type registry
        (TypeTree.boundText kind spelling, registry)
    else
      let (spelling, registry) := scope.spell name qualified registry
      let (spellings, registry) := renderAll scope arguments registry
      (TypeTree.applied spelling spellings dimensions, registry)

/-- The spellings of several types, one after the other. -/
def renderAll (scope : Scope) : List TypeTree → Registry → List String × Registry
  | [], registry => ([], registry)
  | type :: types, registry =>
    let (spelling, registry) := render scope type registry
    let (spellings, registry) := renderAll scope types registry
    (spelling :: spellings, registry)

end

/-- The spelling of a type that is given by its written form. -/
def renderText (scope : Scope) (descriptor : String) (registry : Registry) :
    Except Malformed (String × Registry) :=
  (TypeTree.parse descriptor).map fun type => render scope type registry

end DelegateClasses.Imports
