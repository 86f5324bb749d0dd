import DelegateClasses.DottedName

/-! Types as they occur in declarations: named types with type arguments,
primitive types, arrays of both, and wildcards with an optional bound. -/
namespace DelegateClasses

/-- A node of a type. A wildcard is a node named `?`; only it has a bound. A
primitive type has no qualified name. -/
structure TypeTree where
  /-- The name as it is written without its package. -/
  name : String
  /-- The full name, absent for primitive types and wildcards. -/
  qualified : Option String
  /-- The type arguments, in order. -/
  arguments : List TypeTree
  /-- How many array suffixes follow the type. -/
  dimensions : Int
  /-- The word that introduces the bound of a wildcard. -/
  boundKind : Option String
  /-- The type that bounds a wildcard. -/
  bound : Option TypeTree

namespace TypeTree

/-- The name of a wildcard. -/
def wildcardName : String := "?"

/-- The words that introduce a bound. -/
def boundKinds : List String := ["extends", "super"]

/-- A wildcard without a bound. -/
def anything : TypeTree := ⟨wildcardName, none, [], 0, none, none⟩

instance : Inhabited TypeTree := ⟨anything⟩

/-- A wildcard with a bound. -/
def bounded (kind : String) (bound : TypeTree) : TypeTree :=
  ⟨wildcardName, none, [], 0, some kind, some bound⟩

/-- A primitive type, or an array of it. -/
def primitive (name : String) (dimensions : Nat) : TypeTree :=
  ⟨name, none, [], dimensions, none, none⟩

/-- A named type, or an array of it. -/
def named (qualified : String) (arguments : List TypeTree) (dimensions : Nat) : TypeTree :=
  ⟨DottedName.simple qualified, some qualified, arguments, dimensions, none, none⟩

/-- Whether the node is named like a primitive type. -/
def isPrimitive (type : TypeTree) : Bool :=
  DottedName.isPrimitive type.name

/-- Whether the node is a wildcard. -/
def isWildcard (type : TypeTree) : Bool :=
  type.name == wildcardName

/-- Whether the node has type arguments. -/
def isGeneric (type : TypeTree) : Bool :=
  !type.arguments.isEmpty

/-- The package of the qualified name, empty when there is none. -/
def package (type : TypeTree) : String :=
  (type.qualified.bind DottedName.package?).getD ""

end TypeTree

end DelegateClasses
