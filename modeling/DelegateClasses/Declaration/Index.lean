import DelegateClasses.Declaration.Element

/-! Declared classes, nested ones included, by name. When a name is declared
again the last declaration counts, and the name is reported. -/
namespace DelegateClasses

/-- Declarations by name without type parameters, each name once, in the order
in which the names were first declared. -/
structure ClassIndex where
  entries : List (String × ClassDecl)

namespace ClassIndex

/-- The index without declarations. -/
def empty : ClassIndex := ⟨[]⟩

/-- The names that are declared. -/
def names (index : ClassIndex) : List String :=
  index.entries.map (·.1)

/-- Whether a name is declared. -/
def contains (index : ClassIndex) (name : String) : Bool :=
  index.names.contains name

/-- The declaration of a name. -/
def get? (index : ClassIndex) (name : String) : Option ClassDecl :=
  (index.entries.find? (·.1 == name)).map (·.2)

/-- The declaration of a type. -/
def lookup (index : ClassIndex) (type : TypeRef) : Option ClassDecl :=
  index.get? type.qualifiedName

/-- The number of declared names. -/
def size (index : ClassIndex) : Nat :=
  index.entries.length

/-- Enters the declaration of a name, in place of one that is there. -/
def insert (index : ClassIndex) (name : String) (declared : ClassDecl) : ClassIndex :=
  if index.contains name then
    ⟨index.entries.map fun entry => if entry.1 = name then (name, declared) else entry⟩
  else ⟨index.entries ++ [(name, declared)]⟩

/-- Enters one class under its name without type parameters. The answer also
holds the names that had been declared before. -/
def enter (state : ClassIndex × List String) (declared : ClassDecl) : ClassIndex × List String :=
  let name := declared.type.qualifiedName
  (state.1.insert name declared,
    if state.1.contains name then state.2 ++ [name] else state.2)

mutual

/-- Adds a class and then the classes nested in it, and reports the names that are
declared again. -/
def add (index : ClassIndex) : ClassDecl → ClassIndex × List String
  | ⟨name, kind, superclass, modifiers, members⟩ =>
    addNested (enter (index, []) ⟨name, kind, superclass, modifiers, members⟩) members

/-- Adds the classes that a list of members declares. -/
def addNested (state : ClassIndex × List String) : List Element → ClassIndex × List String
  | [] => state
  | .nested declared :: members =>
    let added := state.1.add declared
    addNested (added.1, state.2 ++ added.2) members
  | .method _ :: members | .field _ :: members | .foreign _ :: members =>
    addNested state members

end

/-- Adds one more class, and keeps the names that were declared again. -/
def addNext (state : ClassIndex × List String) (declared : ClassDecl) : ClassIndex × List String :=
  let added := state.1.add declared
  (added.1, state.2 ++ added.2)

/-- Adds several classes, one after the other. -/
def addAll (index : ClassIndex) (classes : List ClassDecl) : ClassIndex × List String :=
  classes.foldl addNext (index, [])

end ClassIndex

end DelegateClasses
