import DelegateClasses.Declaration.TypeRef

/-! How the superclass of a generated class is treated. -/
namespace DelegateClasses

/-- What is done with a superclass that is selected. -/
inductive SuperclassAction where
  /-- Its methods become methods of the generated class. -/
  | fold
  /-- It is generated as a class of its own. -/
  | separate
  /-- Both is done. -/
  | both
  /-- Nothing is done. -/
  | ignore
deriving DecidableEq, Repr

/-- Which superclasses are selected, and what is done with them. -/
structure SuperclassPolicy where
  selects : TypeRef → Bool
  action : SuperclassAction

namespace SuperclassPolicy

/-- Selects no superclass. -/
def never : SuperclassPolicy :=
  ⟨fun _ => false, .fold⟩

/-- Selects the superclasses whose qualified name starts with a text. -/
def startingWith (start : String) (action : SuperclassAction) : SuperclassPolicy :=
  ⟨fun type => start.toList.isPrefixOf type.qualifiedName.toList, action⟩

/-- Whether the methods of a superclass go into the generated class. -/
def folds (policy : SuperclassPolicy) (superclass : TypeRef) : Bool :=
  (policy.action == .fold || policy.action == .both) && policy.selects superclass

/-- Whether a superclass is generated as a class of its own. -/
def separates (policy : SuperclassPolicy) (superclass : TypeRef) : Bool :=
  (policy.action == .separate || policy.action == .both) && policy.selects superclass

/-- The superclass, if its methods go into the generated class. -/
def folded (policy : SuperclassPolicy) (superclass : Option TypeRef) : Option TypeRef :=
  superclass.filter policy.folds

/-- The superclass, if it is generated as a class of its own. -/
def separated (policy : SuperclassPolicy) (superclass : Option TypeRef) : Option TypeRef :=
  superclass.filter policy.separates

end SuperclassPolicy

end DelegateClasses
