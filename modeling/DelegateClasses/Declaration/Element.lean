import DelegateClasses.Declaration.Accessor
import DelegateClasses.Declaration.TypeRef

/-! Declared classes and their members: methods, fields and nested classes. -/
namespace DelegateClasses

/-- A parameter of a method. -/
structure ParameterDecl where
  name : String
  type : TypeRef
deriving DecidableEq

/-- A declared method. -/
structure MethodDecl where
  name : String
  returns : TypeRef := .void
  parameters : List ParameterDecl := []
  throws : List TypeRef := []
  modifiers : List String := ["public"]
deriving DecidableEq

namespace MethodDecl

/-- Whether the method is declared public. -/
def isPublic (method : MethodDecl) : Bool :=
  method.modifiers.contains "public"

/-- Whether the method is declared static. -/
def isStatic (method : MethodDecl) : Bool :=
  method.modifiers.contains "static"

/-- What the name of the method says about its purpose. -/
def kind (method : MethodDecl) : MethodKind :=
  .ofName method.name

/-- The parts of the method's name, if it is a getter or setter by name. -/
def accessor? (method : MethodDecl) : Option Accessor :=
  Accessor.ofName? method.name

end MethodDecl

/-- A declared field. -/
structure FieldDecl where
  name : String
  type : TypeRef
  modifiers : List String := ["private"]
deriving DecidableEq

/-- The kinds of declared classes. -/
inductive ClassKind where
  | ordinary
  | interface
  | enum
  | record
  | other (label : String)
deriving DecidableEq, Repr

/-- The word for a kind of class. -/
def ClassKind.text : ClassKind → String
  | ordinary => "class"
  | interface => "interface"
  | enum => "enum"
  | record => "record"
  | other label => label

/-- The kind of class that a word stands for. -/
def ClassKind.ofText (word : String) : ClassKind :=
  if word = "class" then ordinary
  else if word = "interface" then interface
  else if word = "enum" then enum
  else if word = "record" then record
  else other word

mutual

/-- A declared class, with its members in the order of declaration. -/
structure ClassDecl where
  name : String
  kind : ClassKind
  superclass : Option TypeRef
  modifiers : List String
  members : List Element

/-- A member of a class. A foreign element is none that a class can declare. -/
inductive Element where
  | nested (declared : ClassDecl)
  | method (declared : MethodDecl)
  | field (declared : FieldDecl)
  | foreign (label : String)

end

instance : Inhabited ClassDecl := ⟨"", .ordinary, none, [], []⟩

instance : Inhabited Element := ⟨.nested default⟩

/-- The method that an element declares, if it declares one. -/
def Element.method? : Element → Option MethodDecl
  | .method declared => some declared
  | _ => none

/-- The field that an element declares, if it declares one. -/
def Element.field? : Element → Option FieldDecl
  | .field declared => some declared
  | _ => none

namespace ClassDecl

/-- The type that the class declares. -/
def type (declared : ClassDecl) : TypeRef :=
  ⟨declared.name⟩

/-- The name without its package and type parameters. -/
def simpleName (declared : ClassDecl) : String :=
  declared.type.simpleName

/-- The package that owns the class, if it has one. -/
def package? (declared : ClassDecl) : Option String :=
  declared.type.package?

/-- The methods that the class declares itself. -/
def methods (declared : ClassDecl) : List MethodDecl :=
  declared.members.filterMap Element.method?

/-- The fields that the class declares itself. -/
def fields (declared : ClassDecl) : List FieldDecl :=
  declared.members.filterMap Element.field?

end ClassDecl

end DelegateClasses
