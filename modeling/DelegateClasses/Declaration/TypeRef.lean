import DelegateClasses.TypeTree.Parser

/-! References to types, as declarations hold them: by written form. -/
namespace DelegateClasses

/-- A type that is given by its written form. -/
structure TypeRef where
  descriptor : String
deriving DecidableEq, Repr

namespace TypeRef

/-- The type that returns nothing. -/
def void : TypeRef := ⟨"void"⟩

/-- Whether the written form is that of a primitive type or `void`. -/
def isPrimitive (type : TypeRef) : Bool :=
  DottedName.isPrimitive (Text.trimmed type.descriptor)

/-- Whether the written form is `void`. -/
def isVoid (type : TypeRef) : Bool :=
  Text.trimmed type.descriptor == "void"

/-- The written form without type arguments. -/
def qualifiedName (type : TypeRef) : String :=
  TypeTree.withoutArguments type.descriptor

/-- The name without its package. -/
def simpleName (type : TypeRef) : String :=
  DottedName.simple type.qualifiedName

/-- The package that owns the type, if it has one. -/
def package? (type : TypeRef) : Option String :=
  DottedName.package? type.qualifiedName

/-- The type that the written form stands for. -/
def parse (type : TypeRef) : Except Malformed TypeTree :=
  TypeTree.parse type.descriptor

end TypeRef

end DelegateClasses
