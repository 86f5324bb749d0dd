/-! Dotted names such as `org.example.Person`. Everything before the last dot
is the package that owns the name, the rest is its simple name. A name without
a dot has no package. -/
namespace DelegateClasses.DottedName

/-- The text after the last dot, the whole text when there is none. -/
def lastSegment (name : List Char) : List Char :=
  (name.reverse.takeWhile (· != '.')).reverse

/-- The text before the last dot. -/
def beforeLastDot (name : List Char) : List Char :=
  (name.reverse.dropWhile (· != '.')).tail.reverse

/-- Whether the name has a package. -/
def isQualified (name : String) : Bool :=
  name.toList.contains '.'

/-- The package that owns the name, if it has one. -/
def package? (name : String) : Option String :=
  if isQualified name then some (String.ofList (beforeLastDot name.toList)) else none

/-- The name without its package. -/
def simple (name : String) : String :=
  String.ofList (lastSegment name.toList)

/-- The name that a package gives to one of its members. -/
def member (package name : String) : String :=
  package ++ "." ++ name

/-- The directory, relative to the source root, that holds a package. -/
def directory (package : String) : String :=
  String.ofList (package.toList.map fun c => if c = '.' then '/' else c)

/-- The names of the primitive types, and `void`. -/
def primitives : List String :=
  ["void", "boolean", "byte", "char", "short", "int", "long", "float", "double"]

/-- Whether a name is that of a primitive type or `void`. -/
def isPrimitive (name : String) : Bool :=
  primitives.contains name

end DelegateClasses.DottedName
