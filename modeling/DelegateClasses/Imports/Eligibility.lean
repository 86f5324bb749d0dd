import DelegateClasses.DottedName

/-! Which names a file has to import. A name without a package cannot be
imported; a name of the file's own package, or of a package whose members are
available everywhere, need not be. -/
namespace DelegateClasses.Imports

/-- Whether a name is declared directly in a package. -/
def inPackage (package name : String) : Bool :=
  match package.toList.isPrefixOf? name.toList with
  | some ('.' :: rest) => !rest.contains '.'
  | _ => false

/-- Whether one entry of a list of available packages covers a name. An entry
that ends in a dot covers every package below it, any other entry covers only
its direct members. -/
def covers (entry name : String) : Bool :=
  if entry.toList.getLast? = some '.' then entry.toList.isPrefixOf name.toList
  else inPackage entry name

/-- Whether some entry covers a name. -/
def isAvailable (name : String) (entries : List String) : Bool :=
  entries.any (covers · name)

/-- The packages whose members need no import unless stated otherwise. -/
def defaultAvailable : List String := ["java.lang"]

/-- The place from which types are named: the package of a file, and the
entries that are available in it. -/
structure Scope where
  package : String
  available : List String

/-- Whether a name has to be imported to be used by its simple name. -/
def Scope.requires (scope : Scope) (name : String) : Bool :=
  DottedName.isQualified name && !isAvailable name scope.available &&
    !inPackage scope.package name

end DelegateClasses.Imports
