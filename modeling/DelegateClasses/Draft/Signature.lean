import DelegateClasses.Draft.Basic

/-! Longer pieces of a generated class: the start of a class that wraps an
instance of another, and the signatures of its methods. -/
namespace DelegateClasses.ClassDraft

/-- The declaration of the field that holds the wrapped instance. -/
def wrappedField (type name : String) : String :=
  Fragment.indent ++ "private final " ++ type ++ " " ++ name ++ ";"

/-- The constructor that takes the wrapped instance. -/
def wrappingConstructor (className type name : String) : String :=
  Fragment.block
    (Fragment.indent ++ "public " ++ className ++ "(final " ++ type ++ " " ++ name ++ ") \x7b")
    ["this." ++ name ++ " = " ++ name ++ ";"] Fragment.indent

/-- Starts a class that wraps an instance of a type, in the package of the type.
The simple names of both are taken before any other name can claim them. -/
def startWrapping (source : TypeRef) (name : String) : Drafting Unit := do
  match source.package? with
  | none => throw (.noPackage source.qualifiedName)
  | some package =>
    startPackage package
    let className := (← get).className
    startClass (Fragment.classLine className "public")
    bind (DottedName.member package className)
    let type ← renderType ⟨source.qualifiedName⟩
    addField (wrappedField type name)
    addConstructor (wrappingConstructor className type name)

/-- A signature up to its parameters. -/
def signatureStart (modifiers returns name : String) : String :=
  Fragment.indent ++ modifiers ++ " " ++ returns ++ " " ++ name ++ "("

/-- What separates two parameters: the next starts below the first one. -/
def parameterBreak (start : String) : String :=
  ",\n" ++ String.ofList (List.replicate start.length ' ')

/-- The line of a signature that lists what is thrown, if anything is. -/
def throwsClause (types : List String) : String :=
  if types.isEmpty then "" else "\n        throws " ++ Fragment.commaList types

/-- The signature of a method, up to its opening brace. The return type is
spelled first, then the parameters and what is thrown, each in order. -/
def signature (name : String) (parameters : List ParameterDecl) (returns : TypeRef)
    (throws : List TypeRef) (modifiers : String) : Drafting String := do
  let returned ← renderType returns
  let start := signatureStart modifiers returned name
  let declared ← parameters.mapM fun parameter => do
    return (← renderType parameter.type) ++ " " ++ parameter.name
  let thrown ← throws.mapM renderType
  return start ++ Fragment.joinNonEmpty (parameterBreak start) declared ++ ")" ++
    throwsClause thrown ++ " \x7b"

end DelegateClasses.ClassDraft
