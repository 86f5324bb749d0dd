/-! What can be wrong with the written form of a type. -/
namespace DelegateClasses

/-- The ways in which the text of a type can be wrong. -/
inductive Malformation where
  | emptyDescriptor
  | unmatchedClosing
  | unclosed
  | emptyArgument
  | invalidWildcard
  | primitiveArguments
  | invalidName
deriving DecidableEq, Repr

/-- The fault in words. -/
def Malformation.text : Malformation → String
  | emptyDescriptor => "Empty type descriptor"
  | unmatchedClosing => "Unmatched closing bracket"
  | unclosed => "Unclosed bracket"
  | emptyArgument => "Empty type argument"
  | invalidWildcard => "Invalid wildcard"
  | primitiveArguments => "Primitive types take no type arguments"
  | invalidName => "Invalid type name"

/-- A fault together with the part of the text that shows it. -/
structure Malformed where
  cause : Malformation
  fragment : List Char
deriving DecidableEq, Repr

/-- The fault and the offending fragment, as one message. -/
def Malformed.message (fault : Malformed) : String :=
  fault.cause.text ++ ": '" ++ String.ofList fault.fragment ++ "'"

end DelegateClasses
