import DelegateClasses.Draft.Signature

/-! Methods that pass a call on to the wrapped instance. -/
namespace DelegateClasses.Delegate

/-- The call of a method on the wrapped instance, with its own parameters. -/
def delegatedCall (method : MethodDecl) : String :=
  let plain := Fragment.call Fragment.wrappedName method.name (method.parameters.map (·.name))
  match method.accessor?, method.parameters with
  | some accessor, [] =>
    if accessor.setter then plain else Fragment.getterCall Fragment.wrappedName accessor.upperName
  | some accessor, [parameter] =>
    if accessor.setter then
      Fragment.setterCall Fragment.wrappedName accessor.upperName parameter.name
    else plain
  | _, _ => plain

/-- The statement that passes a call on, and the result back. -/
def delegation (method : MethodDecl) : String :=
  (if method.returns.isVoid then "" else "return ") ++ delegatedCall method ++ ";"

/-- The definition of a method that passes a call on. -/
def definition (method : MethodDecl) : Drafting String := do
  let signature ← ClassDraft.signature method.name method.parameters method.returns method.throws
    "public"
  return Fragment.block signature [delegation method] Fragment.indent

end DelegateClasses.Delegate
