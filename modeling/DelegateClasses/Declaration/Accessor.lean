import DelegateClasses.Text.LetterCase

/-! The naming convention for getters and setters: `get` or `set`, followed by
a name with an upper-case start. -/
namespace DelegateClasses

/-- What the name of a method says about its purpose. -/
inductive MethodKind where
  | getter
  | setter
  | plain
deriving DecidableEq, Repr

/-- The word for a kind of method. -/
def MethodKind.text : MethodKind → String
  | getter => "getter"
  | setter => "setter"
  | plain => "method"

/-- The parts of the name of a getter or setter. -/
structure Accessor where
  /-- Whether the method is a setter. -/
  setter : Bool
  /-- The field's name, with an upper-case start. -/
  upperName : String
  /-- The name of the method. -/
  methodName : String

namespace Accessor

/-- Whether a field name has an upper-case start. -/
def startsUppercase (field : List Char) : Bool :=
  field.head?.any Text.isUppercase

/-- The parts of a method's name, if it follows the convention. -/
def ofName? (name : String) : Option Accessor :=
  match name.toList with
  | 'g' :: 'e' :: 't' :: field =>
    if startsUppercase field then some ⟨false, String.ofList field, name⟩ else none
  | 's' :: 'e' :: 't' :: field =>
    if startsUppercase field then some ⟨true, String.ofList field, name⟩ else none
  | _ => none

/-- The name of the field, with a lower-case start. -/
def fieldName (accessor : Accessor) : String :=
  match accessor.upperName.toList with
  | [] => ""
  | c :: rest => String.ofList (Text.lowercase c ++ rest)

end Accessor

/-- The kind of method that a name announces. -/
def MethodKind.ofName (name : String) : MethodKind :=
  match Accessor.ofName? name with
  | none => plain
  | some accessor => if accessor.setter then setter else getter

end DelegateClasses
