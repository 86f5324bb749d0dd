import DelegateClasses.Document.Problem
import DelegateClasses.Storage.Fault
import DelegateClasses.Storage.Path
import DelegateClasses.TypeTree.Malformed

/-! The failures of a run. Some abort the generation of one class only, the
others abort the run. -/
namespace DelegateClasses

/-- Why something could not be done. -/
inductive Failure where
  /-- The written form of a type is wrong. -/
  | malformedType (fault : Malformed)
  /-- The name of a class lacks a package. -/
  | noPackage (name : String)
  /-- The method is no getter or setter by name. -/
  | noAccessor (name : String)
  /-- The file of a generated class cannot be made. -/
  | outputUnavailable (path : Path) (error : FileError)
  /-- A template cannot be opened. -/
  | templateUnavailable (path : Path) (error : FileError)
  /-- A class model cannot be opened. -/
  | modelUnreadable (path : String) (error : FileError)
  /-- A class model is no valid document. -/
  | modelInvalid (path : String) (problems : List Document.Problem)
  /-- A path holds a null character. -/
  | unnameable (path : String)
  /-- A generated class is changed after it was written. -/
  | alreadyWritten (className : String)
  /-- A generated class is put into a second package. -/
  | packageTaken (className package : String)
  /-- The element is none that a class can declare. -/
  | foreignElement (label : String)
  /-- A template is read after it was closed. -/
  | templateClosed
  /-- A file is not UTF-8. -/
  | undecodable
  /-- A member is generated while no class is open. -/
  | noOpenClass
  /-- An option was given without a name and a value. -/
  | emptyOption
  /-- A generator gives up for a reason of its own. -/
  | stopped (reason : String)

namespace Failure

/-- Whether the failure aborts the generation of one class only. -/
def isIsolated : Failure → Bool
  | malformedType _ | noPackage _ | noAccessor _ => true
  | outputUnavailable _ _ | templateUnavailable _ _ => true
  | modelUnreadable _ _ | modelInvalid _ _ => true
  | alreadyWritten _ | packageTaken _ _ | foreignElement _ => false
  | unnameable _ | templateClosed | undecodable => false
  | noOpenClass | emptyOption | stopped _ => false

/-- The failure in words. -/
def message : Failure → String
  | malformedType fault => fault.message
  | noPackage name => "Invalid class name: " ++ name
  | noAccessor name => "Invalid method for accessor: " ++ name
  | outputUnavailable path error =>
    "Could not create output file '" ++ path.text ++ "': " ++ error.message
  | templateUnavailable path error =>
    "Could not open template '" ++ path.text ++ "': " ++ error.message
  | modelUnreadable path error =>
    "Could not read class model '" ++ path ++ "': " ++ error.message
  | modelInvalid path _ => "Invalid class model '" ++ path ++ "'"
  | unnameable path => (FileError.mk .unnameable path).message
  | alreadyWritten className => "The class '" ++ className ++ "' was already written."
  | packageTaken className package =>
    "The namespace of '" ++ className ++ "' is already '" ++ package ++ "'."
  | foreignElement label => label
  | templateClosed => "The template was closed."
  | undecodable => "The file is not UTF-8."
  | noOpenClass => "No class is open."
  | emptyOption => "An option has neither a name nor a value."
  | stopped reason => reason

end Failure

/-- The failure that a refused access to a file leads to. A path that cannot be
that of any file is a failure of its own, whatever the file was meant for. -/
def Failure.ofAccess (failure : FileError → Failure) (error : FileError) : Failure :=
  match error.fault with
  | .unnameable => .unnameable error.path
  | _ => failure error

/-- The result of a reading, with a malformed type as the failure. -/
def Failure.ofTypeReading {α : Type} : Except Malformed α → Except Failure α
  | .ok value => .ok value
  | .error fault => .error (.malformedType fault)

end DelegateClasses
