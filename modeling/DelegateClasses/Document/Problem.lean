/-! What can be wrong with a class model document, and where. -/
namespace DelegateClasses.Document

/-- One step from a value to a value inside of it. -/
inductive Step where
  | key (name : String)
  | item (position : Nat)
deriving DecidableEq, Repr

/-- The ways in which a value can be wrong. -/
inductive Complaint where
  /-- The text is not JSON. -/
  | notJson
  /-- The document, a class or a parameter is not an object. -/
  | notObject
  /-- A list is expected. -/
  | notList
  /-- A string is expected. -/
  | notText
  /-- The string must not be empty. -/
  | emptyText
  /-- The value is none of the allowed words. -/
  | notAllowed
  /-- A required key is absent. -/
  | missing
  /-- The key has no meaning. -/
  | unknownKey
  /-- A member is not an object. -/
  | memberNotObject
  /-- A member does not tell which element it is. -/
  | tagMissing
  /-- A member is an element of no known kind. -/
  | tagUnknown
deriving DecidableEq, Repr

/-- A complaint about the value at a place. -/
structure Problem where
  place : List Step
  complaint : Complaint
deriving DecidableEq, Repr

/-- The problem seen from one step further out. -/
def Problem.under (step : Step) (problem : Problem) : Problem :=
  { problem with place := step :: problem.place }

end DelegateClasses.Document
