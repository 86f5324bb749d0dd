import DelegateClasses.Text.Quoted

/-! The reasons for which a file cannot be opened or a directory be made. -/
namespace DelegateClasses

/-- What stands in the way of an access to a file. -/
inductive Fault where
  | notFound
  | alreadyExists
  | notDirectory
  | isDirectory
  | nameTooLong
  /-- The path holds a null character, which nothing can be named with. -/
  | unnameable
deriving DecidableEq, Repr

/-- The number and the words of a fault. -/
def Fault.text : Fault → String
  | notFound => "[Errno 2] No such file or directory"
  | alreadyExists => "[Errno 17] File exists"
  | notDirectory => "[Errno 20] Not a directory"
  | isDirectory => "[Errno 21] Is a directory"
  | nameTooLong => "[Errno 36] File name too long"
  | unnameable => "The path holds a null character"

/-- A fault and the path whose access met it. -/
structure FileError where
  fault : Fault
  path : String
deriving DecidableEq, Repr

/-- The fault and the path, as one message. -/
def FileError.message (error : FileError) : String :=
  error.fault.text ++ ": " ++ Text.quoted error.path

end DelegateClasses
