import DelegateClasses.Document.Schema
import DelegateClasses.Failure
import DelegateClasses.Json.Reader
import DelegateClasses.Storage.Tree
import DelegateClasses.Text.Utf8

/-! Loading class models from files. -/
namespace DelegateClasses.Document

/-- How the names of class model files end. -/
def suffix : String := ".model.json"

/-- The classes that the text of a document declares. -/
def parse (content : String) : Checked (List ClassDecl) :=
  match Json.parse content with
  | none => .refuse .notJson
  | some value => classes value

/-- Loads the classes of a file. -/
def load (tree : FileTree) (path : String) : Except Failure (List ClassDecl) :=
  match tree.read (Path.ofText path).text with
  | .error error => .error (.ofAccess (.modelUnreadable path) error)
  | .ok bytes => match Text.decode bytes with
    | .text content => (parse content).mapError (.modelInvalid path)
    | _ => .error .undecodable

end DelegateClasses.Document
