import DelegateClasses.Declaration.Element
import DelegateClasses.Document.Problem
import DelegateClasses.Json.Value

/-! The form of a class model document, and the declarations that it stands
for. All problems are reported: for each object those of the known keys, in a
fixed order, and then the unknown keys in the order of the text. -/
namespace DelegateClasses.Document

/-- A value, or everything that is wrong with it. -/
abbrev Checked (α : Type) := Except (List Problem) α

namespace Checked

/-- The value of two parts, or the problems of both. -/
def combine {α β γ : Type} (join : α → β → γ) : Checked α → Checked β → Checked γ
  | .ok first, .ok second => .ok (join first second)
  | .ok _, .error problems => .error problems
  | .error problems, .ok _ => .error problems
  | .error problems, .error others => .error (problems ++ others)

/-- One problem with the value itself. -/
def refuse {α : Type} (complaint : Complaint) : Checked α :=
  .error [⟨[], complaint⟩]

/-- The same, seen from one step further out. -/
def under {α : Type} (step : Step) : Checked α → Checked α
  | .ok value => .ok value
  | .error problems => .error (problems.map (·.under step))

/-- Applies a checked function to one more checked part. -/
def and {α β : Type} (function : Checked (α → β)) (part : Checked α) : Checked β :=
  combine (fun apply value => apply value) function part

end Checked

/-- The members of an object. -/
abbrev Members := List (String × JsonValue)

/-- A check of the value of a key that has to be there. -/
def required {α : Type} (members : Members) (key : String) (check : JsonValue → Checked α) :
    Checked α :=
  match JsonValue.field? members key with
  | none => Checked.under (.key key) (.refuse .missing)
  | some value => (check value).under (.key key)

/-- A check of the value of a key that may be absent. -/
def optional {α : Type} (members : Members) (key : String) (absent : α)
    (check : JsonValue → Checked α) : Checked α :=
  match JsonValue.field? members key with
  | none => .ok absent
  | some value => (check value).under (.key key)

/-- A problem for every key without a meaning, even if it is repeated. -/
def noOthers (members : Members) (known : List String) : Checked Unit :=
  match ((members.map (·.1)).filter (!known.contains ·)).eraseDups with
  | [] => .ok ()
  | others => .error (others.map fun key => ⟨[.key key], .unknownKey⟩)

/-- A string. -/
def text : JsonValue → Checked String
  | .string content => .ok content
  | _ => .refuse .notText

/-- A string that is not empty. -/
def filledText : JsonValue → Checked String
  | .string content => if content = "" then .refuse .emptyText else .ok content
  | _ => .refuse .notText

/-- The type that a string refers to. -/
def typeText (value : JsonValue) : Checked TypeRef :=
  (text value).map TypeRef.mk

/-- The type that a string refers to, which is not empty. -/
def filledType (value : JsonValue) : Checked TypeRef :=
  (filledText value).map TypeRef.mk

/-- The type of a superclass. Null and the empty string stand for none. -/
def superclass : JsonValue → Checked (Option TypeRef)
  | .null => .ok none
  | .string content => .ok (if content = "" then none else some ⟨content⟩)
  | _ => .refuse .notText

/-- The kind of a class. -/
def classKind : JsonValue → Checked ClassKind
  | .string word => match ClassKind.ofText word with
    | .other _ => .refuse .notAllowed
    | kind => .ok kind
  | _ => .refuse .notAllowed

/-- The tag that marks a class. -/
def classTag : JsonValue → Checked Unit
  | .string "class" => .ok ()
  | _ => .refuse .notAllowed

/-- The items of a list from a position on, each checked by itself. -/
def itemsFrom {α : Type} (check : JsonValue → Checked α) :
    Nat → List JsonValue → Checked (List α)
  | _, [] => .ok []
  | position, value :: values =>
    .combine List.cons ((check value).under (.item position))
      (itemsFrom check (position + 1) values)

/-- A list whose items are checked one by one. -/
def list {α : Type} (check : JsonValue → Checked α) : JsonValue → Checked (List α)
  | .array values => itemsFrom check 0 values
  | _ => .refuse .notList

/-- A parameter. -/
def parameter : JsonValue → Checked ParameterDecl
  | .object members =>
    (((Checked.and (.ok fun name type (_ : Unit) => ⟨name, type⟩)
      (required members "name" filledText)).and
      (required members "type" filledType)).and
      (noOthers members ["name", "type"]))
  | _ => .refuse .notObject

/-- A method, whose tag was read. -/
def method (members : Members) : Checked MethodDecl :=
  Checked.and (.ok fun name returns parameters throws modifiers (_ : Unit) =>
      ⟨name, returns, parameters, throws, modifiers⟩)
    (required members "name" filledText)
  |>.and (optional members "returns" .void typeText)
  |>.and (optional members "parameters" [] (list parameter))
  |>.and (optional members "throws" [] (list typeText))
  |>.and (optional members "modifiers" ["public"] (list text))
  |>.and (noOthers members ["element", "name", "returns", "parameters", "throws", "modifiers"])

/-- A field, whose tag was read. -/
def field (members : Members) : Checked FieldDecl :=
  Checked.and (.ok fun name type modifiers (_ : Unit) => ⟨name, type, modifiers⟩)
    (required members "name" filledText)
  |>.and (required members "type" filledType)
  |>.and (optional members "modifiers" ["private"] (list text))
  |>.and (noOthers members ["element", "name", "type", "modifiers"])

/-- The keys of a class. -/
def classKeys : List String :=
  ["element", "name", "kind", "superclass", "modifiers", "members"]

set_option linter.unusedVariables false in
mutual

/-- A class. -/
def classDecl (members : Members) : Checked ClassDecl :=
  Checked.and (.ok fun (_ : Unit) name kind superclass modifiers elements (_ : Unit) =>
      ⟨name, kind, superclass, modifiers, elements⟩)
    (optional members "element" () classTag)
  |>.and (required members "name" filledText)
  |>.and (optional members "kind" .ordinary classKind)
  |>.and (optional members "superclass" none superclass)
  |>.and (optional members "modifiers" ["public"] (list text))
  |>.and (match found : JsonValue.field? members "members" with
    | none => .ok []
    | some (.array values) => (elementsFrom 0 values).under (.key "members")
    | some _ => Checked.under (.key "members") (.refuse .notList))
  |>.and (noOthers members classKeys)
termination_by sizeOf members
decreasing_by
  have := JsonValue.sizeOf_field?_lt found
  simp at this
  omega

/-- A member of a class. Its tag tells which element it is. -/
def element : JsonValue → Checked Element
  | .object members =>
    match JsonValue.field? members "element" with
    | none => .refuse .tagMissing
    | some (.string tag) =>
      if tag = "class" then Checked.under (.key tag) ((classDecl members).map Element.nested)
      else if tag = "method" then Checked.under (.key tag) ((method members).map Element.method)
      else if tag = "field" then Checked.under (.key tag) ((field members).map Element.field)
      else .refuse .tagUnknown
    | some _ => .refuse .tagUnknown
  | _ => .refuse .memberNotObject
termination_by value => sizeOf value

/-- The members of a class from a position on. -/
def elementsFrom : Nat → List JsonValue → Checked (List Element)
  | _, [] => .ok []
  | position, value :: values =>
    .combine List.cons ((element value).under (.item position))
      (elementsFrom (position + 1) values)
termination_by _ values => sizeOf values

end

/-- A class that is no member of another. -/
def topLevelClass : JsonValue → Checked ClassDecl
  | .object members => classDecl members
  | _ => .refuse .notObject

/-- The classes of a document. -/
def classes : JsonValue → Checked (List ClassDecl)
  | .object members =>
    Checked.and (.ok fun found (_ : Unit) => found)
      (optional members "classes" [] (list topLevelClass))
    |>.and (noOthers members ["classes"])
  | _ => .refuse .notObject

end DelegateClasses.Document
