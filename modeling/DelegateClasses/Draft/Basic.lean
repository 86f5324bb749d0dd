import DelegateClasses.Declaration.Element
import DelegateClasses.Failure
import DelegateClasses.Imports.Render
import DelegateClasses.Text.Ascending

/-! A generated class while its parts are collected. Nothing is written before
the class is finished, so that members can still add imports. A finished class
cannot be changed. An operation that fails keeps what it did before. -/
namespace DelegateClasses

/-- Where the text of a generated class goes, and what went there. -/
structure Sink where
  writes : List String
  /-- How often the sink was closed. -/
  closes : Nat

/-- A sink that is open and empty. -/
def Sink.fresh : Sink := ⟨[], 0⟩

/-- A generated class and its parts, in the order in which they were added. -/
structure ClassDraft where
  /-- The simple name of the generated class. -/
  className : String
  /-- The packages whose members need no import. -/
  available : List String
  imports : Imports.Registry
  package : Option String
  /-- The line that opens the class, if one was given. -/
  classLine : Option String
  fields : List String
  constructors : List String
  methods : List String
  /-- Whether the class is finished. -/
  ended : Bool
  sink : Option Sink

/-- Work on a generated class. -/
abbrev Drafting := EStateM Failure ClassDraft

namespace ClassDraft

/-- A generated class without parts. -/
def new (className : String) (sink : Option Sink) (available : List String) : ClassDraft :=
  ⟨className, available, .empty, none, none, [], [], [], false, sink⟩

/-- The place from which the class names types. -/
def scope (draft : ClassDraft) : Imports.Scope :=
  ⟨draft.package.getD "", draft.available⟩

/-- The line that opens the class: the given one, unless it is empty. -/
def opening (draft : ClassDraft) : String :=
  match draft.classLine with
  | none => Fragment.classLine draft.className "public"
  | some line => if line = "" then Fragment.classLine draft.className "public" else line

/-- The constructors and the methods. -/
def blocks (draft : ClassDraft) : List String :=
  draft.constructors ++ draft.methods

/-- The lines of the imports, with a blank line after them. -/
def importLines (draft : ClassDraft) : List String :=
  if draft.imports.lines.isEmpty then [] else draft.imports.lines ++ [""]

/-- The fields, the blocks, and a blank line between both. -/
def bodyLines (draft : ClassDraft) : List String :=
  let fields := Text.ascendingOnce draft.fields
  if draft.blocks.isEmpty then fields
  else fields ++ (if fields.isEmpty then [] else [""]) ++ ["\n\n".intercalate draft.blocks]

/-- The text of the class, empty as long as it has no package. -/
def source (draft : ClassDraft) : String :=
  match draft.package with
  | none => ""
  | some package =>
    "\n".intercalate (Fragment.packageLine package :: "" :: draft.importLines ++
      draft.opening :: draft.bodyLines ++ ["\x7d"]) ++ "\n"

/-- Refuses a class that is finished. -/
def requireOpen : Drafting Unit := do
  let draft ← get
  if draft.ended then throw (.alreadyWritten draft.className)

/-- Puts the class into a package. It cannot be put into a second one. -/
def startPackage (name : String) : Drafting Unit := do
  requireOpen
  let draft ← get
  match draft.package with
  | none => set { draft with package := some name }
  | some package =>
    if package ≠ name then throw (.packageTaken draft.className package)

/-- Gives the line that opens the class. -/
def startClass (line : String) : Drafting Unit := do
  requireOpen
  modify fun draft => { draft with classLine := some line }

/-- Imports a name, unless it needs no import or its simple name is taken. The
answer tells whether it is imported. -/
def registerImport (name : String) : Drafting Bool := do
  requireOpen
  let draft ← get
  if draft.scope.requires name then
    let (granted, imports) := draft.imports.register name
    set { draft with imports }
    return granted
  else return false

/-- Uses a name without an import. -/
def bind (name : String) : Drafting Unit :=
  modify fun draft => { draft with imports := (draft.imports.bind name).2 }

/-- Spells a type for the class. -/
def renderTree (type : TypeTree) : Drafting String := do
  requireOpen
  let draft ← get
  let (spelling, imports) := Imports.render draft.scope type draft.imports
  set { draft with imports }
  return spelling

/-- Spells a type that is given by its written form. -/
def renderType (type : TypeRef) : Drafting String := do
  requireOpen
  match type.parse with
  | .error fault => throw (.malformedType fault)
  | .ok tree => renderTree tree

/-- Adds a field. -/
def addField (declaration : String) : Drafting Unit := do
  requireOpen
  modify fun draft => { draft with fields := draft.fields ++ [declaration] }

/-- Adds a constructor. -/
def addConstructor (definition : String) : Drafting Unit := do
  requireOpen
  modify fun draft => { draft with constructors := draft.constructors ++ [definition] }

/-- Adds a method. -/
def addMethod (definition : String) : Drafting Unit := do
  requireOpen
  modify fun draft => { draft with methods := draft.methods ++ [definition] }

/-- Finishes the class, and writes its text if it has a package and a sink that
is still open. -/
def finish : Drafting Unit := do
  requireOpen
  modify fun draft =>
    let ended := { draft with ended := true }
    match draft.package, draft.sink with
    | some _, some ⟨writes, 0⟩ => { ended with sink := some ⟨writes ++ [draft.source], 0⟩ }
    | _, _ => ended

/-- Closes the sink, once. -/
def close (draft : ClassDraft) : ClassDraft :=
  match draft.sink with
  | some ⟨writes, 0⟩ => { draft with sink := some ⟨writes, 1⟩ }
  | _ => draft

end ClassDraft

end DelegateClasses
