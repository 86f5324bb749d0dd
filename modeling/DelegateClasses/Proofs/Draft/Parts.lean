import DelegateClasses.Proofs.Draft.Operations
import DelegateClasses.Proofs.Draft.Source

/-! What operations put into a class, and the text that follows from it. Main statements: a
class holds what was added to it, in the order in which that was done, and its text is laid
out from its parts in one way. -/
namespace DelegateClasses.ClassDraft
open Steps Text

/-- What is put into a class: the package, the line that opens it, and its members in the order
in which they were added. -/
structure Parts where
  package : Option String := none
  classLine : Option String := none
  fields : List String := []
  constructors : List String := []
  methods : List String := []

/-- A class that is in a package stays there. A later line that opens it takes the place of the
one before, and members are added to those that there are. -/
def Parts.followedBy (parts later : Parts) : Parts where
  package := parts.package.or later.package
  classLine := later.classLine.or parts.classLine
  fields := parts.fields ++ later.fields
  constructors := parts.constructors ++ later.constructors
  methods := parts.methods ++ later.methods

/-- The parts of a class. -/
def parts (draft : ClassDraft) : Parts :=
  ⟨draft.package, draft.classLine, draft.fields, draft.constructors, draft.methods⟩

variable {draft : ClassDraft} {operation : Operation} {operations : List Operation}
variable {package : String}

@[simp] theorem Parts.followedBy_nothing (parts : Parts) : parts.followedBy {} = parts := by
  simp [followedBy]

/-! ## What an operation adds -/

/-- A class in the package of the instance that it wraps, before the type of the instance is
spelled. -/
def beginWrapping (draft : ClassDraft) (package : String) : ClassDraft :=
  { draft with
    package := some package
    classLine := some (Fragment.classLine draft.className "public")
    imports := (draft.imports.bind (DottedName.member package draft.className)).2 }

/-- What a class gets in that package: the line that opens it, and its members if the type can
be read. -/
def wrappingParts (draft : ClassDraft) (type : TypeRef) (name package : String) : Parts :=
  let begun := draft.beginWrapping package
  match TypeTree.parse type.qualifiedName with
  | .error _ => { package := some package, classLine := begun.classLine }
  | .ok tree =>
    let spelling := (Imports.render begun.scope tree begun.imports).1
    { package := some package
      classLine := begun.classLine
      fields := [wrappedField spelling name]
      constructors := [wrappingConstructor draft.className spelling name] }

/-- What the operation adds to a class that is not finished. -/
def Operation.adds (draft : ClassDraft) : Operation → Parts
  | .startPackage name => { package := some name }
  | .startClass line => { classLine := some line }
  | .addField declaration => { fields := [declaration] }
  | .addConstructor definition => { constructors := [definition] }
  | .addMethod definition => { methods := [definition] }
  | .startWrapping type name =>
    match type.package? with
    | none => {}
    | some package =>
      if draft.package.getD package = package then wrappingParts draft type name package else {}
  | _ => {}

/-- What several operations add to a class, one after the other. -/
def added (draft : ClassDraft) : List Operation → Parts
  | [] => {}
  | operation :: operations =>
    (if draft.ended then {} else operation.adds draft).followedBy
      (added (operation.after draft) operations)

private theorem renderType_read (unfinished : draft.ended = false) (type : TypeRef)
    (read : type.parse = .ok tree) :
    renderType type draft = .ok (Imports.render draft.scope tree draft.imports).1
      { draft with imports := (Imports.render draft.scope tree draft.imports).2 } := by
  rw [renderType, bind_of_ok (requireOpen_of_open unfinished), read]
  simp only
  rw [renderTree, bind_of_ok (requireOpen_of_open unfinished)]
  rfl

private theorem renderType_unread (unfinished : draft.ended = false) (type : TypeRef)
    (unread : type.parse = .error fault) :
    renderType type draft = .error (.malformedType fault) draft := by
  rw [renderType, bind_of_ok (requireOpen_of_open unfinished), unread]
  rfl

private theorem addMembers_left (unfinished : draft.ended = false) (field constructor : String) :
    left ((do addField field; addConstructor constructor : Drafting Unit) draft) = { draft with
      fields := draft.fields ++ [field]
      constructors := draft.constructors ++ [constructor] } := by
  have first : addField field draft =
      .ok ⟨⟩ { draft with fields := draft.fields ++ [field] } := change_of_open unfinished
  have second : addConstructor constructor { draft with fields := draft.fields ++ [field] } =
      .ok ⟨⟩ { draft with
        fields := draft.fields ++ [field]
        constructors := draft.constructors ++ [constructor] } := change_of_open unfinished
  rw [bind_of_ok first, second]
  rfl

/-- In its own package the class is begun, and the rest is left to be done. -/
theorem startWrapping_own (unfinished : draft.ended = false) {type : TypeRef}
    (place : type.package? = some package) (own : draft.package.getD package = package)
    (name : String) :
    startWrapping type name draft = (do
      let spelling ← renderType ⟨type.qualifiedName⟩
      addField (wrappedField spelling name)
      addConstructor (wrappingConstructor draft.className spelling name) : Drafting Unit)
      (draft.beginWrapping package) := by
  have begun : startPackage package draft = .ok ⟨⟩ { draft with package := some package } := by
    rw [startPackage_of_open unfinished, if_pos own]
  have line : startClass (Fragment.classLine draft.className "public")
      { draft with package := some package } = .ok ⟨⟩ { draft with
        package := some package
        classLine := some (Fragment.classLine draft.className "public") } :=
    change_of_open unfinished
  rw [startWrapping, place]
  simp only
  rw [bind_of_ok begun, get_bind, bind_of_ok line]
  rfl

private theorem startWrapping_adds (unfinished : draft.ended = false) (type : TypeRef)
    (name : String) :
    (left (startWrapping type name draft)).parts =
      draft.parts.followedBy (Operation.adds draft (.startWrapping type name)) := by
  rw [Operation.adds]
  cases place : type.package? with
  | none =>
    rw [startWrapping, place]
    exact (Parts.followedBy_nothing _).symm
  | some package =>
    simp only
    by_cases own : draft.package.getD package = package
    · have still : (draft.beginWrapping package).ended = false := unfinished
      have stays : draft.package.or (some package) = some package := by
        rw [Option.or_some, own]
      rw [if_pos own, startWrapping_own unfinished place own, wrappingParts]
      cases read : TypeTree.parse type.qualifiedName with
      | error fault =>
        rw [bind_of_error (renderType_unread still ⟨type.qualifiedName⟩ read)]
        simp [left, beginWrapping, parts, Parts.followedBy, stays]
      | ok tree =>
        rw [bind_of_ok (renderType_read still ⟨type.qualifiedName⟩ read), addMembers_left]
        · simp [beginWrapping, parts, Parts.followedBy, stays]
        · exact unfinished
    · have taken := startPackage_of_open unfinished package
      rw [if_neg own] at taken
      rw [if_neg own, startWrapping, place, Parts.followedBy_nothing]
      simp only
      rw [bind_of_error taken]
      rfl

theorem after_close (draft : ClassDraft) :
    Operation.close.after draft = { draft with sink := draft.close.sink } :=
  close_eq draft

/-- An open class has its own parts and what the operation adds. -/
theorem after_parts (unfinished : draft.ended = false) (operation : Operation) :
    (operation.after draft).parts = draft.parts.followedBy (operation.adds draft) := by
  have nothing {operation : Operation} (none : operation.adds draft = {})
      (names : UsingNames operation.perform) :
      (operation.after draft).parts = draft.parts.followedBy (operation.adds draft) := by
    rw [none, Parts.followedBy_nothing, Operation.after,
      (names draft draft (usesNames_refl draft)).same]
    rfl
  have changed {operation : Operation} {change : ClassDraft → ClassDraft}
      (performs : operation.perform = requireOpen >>= fun _ => modify change) :
      (operation.after draft).parts = (change draft).parts := by
    rw [Operation.after, performs, change_of_open unfinished, left]
  cases operation with
  | startPackage name =>
    rw [Operation.after, Operation.perform, startPackage_left unfinished]
    simp [Operation.adds, parts, Parts.followedBy]
  | startClass line =>
    rw [changed rfl]
    simp [Operation.adds, parts, Parts.followedBy]
  | registerImport name => exact nothing rfl (discard_usingNames (registerImport_usingNames name))
  | renderType type => exact nothing rfl (discard_usingNames (renderType_usingNames type))
  | renderTree type => exact nothing rfl (discard_usingNames (renderTree_usingNames type))
  | addField declaration =>
    rw [changed rfl]
    simp [Operation.adds, parts, Parts.followedBy]
  | addConstructor definition =>
    rw [changed rfl]
    simp [Operation.adds, parts, Parts.followedBy]
  | addMethod definition =>
    rw [changed rfl]
    simp [Operation.adds, parts, Parts.followedBy]
  | startWrapping type name => exact startWrapping_adds unfinished type name
  | signature name parameters returns throws modifiers =>
    exact nothing rfl
      (discard_usingNames (signature_usingNames name parameters returns throws modifiers))
  | source => exact nothing rfl fun _ => preserves_return _
  | finish =>
    obtain ⟨sink, ran⟩ := finish_of_open unfinished
    rw [Operation.after, Operation.perform, ran]
    exact (Parts.followedBy_nothing _).symm
  | close =>
    rw [after_close]
    exact (Parts.followedBy_nothing _).symm

/-- At most its sink changes when something is done to a finished class. -/
theorem after_of_finished (ended : draft.ended = true) (operation : Operation) :
    ∃ sink, operation.after draft = { draft with sink := sink } := by
  by_cases used : operation = .close
  · subst used
    exact ⟨_, after_close draft⟩
  · exact ⟨draft.sink, after_of_ended ended used⟩

private theorem Parts.followedBy_assoc (parts middle later : Parts) :
    (parts.followedBy middle).followedBy later = parts.followedBy (middle.followedBy later) := by
  simp [followedBy, List.append_assoc, Option.or_assoc]

/-- After several operations a class has its own parts and what they added. -/
theorem performAll_parts (operations : List Operation) (draft : ClassDraft) :
    (performAll operations draft).parts = draft.parts.followedBy (added draft operations) := by
  induction operations generalizing draft with
  | nil => exact (Parts.followedBy_nothing _).symm
  | cons operation operations ih =>
    have first : (operation.after draft).parts =
        draft.parts.followedBy (if draft.ended then {} else operation.adds draft) := by
      cases ended : draft.ended with
      | true =>
        obtain ⟨sink, same⟩ := after_of_finished ended operation
        rw [if_pos rfl, Parts.followedBy_nothing, same]
        rfl
      | false => exact after_parts ended operation
    change (performAll operations (operation.after draft)).parts = _
    rw [ih, first, Parts.followedBy_assoc, added]

/-- A new class has what was added to it. -/
theorem performAll_new_parts (className : String) (sink : Option Sink) (available : List String)
    (operations : List Operation) :
    (performAll operations (new className sink available)).parts =
      added (new className sink available) operations := by
  rw [performAll_parts]
  simp [Parts.followedBy, parts, new]

private theorem after_named (operation : Operation) (draft : ClassDraft) :
    (operation.after draft).className = draft.className := by
  cases ended : draft.ended with
  | true =>
    obtain ⟨sink, same⟩ := after_of_finished ended operation
    rw [same]
  | false =>
    by_cases used : operation = .close
    · rw [used, after_close]
    by_cases begun : operation = .finish
    · obtain ⟨sink, ran⟩ := finish_of_open ended
      rw [begun, Operation.after, Operation.perform, ran]
      rfl
    · exact (after_fills ended begun used).named

theorem performAll_named (operations : List Operation) (draft : ClassDraft) :
    (performAll operations draft).className = draft.className := by
  induction operations generalizing draft with
  | nil => rfl
  | cons operation operations ih => exact (ih _).trans (after_named operation draft)

/-! ## The text -/

/-- The line that opens a class: the last one given, unless it is empty. -/
def Parts.opening (parts : Parts) (className : String) : String :=
  match parts.classLine with
  | none => Fragment.classLine className "public"
  | some line => if line = "" then Fragment.classLine className "public" else line

/-- The lines of a generated text: the package, the imports, and the class with its fields and
blocks. Blank lines follow the package and the imports, if there are any, and separate the
fields from the blocks and the blocks from each other. A block may extend over several lines. -/
def layout (package opening : String) (imports fields blocks : List String) : List String :=
  [Fragment.packageLine package, ""] ++
  (imports.map Fragment.importLine ++ if imports = [] then [] else [""]) ++
  [opening] ++ fields ++ (if fields = [] ∨ blocks = [] then [] else [""]) ++
  blocks.intersperse "" ++ ["\x7d"]

private theorem terminated_bodyLines (draft : ClassDraft) :
    terminated draft.bodyLines =
      terminated (Text.ascendingOnce draft.fields ++
        (if Text.ascendingOnce draft.fields = [] ∨ draft.blocks = [] then [] else [""]) ++
        draft.blocks.intersperse "") := by
  rw [bodyLines]
  cases draft.blocks with
  | nil => simp
  | cons block blocks =>
    rw [terminated_append, terminated_intersperse, ← terminated_append]
    by_cases none : Text.ascendingOnce draft.fields = []
    · simp [none]
    · simp [none]

theorem source_layout (packaged : draft.package = some package) :
    draft.source.toList = terminated (layout package (draft.parts.opening draft.className)
      draft.imports.toList (ascendingOnce draft.fields) draft.blocks) := by
  have none : draft.imports.lines.isEmpty = true ↔ draft.imports.toList = [] := by
    simp [Imports.Registry.lines]
  have rest : terminated draft.restLines =
      terminated (if draft.imports.toList = [] then [] else [""]) ++
        (terminated [draft.opening] ++ (terminated draft.bodyLines ++ terminated ["\x7d"])) := by
    simp only [restLines, none, ← terminated_append, List.singleton_append]
  have opening : draft.opening = draft.parts.opening draft.className := rfl
  have start : terminated (Fragment.packageLine package :: "" :: draft.imports.lines) =
      terminated [Fragment.packageLine package, ""] ++ terminated draft.imports.lines :=
    terminated_append [_, _] _
  rw [source_terminated packaged, start, rest, terminated_bodyLines, layout, opening]
  simp only [terminated_append, List.append_assoc]
  rfl

end DelegateClasses.ClassDraft
