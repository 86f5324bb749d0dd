import DelegateClasses.Proofs.Draft.Files
import DelegateClasses.Proofs.Imports.Stability

/-! The operations on a generated class, in any order and with any arguments. As long as
the class is not finished, an operation adds parts and uses names, and at most puts the
class into a package; once it is finished, all of them are refused, except that its text
can still be read and its sink closed. -/
namespace DelegateClasses.ClassDraft
open Steps

/-- An operation on a generated class, with its arguments. -/
inductive Operation where
  | startPackage (name : String)
  | startClass (line : String)
  | registerImport (name : String)
  | renderType (type : TypeRef)
  | renderTree (type : TypeTree)
  | addField (declaration : String)
  | addConstructor (definition : String)
  | addMethod (definition : String)
  | startWrapping (type : TypeRef) (name : String)
  | signature (name : String) (parameters : List ParameterDecl) (returns : TypeRef)
      (throws : List TypeRef) (modifiers : String)
  /-- The text of the class is read. -/
  | source
  | finish
  | close

namespace Operation

/-- What the operation does, whatever it answers. -/
def perform : Operation → Drafting PUnit
  | .startPackage name => ClassDraft.startPackage name
  | .startClass line => ClassDraft.startClass line
  | .registerImport name => do discard (ClassDraft.registerImport name)
  | .renderType type => do discard (ClassDraft.renderType type)
  | .renderTree type => do discard (ClassDraft.renderTree type)
  | .addField declaration => ClassDraft.addField declaration
  | .addConstructor definition => ClassDraft.addConstructor definition
  | .addMethod definition => ClassDraft.addMethod definition
  | .startWrapping type name => ClassDraft.startWrapping type name
  | .signature name parameters returns throws modifiers => do
      discard (ClassDraft.signature name parameters returns throws modifiers)
  | .source => return ⟨⟩
  | .finish => ClassDraft.finish
  | .close => modify ClassDraft.close

/-- The class after the operation, whether it succeeded or failed. -/
def after (operation : Operation) (draft : ClassDraft) : ClassDraft :=
  left (operation.perform draft)

/-- The package that the operation puts a class into that has none yet. -/
def package? : Operation → Option String
  | .startPackage name => some name
  | .startWrapping type _ => type.package?
  | _ => none

/-- How the operation is refused by a class that is finished. -/
def refusal (className : String) : Operation → Failure
  | .startWrapping type _ =>
    match type.package? with
    | none => .noPackage type.qualifiedName
    | some _ => .alreadyWritten className
  | _ => .alreadyWritten className

end Operation

/-- The class after several operations, one after the other. -/
def performAll (operations : List Operation) (draft : ClassDraft) : ClassDraft :=
  operations.foldl (fun draft operation => operation.after draft) draft

variable {operations earlier later : List Operation} {operation : Operation}
variable {draft middle next base : ClassDraft}

@[simp] theorem performAll_append :
    performAll (earlier ++ later) draft = performAll later (performAll earlier draft) :=
  List.foldl_append

/-! ## Operations on a class that is not finished -/

/-- More names were used since, and perhaps more parts were added or the class was
finished; it still is the same class in the same package. -/
structure Continues (draft later : ClassDraft) : Prop where
  named : later.className = draft.className
  reach : later.available = draft.available
  packaged : later.package = draft.package
  imports : draft.imports.Reaches later.imports

/-- Nothing else was done than to use names and to add parts. -/
structure Fills (draft later : ClassDraft) : Prop extends Continues draft later where
  ended : later.ended = draft.ended
  sink : later.sink = draft.sink

theorem continues_refl (draft : ClassDraft) : Continues draft draft :=
  ⟨rfl, rfl, rfl, Imports.Registry.reaches_refl _⟩

theorem continues_trans (first : Continues draft middle) (second : Continues middle next) :
    Continues draft next where
  named := second.named.trans first.named
  reach := second.reach.trans first.reach
  packaged := second.packaged.trans first.packaged
  imports := Imports.Registry.reaches_trans first.imports second.imports

theorem fills_refl (draft : ClassDraft) : Fills draft draft :=
  ⟨continues_refl draft, rfl, rfl⟩

theorem fills_trans (first : Fills draft middle) (second : Fills middle next) :
    Fills draft next where
  toContinues := continues_trans first.toContinues second.toContinues
  ended := second.ended.trans first.ended
  sink := second.sink.trans first.sink

/-- The same class, in which perhaps more names were used. -/
structure UsesNames (draft later : ClassDraft) : Prop where
  same : later = { draft with imports := later.imports }
  imports : draft.imports.Reaches later.imports

theorem usesNames_refl (draft : ClassDraft) : UsesNames draft draft :=
  ⟨rfl, Imports.Registry.reaches_refl _⟩

/-- More names are used in a class in which some were. -/
theorem usesNames_more (used : UsesNames draft middle) {imports : Imports.Registry}
    (more : middle.imports.Reaches imports) :
    UsesNames draft { middle with imports := imports } := by
  refine ⟨?_, Imports.Registry.reaches_trans used.imports more⟩
  rw [used.same]

private theorem fills_of_usesNames (used : UsesNames draft next) : Fills draft next := by
  rw [used.same]
  exact ⟨⟨rfl, rfl, rfl, used.imports⟩, rfl, rfl⟩

/-- The work uses names and does nothing else, as far as it gets. -/
abbrev UsingNames (work : Drafting α) : Prop :=
  ∀ base, Preserves (UsesNames base) work

private theorem left_requireOpen (draft : ClassDraft) : left (requireOpen draft) = draft := by
  rw [requireOpen, get_bind]
  split <;> rfl

private theorem requireOpen_usingNames : UsingNames requireOpen := by
  intro base draft used
  rw [left_requireOpen]
  exact used

private theorem bind_usingNames (name : String) : UsingNames (ClassDraft.bind name) :=
  fun _ draft used =>
    usesNames_more used (Imports.Registry.reaches_run (.bind name) draft.imports)

theorem registerImport_usingNames (name : String) : UsingNames (registerImport name) := by
  intro base
  refine preserves_bind (requireOpen_usingNames base) fun _ draft used => ?_
  rw [get_bind]
  split
  · exact usesNames_more used (Imports.Registry.reaches_run (.register name) draft.imports)
  · exact used

theorem renderTree_usingNames (type : TypeTree) : UsingNames (renderTree type) := by
  intro base
  refine preserves_bind (requireOpen_usingNames base) fun _ draft used => ?_
  exact usesNames_more used (Imports.reaches_render type draft.imports)

theorem renderType_usingNames (type : TypeRef) : UsingNames (renderType type) := by
  intro base
  refine preserves_bind (requireOpen_usingNames base) fun _ => ?_
  cases type.parse with
  | error fault => exact preserves_throw _
  | ok tree => exact renderTree_usingNames tree base

theorem signature_usingNames (name : String) (parameters : List ParameterDecl)
    (returns : TypeRef) (throws : List TypeRef) (modifiers : String) :
    UsingNames (signature name parameters returns throws modifiers) := by
  intro base
  refine preserves_bind (renderType_usingNames returns base) fun _ => ?_
  refine preserves_bind (preserves_mapM (fun parameter => ?_) parameters) fun _ => ?_
  · exact preserves_bind (renderType_usingNames _ base) fun _ => preserves_return _
  · exact preserves_bind (preserves_mapM (renderType_usingNames · base) throws) fun _ =>
      preserves_return _

theorem discard_usingNames {work : Drafting α} (uses : UsingNames work) :
    UsingNames (discard work : Drafting PUnit) := by
  intro base draft used
  rw [left_discard]
  exact uses base draft used

/-- The work fills a class, as far as it gets. -/
abbrev Filling (work : Drafting α) : Prop :=
  ∀ base, Preserves (Fills base) work

/-- Using names fills a class. -/
theorem filling_of_usingNames {work : Drafting α} (uses : UsingNames work) : Filling work :=
  fun _ draft filled =>
    fills_trans filled (fills_of_usesNames (uses draft draft (usesNames_refl draft)))

/-- A change that is only made to an open class fills it if it only adds parts. -/
theorem change_filling {change : ClassDraft → ClassDraft}
    (each : ∀ draft, Fills draft (change draft)) :
    Filling (requireOpen >>= fun _ => modify change : Drafting PUnit) :=
  fun base => preserves_bind (filling_of_usingNames requireOpen_usingNames base)
    fun _ draft filled => fills_trans filled (each draft)

private theorem startClass_filling (line : String) : Filling (startClass line) :=
  change_filling fun _ => ⟨⟨rfl, rfl, rfl, Imports.Registry.reaches_refl _⟩, rfl, rfl⟩

private theorem addField_filling (declaration : String) : Filling (addField declaration) :=
  change_filling fun _ => ⟨⟨rfl, rfl, rfl, Imports.Registry.reaches_refl _⟩, rfl, rfl⟩

private theorem addConstructor_filling (definition : String) :
    Filling (addConstructor definition) :=
  change_filling fun _ => ⟨⟨rfl, rfl, rfl, Imports.Registry.reaches_refl _⟩, rfl, rfl⟩

private theorem addMethod_filling (definition : String) : Filling (addMethod definition) :=
  change_filling fun _ => ⟨⟨rfl, rfl, rfl, Imports.Registry.reaches_refl _⟩, rfl, rfl⟩

/-- A change of an open class. -/
theorem change_of_open {change : ClassDraft → ClassDraft} (unfinished : draft.ended = false) :
    (requireOpen >>= fun _ => modify change : Drafting PUnit) draft = .ok ⟨⟩ (change draft) :=
  bind_of_ok (requireOpen_of_open unfinished)

/-- A class that is finished gets nothing more, whether its text is written or not. -/
theorem finish_of_open (unfinished : draft.ended = false) :
    ∃ sink, finish draft = .ok ⟨⟩ { draft with ended := true, sink := sink } := by
  rw [finish, change_of_open unfinished]
  dsimp only
  split
  · exact ⟨_, rfl⟩
  · exact ⟨draft.sink, rfl⟩

/-- A class is put into a package if it is in no other. -/
theorem startPackage_of_open (unfinished : draft.ended = false) (package : String) :
    startPackage package draft =
      if draft.package.getD package = package then .ok ⟨⟩ { draft with package := some package }
      else .error (.packageTaken draft.className (draft.package.getD package)) draft := by
  rw [startPackage, bind_of_ok (requireOpen_of_open unfinished), get_bind]
  obtain ⟨className, available, imports, current, line, fields, constructors, methods, ended,
    sink⟩ := draft
  cases current with
  | none => exact (if_pos rfl).symm
  | some current =>
    simp only [Option.getD_some]
    by_cases own : current = package
    · rw [if_pos own, if_neg (not_not_intro own), own]
      rfl
    · rw [if_neg own, if_pos own]
      rfl

/-- A class that has a package keeps it, whether another one is refused or not. -/
theorem startPackage_left (unfinished : draft.ended = false) (name : String) :
    left (startPackage name draft) = { draft with package := draft.package.or (some name) } := by
  rw [startPackage_of_open unfinished]
  split
  · next own => rw [left, Option.or_some, own]
  · next taken =>
    have kept : draft.package.or (some name) = draft.package := by
      cases held : draft.package with
      | none => exact absurd (by rw [held]; rfl) taken
      | some package => rfl
    rw [left, kept]

/-- An open class is at most put into a package, and filled. -/
theorem after_fills (unfinished : draft.ended = false) (begun : operation ≠ .finish)
    (used : operation ≠ .close) :
    Fills { draft with package := draft.package.or operation.package? }
      (operation.after draft) := by
  have same : { draft with package := draft.package.or none } = draft := by rw [Option.or_none]
  have filled {operation : Operation} (none : operation.package? = none)
      (filling : Filling operation.perform) :
      Fills { draft with package := draft.package.or operation.package? }
        (operation.after draft) := by
    rw [none, same]
    exact filling draft draft (fills_refl draft)
  have uses {operation : Operation} (none : operation.package? = none)
      (names : UsingNames operation.perform) :=
    filled none (filling_of_usingNames names)
  cases operation with
  | startPackage name =>
    have put := startPackage_left unfinished name
    rw [Operation.after, Operation.perform, put]
    exact fills_refl _
  | startClass line => exact filled rfl (startClass_filling line)
  | registerImport name => exact uses rfl (discard_usingNames (registerImport_usingNames name))
  | renderType type => exact uses rfl (discard_usingNames (renderType_usingNames type))
  | renderTree type => exact uses rfl (discard_usingNames (renderTree_usingNames type))
  | addField declaration => exact filled rfl (addField_filling declaration)
  | addConstructor definition => exact filled rfl (addConstructor_filling definition)
  | addMethod definition => exact filled rfl (addMethod_filling definition)
  | startWrapping type name =>
    rw [Operation.after, Operation.perform, startWrapping, Operation.package?]
    cases type.package? with
    | none =>
      rw [same]
      exact fills_refl draft
    | some package =>
      refine left_bind ?_ fun _ => preserves_get fun current => ?_
      · rw [startPackage_left unfinished]
        exact fills_refl _
      · refine preserves_bind (startClass_filling _ _) fun _ => ?_
        refine preserves_bind (filling_of_usingNames (bind_usingNames _) _) fun _ => ?_
        refine preserves_bind (filling_of_usingNames (renderType_usingNames _) _) fun _ => ?_
        exact preserves_bind (addField_filling _ _) fun _ => addConstructor_filling _ _
  | signature name parameters returns throws modifiers =>
    exact uses rfl
      (discard_usingNames (signature_usingNames name parameters returns throws modifiers))
  | source => exact filled rfl fun _ => preserves_return _
  | finish => exact absurd rfl begun
  | close => exact absurd rfl used

/-! ## Operations on a class that is finished -/

theorem requireOpen_of_ended (ended : draft.ended = true) :
    requireOpen draft = .error (.alreadyWritten draft.className) draft := by
  rw [requireOpen, get_bind, if_pos ended]
  rfl

/-- A finished class refuses whatever is more than to read its text or to close its sink. -/
theorem perform_of_ended (ended : draft.ended = true) (more : operation ≠ .source)
    (used : operation ≠ .close) :
    operation.perform draft = .error (operation.refusal draft.className) draft := by
  have refused {α β : Type} (next : PUnit → Drafting α) (last : α → Drafting β) :
      (requireOpen >>= next >>= last) draft = .error (.alreadyWritten draft.className) draft :=
    bind_of_error (bind_of_error (requireOpen_of_ended ended))
  have rendered (type : TypeRef) :
      renderType type draft = .error (.alreadyWritten draft.className) draft :=
    bind_of_error (requireOpen_of_ended ended)
  cases operation with
  | startWrapping type name =>
    rw [Operation.perform, startWrapping, Operation.refusal]
    cases type.package? with
    | none => rfl
    | some package => exact bind_of_error (bind_of_error (requireOpen_of_ended ended))
  | signature name parameters returns throws modifiers =>
    exact bind_of_error (bind_of_error (rendered returns))
  | registerImport name => exact bind_of_error (bind_of_error (requireOpen_of_ended ended))
  | renderType type => exact bind_of_error (rendered type)
  | renderTree type => exact bind_of_error (bind_of_error (requireOpen_of_ended ended))
  | source => exact absurd rfl more
  | close => exact absurd rfl used
  | startPackage name => exact bind_of_error (requireOpen_of_ended ended)
  | startClass line => exact bind_of_error (requireOpen_of_ended ended)
  | addField declaration => exact bind_of_error (requireOpen_of_ended ended)
  | addConstructor definition => exact bind_of_error (requireOpen_of_ended ended)
  | addMethod definition => exact bind_of_error (requireOpen_of_ended ended)
  | finish => exact bind_of_error (requireOpen_of_ended ended)

theorem after_of_ended (ended : draft.ended = true) (used : operation ≠ .close) :
    operation.after draft = draft := by
  by_cases read : operation = .source
  · rw [read]
    rfl
  · rw [Operation.after, perform_of_ended ended read used]
    rfl

/-! ## Operations in a package -/

/-- The sink is closed, and nothing else is done. -/
theorem close_eq (draft : ClassDraft) : draft.close = { draft with sink := draft.close.sink } := by
  rw [close]
  split <;> rfl

/-- Whatever is done to a class in a package, it stays the same class there. -/
theorem after_continues (packaged : draft.package ≠ none) (operation : Operation) :
    Continues draft (operation.after draft) := by
  obtain ⟨package, owned⟩ := Option.ne_none_iff_exists'.1 packaged
  have kept : { draft with package := draft.package.or operation.package? } = draft := by
    rw [owned, Option.some_or, ← owned]
  by_cases used : operation = .close
  · subst used
    change Continues draft draft.close
    rw [close_eq]
    exact ⟨rfl, rfl, rfl, Imports.Registry.reaches_refl _⟩
  cases ended : draft.ended with
  | true =>
    rw [after_of_ended ended used]
    exact continues_refl draft
  | false =>
    by_cases begun : operation = .finish
    · subst begun
      obtain ⟨sink, ran⟩ := finish_of_open ended
      rw [Operation.after, Operation.perform, ran]
      exact ⟨rfl, rfl, rfl, Imports.Registry.reaches_refl _⟩
    · have filled := after_fills ended begun used
      rw [kept] at filled
      exact filled.toContinues

theorem performAll_continues (packaged : draft.package ≠ none) (operations : List Operation) :
    Continues draft (performAll operations draft) := by
  induction operations generalizing draft with
  | nil => exact continues_refl draft
  | cons operation operations ih =>
    have first := after_continues packaged operation
    exact continues_trans first (ih (by rw [first.packaged]; exact packaged))

end DelegateClasses.ClassDraft
