import DelegateClasses.Delegate.Method
import DelegateClasses.Proofs.Imports.Spelling
import DelegateClasses.Proofs.Steps

/-! The work on a generated class that spells types. Such work uses names in a
fixed order and changes nothing else, and what it writes is known up to the
spelling of the names, which the owners after the last use decide. Main
statement: the method that passes on a call is such a piece of work. -/
namespace DelegateClasses

namespace TypeRef

/-- The qualified names in a type that is given by its written form. -/
def names (type : TypeRef) : List String :=
  match type.parse with
  | .ok tree => tree.names
  | .error _ => []

/-- The written form with its names spelled anew. -/
def spelled (type : TypeRef) (spelling : String → String) : String :=
  match type.parse with
  | .ok tree => (tree.rename spelling).text
  | .error _ => ""

end TypeRef

namespace ClassDraft
open Imports Steps

/-- The work uses the names in their order, and its result is written with every
spelling by owners that keeps the owners after it. -/
def Renders (work : Drafting α) (names : List String) (value : (String → String) → α) : Prop :=
  ∀ draft result after, work draft = .ok result after →
    after = { draft with imports := draft.scope.useAll names draft.imports } ∧
      ∀ owner?, Keeps after.imports owner? → result = value (shortened owner?)

theorem renders_return (result : α) : Renders (return result) [] fun _ => result := by
  intro draft _ after ran
  cases ran
  exact ⟨rfl, fun _ _ => rfl⟩

/-- Work after work uses the names of both. -/
theorem renders_bind {next : α → Drafting β} (rest : α → (String → String) → β)
    (first : Renders work names value)
    (second : ∀ result, Renders (next result) more (rest result)) :
    Renders (work >>= next) (names ++ more) fun spelling => rest (value spelling) spelling := by
  intro draft result after ran
  obtain ⟨middle, between, started, finished⟩ := bind_eq_ok ran
  obtain ⟨rfl, written⟩ := first draft middle between started
  obtain ⟨rfl, ended⟩ := second middle _ result after finished
  refine ⟨?_, fun owner? keeps => ?_⟩
  · rw [Scope.useAll_append]
    rfl
  · rw [ended owner? keeps, written owner? (keeps_of_useAll keeps)]

theorem renders_mapM {act : α → Drafting β} {names : α → List String}
    {value : α → (String → String) → β}
    (each : ∀ part, Renders (act part) (names part) (value part))
    (parts : List α) : Renders (parts.mapM act) (parts.flatMap names) fun spelling =>
      parts.map (value · spelling) := by
  induction parts with
  | nil => exact renders_return []
  | cons part parts ih =>
    rw [List.mapM_cons, List.flatMap_cons]
    refine renders_bind (fun result spelling => result :: parts.map (value · spelling)) (each part)
      fun result => ?_
    have rest := renders_bind (fun results _ => result :: results) ih fun _ => renders_return _
    rwa [List.append_nil] at rest

theorem requireOpen_eq_ok (ran : requireOpen draft = .ok result after) :
    draft.ended = false ∧ after = draft := by
  obtain ⟨current, same, got, rest⟩ := bind_eq_ok ran
  cases got
  split at rest
  · cases rest
  · next still =>
    cases rest
    exact ⟨by simpa using still, rfl⟩

private theorem renderTree_renders (wellFormed : TypeTree.WellFormed tree) :
    Renders (renderTree tree) tree.names fun spelling => (tree.rename spelling).text := by
  intro draft result after ran
  obtain ⟨⟨⟩, same, opened, rest⟩ := bind_eq_ok ran
  obtain ⟨-, rfl⟩ := requireOpen_eq_ok opened
  cases rest
  refine ⟨by rw [render_registry wellFormed], fun owner? keeps => ?_⟩
  exact render_text wellFormed keeps

/-- A type that is spelled was read. -/
theorem renderType_eq_ok {type : TypeRef} {text : String}
    (ran : renderType type draft = .ok text after) :
    ∃ tree, type.parse = .ok tree ∧ renderTree tree draft = .ok text after := by
  obtain ⟨⟨⟩, same, opened, rest⟩ := bind_eq_ok ran
  obtain ⟨-, rfl⟩ := requireOpen_eq_ok opened
  cases read : type.parse with
  | error fault =>
    rw [read] at rest
    cases rest
  | ok tree =>
    rw [read] at rest
    exact ⟨tree, rfl, rest⟩

theorem renderType_renders (type : TypeRef) :
    Renders (renderType type) type.names type.spelled := by
  intro draft result after ran
  obtain ⟨tree, read, worked⟩ := renderType_eq_ok ran
  have rendered := renderTree_renders (TypeTree.wellFormed_of_parse read) _ _ _ worked
  simpa only [TypeRef.names, TypeRef.spelled, read] using rendered

/-- The type of a parameter with its name. -/
def declaredParameter (parameter : ParameterDecl) (spelling : String → String) : String :=
  parameter.type.spelled spelling ++ " " ++ parameter.name

/-- A signature, put together from the spellings of its types. -/
def signatureText (name modifiers returned : String) (declared thrown : List String) : String :=
  let start := signatureStart modifiers returned name
  start ++ Fragment.joinNonEmpty (parameterBreak start) declared ++ ")" ++ throwsClause thrown ++
    " \x7b"

private theorem parameters_render (parameters : List ParameterDecl) :
    Renders (parameters.mapM fun parameter => do
        return (← renderType parameter.type) ++ " " ++ parameter.name)
      (parameters.flatMap (·.type.names)) fun spelling =>
        parameters.map (declaredParameter · spelling) := by
  refine renders_mapM (fun parameter => ?_) parameters
  have one := renders_bind (fun returned _ => returned ++ " " ++ parameter.name)
    (renderType_renders parameter.type) fun _ => renders_return _
  rwa [List.append_nil] at one

private theorem signature_renders (name : String) (parameters : List ParameterDecl)
    (returns : TypeRef) (throws : List TypeRef) (modifiers : String) :
    Renders (signature name parameters returns throws modifiers)
      (returns.names ++ (parameters.flatMap (·.type.names) ++ throws.flatMap TypeRef.names))
      fun spelling => signatureText name modifiers (returns.spelled spelling)
        (parameters.map (declaredParameter · spelling)) (throws.map (·.spelled spelling)) := by
  have last : ∀ returned declared, Renders (do
      let thrown ← throws.mapM renderType
      return signatureText name modifiers returned declared thrown) (throws.flatMap TypeRef.names)
      fun spelling => signatureText name modifiers returned declared
        (throws.map (·.spelled spelling)) := by
    intro returned declared
    have all := renders_bind (fun thrown _ => signatureText name modifiers returned declared thrown)
      (renders_mapM renderType_renders throws) fun _ => renders_return _
    rwa [List.append_nil] at all
  have middle : ∀ returned, Renders (do
      let declared ← parameters.mapM fun parameter => do
        return (← renderType parameter.type) ++ " " ++ parameter.name
      let thrown ← throws.mapM renderType
      return signatureText name modifiers returned declared thrown)
      (parameters.flatMap (·.type.names) ++ throws.flatMap TypeRef.names)
      fun spelling => signatureText name modifiers returned
        (parameters.map (declaredParameter · spelling)) (throws.map (·.spelled spelling)) := by
    intro returned
    have second := last returned
    exact renders_bind _ (parameters_render parameters) second
  exact renders_bind _ (renderType_renders returns) middle

end ClassDraft

namespace Delegate
open ClassDraft

/-- The qualified names in the types of a method, in the order in which they
are spelled. -/
def methodNames (method : MethodDecl) : List String :=
  method.returns.names ++
    (method.parameters.flatMap (·.type.names) ++ method.throws.flatMap TypeRef.names)

/-- The definition of the method that passes a call on, with its types spelled anew. -/
def spelledDefinition (method : MethodDecl) (spelling : String → String) : String :=
  Fragment.block
    (signatureText method.name "public" (method.returns.spelled spelling)
      (method.parameters.map (declaredParameter · spelling))
      (method.throws.map (·.spelled spelling)))
    [delegation method] Fragment.indent

/-- The method that passes a call on uses the names in the types of the method,
and is written by what their owners are then. -/
theorem definition_renders (method : MethodDecl) :
    Renders (definition method) (methodNames method) (spelledDefinition method) := by
  have signed := signature_renders method.name method.parameters method.returns method.throws
    "public"
  have whole := renders_bind
    (fun signature _ => Fragment.block signature [delegation method] Fragment.indent) signed
    fun _ => renders_return _
  rwa [List.append_nil] at whole

end Delegate

end DelegateClasses
