import DelegateClasses.Proofs.Delegate.Overriding
import DelegateClasses.Proofs.Draft.Operations

/-! Methods that are written again. Work on a class that only spells types does the same
when it is done once more, whatever else was done to the class in between. Main statement:
types are spelled alike ever after, and so are methods that agree. -/
namespace DelegateClasses
open Imports Steps

namespace ClassDraft

variable {α β : Type} {draft later : ClassDraft}

private theorem scope_of_continues (continues : Continues draft later) :
    later.scope = draft.scope := by
  rw [scope, scope, continues.packaged, continues.reach]

/-- Once the work was done, it is done again with the same result and without a change, as
long as the class is not finished. -/
def Repeats (work : Drafting α) : Prop :=
  ∀ draft result after, work draft = .ok result after → Continues draft after ∧
    ∀ later, Continues after later → later.ended = false → work later = .ok result later

theorem repeats_return (result : α) : Repeats (return result) := by
  intro draft _ after ran
  cases ran
  exact ⟨continues_refl draft, fun _ _ _ => rfl⟩

theorem repeats_bind {work : Drafting α} {next : α → Drafting β} (first : Repeats work)
    (second : ∀ value, Repeats (next value)) : Repeats (work >>= next) := by
  intro draft result after ran
  obtain ⟨value, middle, started, finished⟩ := bind_eq_ok ran
  obtain ⟨begins, again⟩ := first draft value middle started
  obtain ⟨goesOn, more⟩ := second value middle result after finished
  refine ⟨continues_trans begins goesOn, fun later continues unfinished => ?_⟩
  rw [bind_of_ok (again later (continues_trans goesOn continues) unfinished)]
  exact more later continues unfinished

theorem repeats_mapM {act : α → Drafting β} (each : ∀ value, Repeats (act value))
    (values : List α) : Repeats (values.mapM act) := by
  induction values with
  | nil => exact repeats_return []
  | cons value values ih =>
    rw [List.mapM_cons]
    exact repeats_bind (each value) fun _ => repeats_bind ih fun _ => repeats_return _

private theorem renderTree_repeats (type : TypeTree) : Repeats (renderTree type) := by
  intro draft result after ran
  obtain ⟨⟨⟩, same, opened, rest⟩ := bind_eq_ok ran
  obtain ⟨-, rfl⟩ := requireOpen_eq_ok opened
  cases rest
  refine ⟨⟨rfl, rfl, rfl, reaches_render type _⟩, fun later continues unfinished => ?_⟩
  have again : render later.scope type later.imports = ((render same.scope type same.imports).1,
      later.imports) := by
    rw [scope_of_continues continues]
    exact render_again type same.imports later.imports continues.imports
  rw [renderTree, bind_of_ok (requireOpen_of_open unfinished), get_bind, again]
  rfl

private theorem renderType_repeats (type : TypeRef) : Repeats (renderType type) := by
  intro draft result after ran
  obtain ⟨tree, read, worked⟩ := renderType_eq_ok ran
  obtain ⟨continues, again⟩ := renderTree_repeats tree _ _ _ worked
  refine ⟨continues, fun later follows unfinished => ?_⟩
  rw [renderType, bind_of_ok (requireOpen_of_open unfinished), read]
  exact again later follows unfinished

private theorem signature_repeats (name : String) (parameters : List ParameterDecl)
    (returns : TypeRef) (throws : List TypeRef) (modifiers : String) :
    Repeats (signature name parameters returns throws modifiers) := by
  refine repeats_bind (renderType_repeats returns) fun _ => ?_
  refine repeats_bind (repeats_mapM (fun parameter => ?_) parameters) fun _ => ?_
  · exact repeats_bind (renderType_repeats _) fun _ => repeats_return _
  · exact repeats_bind (repeats_mapM renderType_repeats throws) fun _ => repeats_return _

/-! ## Types that are read alike -/

theorem renderType_eq {type other : TypeRef} (same : type.parse = other.parse) :
    renderType type = renderType other := by
  rw [renderType, renderType, same]

end ClassDraft

namespace Delegate
open ClassDraft

variable {first second : MethodDecl}

/-- Methods that agree are passed on by the same work. -/
theorem definition_eq (same : profile first = profile second) (agree : Agree first second) :
    definition first = definition second := by
  obtain ⟨name, types⟩ := Prod.mk.inj same
  have keys : first.parameters.map (fun parameter => (parameter.type.parse, parameter.name)) =
      second.parameters.map fun parameter => (parameter.type.parse, parameter.name) := by
    rw [← List.zip_map', ← List.zip_map', types, agree.names]
  rw [definition, definition, signature, signature, name, delegation_eq same agree,
    renderType_eq agree.returns, mapM_eq_of_keys (fun _ _ => renderType_eq) agree.throws,
    mapM_eq_of_keys (fun parameter other both => ?_) keys]
  obtain ⟨type, called⟩ := Prod.mk.inj both
  rw [renderType_eq type, called]

/-- The work of passing a call on is done again in the same way. -/
theorem definition_repeats (method : MethodDecl) : Repeats (definition method) :=
  repeats_bind (signature_repeats _ _ _ _ _) fun _ => repeats_return _

private theorem definition_of_ended {draft : ClassDraft} (ended : draft.ended = true)
    (method : MethodDecl) :
    definition method draft = .error (.alreadyWritten draft.className) draft :=
  bind_of_error (bind_of_error (bind_of_error (requireOpen_of_ended ended)))

/-- A type that was spelled is spelled again in the same way, whatever uses of the registry
lie in between, and leaves the registry as it is. So methods with the same names whose types
are read alike are passed on by the same text, whatever is done to the class in between. -/
theorem spelled_alike_ever_after :
    (∀ (scope : Scope) (type : TypeTree) (registry : Registry) (uses : List Use),
      let later := uses.foldl Use.run (render scope type registry).2
      render scope type later = ((render scope type registry).1, later)) ∧
    ∀ (first second : MethodDecl) (draft middle : ClassDraft) (text : String)
      (operations : List Operation), draft.package ≠ none →
      profile first = profile second → Agree first second →
      definition first draft = .ok text middle →
      let later := performAll operations middle
      definition second later = if later.ended then .error (.alreadyWritten later.className) later
        else .ok text later := by
  constructor
  · intro scope type registry uses later
    exact render_again type registry later (reaches_uses uses _)
  · intro first second draft middle text operations packaged same agree ran later
    obtain ⟨begins, again⟩ := definition_repeats first draft text middle ran
    have continues : Continues middle later :=
      performAll_continues (by rw [begins.packaged]; exact packaged) operations
    cases ended : later.ended with
    | true => exact definition_of_ended ended second
    | false =>
      rw [← definition_eq same agree]
      exact again later continues ended

/-- Blanks in a type make no difference, nor does an import that is asked for in between. -/
theorem spaced_type_spelled_alike :
    let close : MethodDecl := { name := "get", returns := ⟨"java.util.List<K>"⟩ }
    let spaced : MethodDecl := { name := "get", returns := ⟨" java.util.List < K > "⟩ }
    let draft := performAll [.startPackage "org"] (.new "Box" (some .fresh) defaultAvailable)
    ∃ text middle, definition close draft = .ok text middle ∧
      let later := performAll [.registerImport "java.awt.List"] middle
      later.ended = false ∧ definition spaced later = .ok text later := by
  intro close spaced draft
  have letter : TypeTree.Derives (['K'] ++ []) (.plain ['K'] 0) :=
    .plain (TypeTree.isTypeName_iff.1 (by decide +kernel)) (by decide +kernel) .none
  have list {gap content : List Char} (blanks : Text.Blanks gap)
      (argument : TypeTree.DerivesPadded content (.plain ['K'] 0)) :
      TypeTree.DerivesPadded
        (gap ++ ("java.util.List".toList ++ gap ++ '<' :: (content ++ ['>']) ++ []) ++ gap)
        (.generic "java.util.List".toList [.plain ['K'] 0] 0) :=
    .padded blanks (.generic (TypeTree.isTypeName_iff.1 (by decide +kernel)) (by decide +kernel)
      blanks (.one argument) .none) blanks
  have tight : TypeTree.parse "java.util.List<K>" = _ := TypeTree.parse_of_derives
    (list Text.blanks_nil (.padded Text.blanks_nil letter Text.blanks_nil))
  have loose : TypeTree.parse " java.util.List < K > " = _ := TypeTree.parse_of_derives
    (list Text.blanks_space (.padded Text.blanks_space letter Text.blanks_space))
  have fine : value? (definition close draft) =
        some "  public List<K> get() \x7b\n    return entity.get();\n  \x7d" ∧
      (performAll [.registerImport "java.awt.List"] (left (definition close draft))).ended =
        false := by
    decide +kernel
  have ran := eq_ok_of_value? fine.1
  have again := spelled_alike_ever_after.2 close spaced draft _ _
    [.registerImport "java.awt.List"] (by decide) rfl ⟨rfl, tight.trans loose.symm, rfl⟩ ran
  dsimp only at again
  rw [if_neg (by rw [fine.2]; decide)] at again
  exact ⟨_, _, ran, fine.2, again⟩

end Delegate

end DelegateClasses
