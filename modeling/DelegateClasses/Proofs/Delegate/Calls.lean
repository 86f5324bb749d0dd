import DelegateClasses.Delegate.Method
import DelegateClasses.Proofs.Draft.Files
import DelegateClasses.Proofs.TypeTree.Canonical

/-! The call that a delegate makes. It is put together in three ways: from the name of the
field for a getter without parameters, from the name of the field and the parameter for a
setter with one, and from the name of the method and all its parameters otherwise. Main
statement: all three give the call of the method itself with its parameters in order, so
that a delegate is its signature with this one statement. -/
namespace DelegateClasses

/-- The name of a getter or setter is its start and the name of the field. -/
theorem Accessor.ofName?_eq_some {name : String} {accessor : Accessor}
    (found : ofName? name = some accessor) :
    name = (if accessor.setter then "set" else "get") ++ accessor.upperName := by
  have spelled (start : String) {field : List Char}
      (chars : name.toList = start.toList ++ field) : name = start ++ String.ofList field := by
    rw [← String.toList_inj, chars, String.toList_append, String.toList_ofList]
  rw [ofName?] at found
  split at found
  · next field chars =>
    split at found
    · cases found
      exact spelled "get" chars
    · cases found
  · next field chars =>
    split at found
    · cases found
      exact spelled "set" chars
    · cases found
  · cases found

namespace MethodDecl

variable {method : MethodDecl}

/-- The types in a method: what it returns, what it takes and what it throws. -/
def types (method : MethodDecl) : List TypeRef :=
  method.returns :: (method.parameters.map (·.type) ++ method.throws)

/-- A method that is a getter by name has the parts of a getter's name. -/
private theorem accessor_of_getter (getter : method.kind = .getter) :
    ∃ accessor, method.accessor? = some accessor ∧ accessor.setter = false := by
  rw [kind, MethodKind.ofName] at getter
  split at getter
  · cases getter
  · next accessor found =>
    refine ⟨accessor, found, ?_⟩
    cases sets : accessor.setter with
    | false => rfl
    | true => simp [sets] at getter

/-- A method that is a setter by name has the parts of a setter's name. -/
private theorem accessor_of_setter (setter : method.kind = .setter) :
    ∃ accessor, method.accessor? = some accessor ∧ accessor.setter = true := by
  rw [kind, MethodKind.ofName] at setter
  split at setter
  · cases setter
  · next accessor found =>
    refine ⟨accessor, found, ?_⟩
    cases sets : accessor.setter with
    | false => simp [sets] at setter
    | true => rfl

end MethodDecl

namespace Delegate
open ClassDraft Steps

variable {method : MethodDecl} {accessor : Accessor} {object : String}

/-! ## The three ways -/

private theorem getterCall_eq_call (found : method.accessor? = some accessor)
    (getter : accessor.setter = false) :
    Fragment.getterCall object accessor.upperName = Fragment.call object method.name [] := by
  have name : method.name = "get" ++ accessor.upperName := by
    simpa [getter] using Accessor.ofName?_eq_some found
  rw [name, ← String.toList_inj]
  simp [Fragment.getterCall, Fragment.call, Fragment.commaList, Fragment.joinNonEmpty]

private theorem setterCall_eq_call (found : method.accessor? = some accessor)
    (setter : accessor.setter = true) (argument : String) :
    Fragment.setterCall object accessor.upperName argument =
      Fragment.call object method.name [argument] := by
  have name : method.name = "set" ++ accessor.upperName := by
    simpa [setter] using Accessor.ofName?_eq_some found
  rw [name, ← String.toList_inj]
  by_cases nothing : argument = "" <;>
    simp [Fragment.setterCall, Fragment.call, Fragment.commaList, Fragment.joinNonEmpty, nothing]

/-- Whichever way is taken, the call is that of the method with its parameters. -/
theorem delegatedCall_eq_call (method : MethodDecl) :
    delegatedCall method =
      Fragment.call Fragment.wrappedName method.name (method.parameters.map (·.name)) := by
  rw [delegatedCall]
  split
  · next accessor found none =>
    split
    · rfl
    · next getter =>
      rw [none]
      exact getterCall_eq_call found (by simpa using getter)
  · next accessor parameter found single =>
    split
    · next setter =>
      rw [single]
      exact setterCall_eq_call found setter parameter.name
    · rfl
  · rfl

/-- Names that are not empty are all listed. -/
private theorem commaList_of_nonempty {names : List String} (filled : ∀ name ∈ names, name ≠ "") :
    Fragment.commaList names = ", ".intercalate names := by
  rw [Fragment.commaList, Fragment.joinNonEmpty, List.filter_eq_self.2 (by simpa using filled)]

/-- A type is `void` if it is read as such. -/
theorem isVoid_iff (type : TypeRef) :
    type.isVoid = true ↔ type.parse = .ok (TypeTree.primitive "void" 0) := by
  rw [TypeRef.isVoid, TypeRef.parse, TypeTree.parse_primitive_iff (by decide), beq_iff_eq]

/-- The statement starts with `return` unless nothing is returned: the call itself starts
with the name of the wrapped instance. -/
theorem delegation_prefix_iff (method : MethodDecl) :
    "return ".toList <+: (delegation method).toList ↔ method.returns.isVoid = false := by
  have word : "return ".toList = 'r' :: "eturn ".toList := by decide
  rw [delegation, delegatedCall_eq_call, Fragment.call, Fragment.wrappedName]
  cases method.returns.isVoid with
  | true => simp [word]
  | false => simp [String.toList_append, List.append_assoc]

/-- A method is passed on by its signature and one statement. -/
theorem definition_of_signature {draft after : ClassDraft} {signature : String}
    (signed : ClassDraft.signature method.name method.parameters method.returns method.throws
      "public" draft = .ok signature after) :
    definition method draft =
      .ok (signature ++ "\n    " ++ delegation method ++ "\n  \x7d") after := by
  have text : Fragment.block signature [delegation method] Fragment.indent =
      signature ++ "\n    " ++ delegation method ++ "\n  \x7d" := by
    rw [← String.toList_inj]
    simp [Fragment.block, Fragment.indent]
  rw [definition, bind_of_ok signed, text]
  rfl

/-- **What a delegate does.** A method whose types can be read, with parameters that have
names, is passed on by every class that is not finished. The text is the signature of the
method, spelled by the class at that moment, and one statement in its block: the call of the
method on the wrapped instance with the declared names of the parameters, each once and in
their order. It is a `return` statement exactly if the result is read as anything else than
plain `void`. A getter without parameters is taken apart and put together again, and so is
a setter with one; for both the parts are there, and the call is the same. -/
theorem delegate_calls_the_method (method : MethodDecl) (draft : ClassDraft)
    (unfinished : draft.ended = false)
    (readable : ∀ type ∈ method.types, ∃ tree, type.parse = .ok tree)
    (named : ∀ parameter ∈ method.parameters, parameter.name ≠ "") :
    let names := method.parameters.map (·.name)
    let call := "entity." ++ method.name ++ "(" ++ ", ".intercalate names ++ ")"
    ∃ signature statement after,
      ClassDraft.signature method.name method.parameters method.returns method.throws "public"
        draft = .ok signature after ∧
      definition method draft =
        .ok (signature ++ "\n    " ++ statement ++ "\n  \x7d") after ∧
      (statement = call ++ ";" ∨ statement = "return " ++ call ++ ";") ∧
      ("return ".toList <+: statement.toList ↔
        method.returns.parse ≠ .ok (.primitive "void" 0)) ∧
      (method.kind = .getter → method.parameters = [] → ∃ accessor,
        method.accessor? = some accessor ∧
        delegatedCall method = Fragment.getterCall "entity" accessor.upperName ∧
        Fragment.getterCall "entity" accessor.upperName = call) ∧
      (method.kind = .setter → ∀ parameter, method.parameters = [parameter] → ∃ accessor,
        method.accessor? = some accessor ∧
        delegatedCall method = Fragment.setterCall "entity" accessor.upperName parameter.name ∧
        Fragment.setterCall "entity" accessor.upperName parameter.name = call) ∧
      delegatedCall method = Fragment.call "entity" method.name names ∧
      Fragment.call "entity" method.name names = call := by
  intro names call
  have plain : Fragment.call Fragment.wrappedName method.name names = call := by
    rw [Fragment.call, commaList_of_nonempty (by simpa [names] using named)]
    rfl
  have called : delegatedCall method = call := (delegatedCall_eq_call method).trans plain
  obtain ⟨signature, after, signed, -⟩ :=
    signature_succeeds method.name "public" readable draft unfinished
  refine ⟨signature, delegation method, after, signed, definition_of_signature signed, ?_, ?_,
    fun getter none => ?_, fun setter parameter single => ?_, delegatedCall_eq_call method, plain⟩
  · rw [delegation, called]
    cases method.returns.isVoid <;> simp [String.append_assoc]
  · rw [delegation_prefix_iff, ne_eq, ← isVoid_iff, Bool.not_eq_true]
  · obtain ⟨accessor, found, gets⟩ := MethodDecl.accessor_of_getter getter
    have same : Fragment.getterCall "entity" accessor.upperName = call := by
      rw [getterCall_eq_call found gets, ← plain]
      simp [names, none, Fragment.wrappedName]
    exact ⟨accessor, found, called.trans same.symm, same⟩
  · obtain ⟨accessor, found, sets⟩ := MethodDecl.accessor_of_setter setter
    have same : Fragment.setterCall "entity" accessor.upperName parameter.name = call := by
      rw [setterCall_eq_call found sets, ← plain]
      simp [names, single, Fragment.wrappedName]
    exact ⟨accessor, found, called.trans same.symm, same⟩

/-- A setter that takes a list and may throw is passed on by its own call, and returns nothing. -/
theorem setter_delegate_calls_the_setter :
    let method : MethodDecl :=
      { name := "setItems", parameters := [⟨"items", ⟨"java.util.List<org.Item>"⟩⟩],
        throws := [⟨"java.io.IOException"⟩] }
    let draft := ClassDraft.new "BoxWrapper" none Imports.defaultAvailable
    draft.ended = false ∧ (∀ type ∈ method.types, ∃ tree, type.parse = .ok tree) ∧
    (∀ parameter ∈ method.parameters, parameter.name ≠ "") ∧
    method.kind = .setter ∧ delegatedCall method = "entity.setItems(items)" ∧
    ∃ signature statement after, definition method draft =
      .ok (signature ++ "\n    " ++ statement ++ "\n  \x7d") after ∧
      ¬ "return ".toList <+: statement.toList := by
  intro method draft
  have readable : ∀ type ∈ method.types, ∃ tree, type.parse = .ok tree := by
    have each : method.types.all (·.parse.toOption.isSome) = true := by decide +kernel
    intro type member
    have some := List.all_eq_true.1 each type member
    cases read : type.parse with
    | ok tree => exact ⟨tree, rfl⟩
    | error fault => simp [read, Except.toOption] at some
  have named : ∀ parameter ∈ method.parameters, parameter.name ≠ "" := by decide
  obtain ⟨signature, statement, after, -, defined, -, returns, -, -, called, plain⟩ :=
    delegate_calls_the_method method draft rfl readable named
  have void : method.returns.parse = .ok (.primitive "void" 0) :=
    (isVoid_iff method.returns).1 (by decide +kernel)
  exact ⟨rfl, readable, named, by decide, called.trans plain, signature, statement, after,
    defined, fun starts => returns.1 starts void⟩

end Delegate

end DelegateClasses
