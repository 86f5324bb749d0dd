import DelegateClasses.Declaration.Index
import DelegateClasses.Processing.Policy

/-! The superclasses whose methods go into a generated class: the superclass,
its superclass and so on, as long as the policy folds them. The chain ends at a
superclass that is not declared, and at one that it met before. -/
namespace DelegateClasses

/-- The declarations of a chain, nearest first, and the superclass at its end
that is not declared, if there is one. -/
structure SuperclassChain where
  declarations : List ClassDecl
  undeclared : Option TypeRef

/-- Fewer elements pass a test that is stricter and refuses one of them. -/
theorem length_filter_lt {α : Type} {loose strict : α → Bool} {values : List α} {value : α}
    (member : value ∈ values) (passes : loose value = true) (fails : strict value = false)
    (stricter : ∀ other, strict other = true → loose other = true) :
    (values.filter strict).length < (values.filter loose).length := by
  have shrink : ∀ others : List α, (others.filter strict).length ≤ (others.filter loose).length := by
    intro others
    induction others with
    | nil => simp
    | cons first rest ih =>
      cases hs : strict first with
      | false => cases hl : loose first <;> simp [hs, hl] <;> omega
      | true => simp [hs, stricter first hs, ih]
  induction values with
  | nil => cases member
  | cons first rest ih =>
    rcases List.mem_cons.1 member with rfl | later
    · have := shrink rest
      simp [passes, fails]
      omega
    · have := ih later
      cases hs : strict first with
      | false => cases hl : loose first <;> simp [hs, hl] <;> omega
      | true =>
        simp [hs, stricter first hs]
        omega

/-- A name with a declaration is among the names of the index. -/
theorem ClassIndex.mem_names_of_get? {index : ClassIndex} {name : String} {declared : ClassDecl}
    (found : index.get? name = some declared) : name ∈ index.names := by
  obtain ⟨entry, located, -⟩ := Option.map_eq_some_iff.1 found
  have same : entry.1 = name := by simpa using List.find?_some located
  exact List.mem_map.2 ⟨entry, List.mem_of_find?_eq_some located, same⟩

set_option linter.unusedVariables false in
/-- The chain that starts with a superclass, given the names met so far. One
policy decides for all of the chain. -/
def superclassChain (index : ClassIndex) (policy : SuperclassPolicy) (visited : List String)
    (superclass : TypeRef) : SuperclassChain :=
  if superclass.qualifiedName ∈ visited then ⟨[], none⟩
  else match found : index.lookup superclass with
    | none => ⟨[], some superclass⟩
    | some declared =>
      match policy.folded declared.superclass with
      | none => ⟨[declared], none⟩
      | some next =>
        let others := superclassChain index policy (superclass.qualifiedName :: visited) next
        ⟨declared :: others.declarations, others.undeclared⟩
termination_by (index.names.filter fun name => !visited.contains name).length
decreasing_by
  next fresh =>
  refine length_filter_lt (ClassIndex.mem_names_of_get? found) ?_ ?_ ?_
  · simpa using fresh
  · simp
  · intro other outside
    simp at outside ⊢
    exact outside.2

end DelegateClasses
