import DelegateClasses.Proofs.Imports.History
import DelegateClasses.Proofs.Text.Ascending

/-! Registries with the same claims, made in another order. They answer every call alike and
spell every type alike, and go on having the same claims. Main statements: their import lines
are the same, and names that are to be imported may be so in any order, if no two of them want
the same simple name and none finds it taken. -/
namespace DelegateClasses.Imports

namespace Registry

/-- The same simple names are owned by the same names, and the same names are imported. -/
structure SameClaims (first second : Registry) : Prop where
  owners : ∀ simple, first.owner? simple = second.owner? simple
  imported : ∀ name, name ∈ first.imported ↔ name ∈ second.imported
  distinct : (first.names.map DottedName.simple).Nodup
  distinctToo : (second.names.map DottedName.simple).Nodup

variable {registry first second third : Registry} {name : String} {names others : List String}

theorem sameClaims_refl (distinct : (registry.names.map DottedName.simple).Nodup) :
    registry.SameClaims registry :=
  ⟨fun _ => rfl, fun _ => Iff.rfl, distinct, distinct⟩

theorem sameClaims_symm (same : first.SameClaims second) : second.SameClaims first :=
  ⟨fun simple => (same.owners simple).symm, fun name => (same.imported name).symm,
    same.distinctToo, same.distinct⟩

theorem sameClaims_trans (same : first.SameClaims second) (more : second.SameClaims third) :
    first.SameClaims third :=
  ⟨fun simple => (same.owners simple).trans (more.owners simple),
    fun name => (same.imported name).trans (more.imported name), same.distinct, more.distinctToo⟩

/-- The import lines only tell which names are imported. -/
theorem lines_eq (same : ∀ name, name ∈ first.imported ↔ name ∈ second.imported)
    (distinct : (first.names.map DottedName.simple).Nodup)
    (distinctToo : (second.names.map DottedName.simple).Nodup) : first.lines = second.lines := by
  have names : first.toList = second.toList := by
    refine Text.eq_of_ascending (toList_ascending distinct) (toList_ascending distinctToo) ?_
    exact fun name => by rw [mem_toList, mem_toList, same]
  rw [lines, lines, names]

/-- Every claim is answered alike. -/
theorem sameClaims_claim (same : first.SameClaims second) (name : String) (imported : Bool) :
    (first.claim name imported).1 = (second.claim name imported).1 ∧
      (first.claim name imported).2.SameClaims (second.claim name imported).2 := by
  have owners (simple : String) : (first.claim name imported).2.owner? simple =
      (second.claim name imported).2.owner? simple := by
    rw [owner?_claim, owner?_claim, same.owners]
  have answer : (first.claim name imported).1 = (second.claim name imported).1 := by
    rw [Bool.eq_iff_iff, claim_granted, claim_granted, owners]
  refine ⟨answer, owners, fun other => ?_, distinct_claim imported same.distinct,
    distinct_claim imported same.distinctToo⟩
  rw [mem_imported_claim, mem_imported_claim, same.imported, answer]

/-! ## Names that are imported in another order -/

/-- The registry after several names were to be imported, one after the other. -/
def registerAll (names : List String) (registry : Registry) : Registry :=
  names.foldl (fun registry name => (registry.register name).2) registry

theorem registerAll_append (front rear : List String) (registry : Registry) :
    registerAll (front ++ rear) registry = registerAll rear (registerAll front registry) :=
  List.foldl_append

private theorem owner?_registerAll (names : List String) (registry : Registry) (simple : String) :
    (registerAll names registry).owner? simple =
      (registry.owner? simple).or (firstNamed names simple) := by
  induction names generalizing registry with
  | nil => exact Option.or_none.symm
  | cons name names ih =>
    change (registerAll names (registry.register name).2).owner? simple = _
    rw [ih, register, owner?_claim, Option.or_assoc, ← firstNamed_append]
    rfl

private theorem distinct_registerAll (distinct : (registry.names.map DottedName.simple).Nodup) :
    ((registerAll names registry).names.map DottedName.simple).Nodup := by
  induction names generalizing registry with
  | nil => exact distinct
  | cons name names ih => exact ih (distinct_claim true distinct)

/-- Names that want different simple names, none of which is taken, are all imported. -/
theorem mem_imported_registerAll (apart : (names.map DottedName.simple).Nodup)
    (free : ∀ name ∈ names, registry.owner? (DottedName.simple name) = none) {other : String} :
    other ∈ (registerAll names registry).imported ↔ other ∈ registry.imported ∨ other ∈ names := by
  induction names generalizing registry with
  | nil => simp [registerAll]
  | cons name names ih =>
    obtain ⟨alone, apart⟩ := List.nodup_cons.1 apart
    obtain ⟨untaken, free⟩ := List.forall_mem_cons.1 free
    have granted : (registry.claim name true).1 = true := by
      rw [claim_granted, owner?_claim, untaken, Option.none_or, firstNamed_self]
    have still : ∀ later ∈ names,
        (registry.register name).2.owner? (DottedName.simple later) = none := by
      intro later member
      have different : DottedName.simple name ≠ DottedName.simple later := by
        intro same
        exact alone (same ▸ List.mem_map_of_mem member)
      rw [register, owner?_claim, free later member, firstNamed_singleton_ne different]
      rfl
    change other ∈ (registerAll names (registry.register name).2).imported ↔ _
    rw [ih apart still, register, mem_imported_claim, granted, List.mem_cons]
    simp only [and_true, true_and, or_assoc]

theorem firstNamed_eq_some_iff (apart : (names.map DottedName.simple).Nodup) {simple : String} :
    firstNamed names simple = some name ↔ name ∈ names ∧ DottedName.simple name = simple := by
  constructor
  · intro found
    exact ⟨firstNamed_mem found, by simpa using List.find?_some found⟩
  · rintro ⟨member, rfl⟩
    exact firstNamed_of_distinct apart member

/-- The order of the names makes no difference. -/
theorem sameClaims_registerAll (distinct : (registry.names.map DottedName.simple).Nodup)
    (perm : names.Perm others) (apart : (names.map DottedName.simple).Nodup)
    (free : ∀ name ∈ names, registry.owner? (DottedName.simple name) = none) :
    (registerAll names registry).SameClaims (registerAll others registry) := by
  have apartToo : (others.map DottedName.simple).Nodup := (perm.map _).nodup_iff.1 apart
  have freeToo : ∀ name ∈ others, registry.owner? (DottedName.simple name) = none :=
    fun name member => free name (perm.mem_iff.2 member)
  refine ⟨fun simple => ?_, fun name => ?_, distinct_registerAll distinct,
    distinct_registerAll distinct⟩
  · have same : firstNamed names simple = firstNamed others simple := by
      ext name
      rw [firstNamed_eq_some_iff apart, firstNamed_eq_some_iff apartToo, perm.mem_iff]
    rw [owner?_registerAll, owner?_registerAll, same]
  · rw [mem_imported_registerAll apart free, mem_imported_registerAll apartToo freeToo,
      perm.mem_iff]

end Registry

open Registry

variable {scope : Scope} {first second : Registry}

/-! ## Types -/

private theorem sameClaims_spell (same : first.SameClaims second) (name : String)
    (qualified : Option String) :
    (scope.spell name qualified first).1 = (scope.spell name qualified second).1 ∧
      (scope.spell name qualified first).2.SameClaims (scope.spell name qualified second).2 := by
  cases qualified with
  | none => exact ⟨rfl, same⟩
  | some full =>
    simp only [Scope.spell, Scope.use_eq]
    obtain ⟨answer, still⟩ := sameClaims_claim same full (scope.requires full)
    exact ⟨by rw [answer], still⟩

mutual

/-- A type is spelled alike. -/
theorem sameClaims_render : ∀ (tree : TypeTree) (first second : Registry),
    first.SameClaims second →
      (render scope tree first).1 = (render scope tree second).1 ∧
        (render scope tree first).2.SameClaims (render scope tree second).2
  | ⟨name, qualified, arguments, dimensions, kind, bound⟩, first, second, same => by
    obtain ⟨own, node⟩ := sameClaims_spell same name qualified
    obtain ⟨others, after⟩ := sameClaims_renderAll arguments _ _ node
    cases bound with
    | none =>
      simp only [render]
      split
      · exact ⟨rfl, same⟩
      · exact ⟨by rw [own, others], after⟩
    | some type =>
      simp only [render]
      split
      · obtain ⟨inner, after⟩ := sameClaims_render type first second same
        exact ⟨by rw [inner], after⟩
      · exact ⟨by rw [own, others], after⟩

private theorem sameClaims_renderAll : ∀ (trees : List TypeTree) (first second : Registry),
    first.SameClaims second →
      (renderAll scope trees first).1 = (renderAll scope trees second).1 ∧
        (renderAll scope trees first).2.SameClaims (renderAll scope trees second).2
  | [], _, _, same => ⟨rfl, same⟩
  | tree :: trees, first, second, same => by
    obtain ⟨own, after⟩ := sameClaims_render tree first second same
    obtain ⟨others, still⟩ := sameClaims_renderAll trees _ _ after
    exact ⟨by simp only [renderAll, own, others], still⟩

end

end DelegateClasses.Imports
