import DelegateClasses.Proofs.Imports.Ownership
import Mathlib.Data.List.Induction

/-! What a registry holds, told by the calls that it received. The owner of a
simple name is the first name of the history that has it, whether it was to be
imported or not. Main statement: imported are the owners that were to be imported
at some time, and every call is answered by who the owner is. -/
namespace DelegateClasses.Imports

/-- A call that a registry receives. -/
inductive Call where
  /-- A name is to be imported. -/
  | register (name : String)
  /-- A name is used without an import. -/
  | bind (name : String)

namespace Call

/-- The name that the call is about. -/
def name : Call → String
  | register name => name
  | bind name => name

/-- The answer to the call, and the registry after it. -/
def run (registry : Registry) : Call → Bool × Registry
  | register name => registry.register name
  | bind name => registry.bind name

/-- Whether the call asks for an import. -/
def imports : Call → Bool
  | register _ => true
  | bind _ => false

theorem run_eq (call : Call) (registry : Registry) :
    call.run registry = registry.claim call.name call.imports := by
  cases call <;> rfl

theorem eq_register_iff {call : Call} {name : String} :
    call = .register name ↔ call.imports = true ∧ name = call.name := by
  cases call with
  | register other => simp [imports, Call.name, eq_comm]
  | bind other => simp [imports]

end Call

/-- The names of a history, in the order of the calls. -/
def namesOf (history : List Call) : List String :=
  history.map Call.name

/-- What a registry holds, as the history of its calls tells it. -/
structure FollowsHistory (history : List Call) (registry : Registry) : Prop where
  /-- A simple name stands for the first name of the history that has it. -/
  owners : ∀ simple, registry.owner? simple = firstNamed (namesOf history) simple
  ascending : registry.toList.Pairwise (· < ·)
  /-- Imported are the owners that were to be imported at some time. -/
  exact : ∀ name, name ∈ registry.toList ↔ .register name ∈ history ∧
    firstNamed (namesOf history) (DottedName.simple name) = some name
  size : registry.size = registry.toList.length
  contains : ∀ name, registry.contains name = true ↔ name ∈ registry.toList
  distinct : (registry.toList.map DottedName.simple).Nodup
  /-- No name that is used without an import has the simple name of an import. -/
  undisputed : ∀ name ∈ registry.toList, ∀ other ∈ registry.names,
    DottedName.simple other = DottedName.simple name → other = name

namespace Registry

/-- The registry of a new file after the calls of a history. -/
def ofHistory (history : List Call) : Registry :=
  history.foldl (fun registry call => (call.run registry).2) .empty

variable {registry : Registry} {history : List Call} {name simple : String}

theorem ofHistory_append (history : List Call) (call : Call) :
    ofHistory (history ++ [call]) = (call.run (ofHistory history)).2 := by
  rw [ofHistory, List.foldl_append]
  rfl

theorem namesOf_append (history : List Call) (call : Call) :
    namesOf (history ++ [call]) = namesOf history ++ [call.name] :=
  List.map_append

/-! ## One call -/

/-- A claim that is refused changes nothing. -/
theorem claim_refused {imported : Bool} (refused : (registry.claim name imported).1 = false) :
    (registry.claim name imported).2 = registry := by
  cases owned : registry.owner? (DottedName.simple name) with
  | none => simp [claim, owned] at refused
  | some owner =>
    simp only [claim, owned] at refused ⊢
    split at refused
    · cases refused
    · next other => rw [if_neg other]

private theorem mem_imported_markImported {other : String} :
    other ∈ (registry.markImported name).imported ↔
      other ∈ registry.imported ∨ other = name ∧ name ∈ registry.names := by
  simp only [imported, markImported, names, List.filter_map, List.map_map, List.mem_map,
    List.mem_filter, Function.comp_apply]
  constructor
  · rintro ⟨claim, ⟨member, flagged⟩, rfl⟩
    by_cases same : claim.name = name
    · simp only [same, ↓reduceIte]
      exact .inr ⟨trivial, claim, member, same⟩
    · simp only [same, ↓reduceIte] at flagged ⊢
      exact .inl ⟨claim, ⟨member, flagged⟩, rfl⟩
  · rintro (⟨claim, ⟨member, flagged⟩, rfl⟩ | ⟨rfl, claim, member, same⟩)
    · refine ⟨claim, ⟨member, ?_⟩, ?_⟩
      · split <;> simp [flagged]
      · split <;> rfl
    · exact ⟨claim, ⟨member, by simp [same]⟩, by simp [same]⟩

/-- A claim imports its name if it asks for that and is granted, and no other name. -/
theorem mem_imported_claim {imported : Bool} {other : String} :
    other ∈ (registry.claim name imported).2.imported ↔
      other ∈ registry.imported ∨
        (imported = true ∧ other = name) ∧ (registry.claim name imported).1 = true := by
  cases owned : registry.owner? (DottedName.simple name) with
  | none => cases imported <;> simp [claim, owned, Registry.imported]
  | some owner =>
    simp only [claim, owned]
    split
    · next same =>
      subst same
      have member : owner ∈ registry.names := by
        rw [owner?_eq] at owned
        exact firstNamed_mem owned
      cases imported with
      | false => simp
      | true => simp [mem_imported_markImported, member]
    · simp

/-! ## The whole history -/

private theorem owner?_ofHistory (history : List Call) (simple : String) :
    (ofHistory history).owner? simple = firstNamed (namesOf history) simple := by
  induction history using List.reverseRecOn with
  | nil => rfl
  | append_singleton history call ih =>
    rw [ofHistory_append, Call.run_eq, owner?_claim, ih, namesOf_append, firstNamed_append]

/-- A call is granted when its name is the first of the history, the call
included, that has its simple name. -/
theorem run_granted (history : List Call) (call : Call) :
    (call.run (ofHistory history)).1 = true ↔
      firstNamed (namesOf (history ++ [call])) (DottedName.simple call.name) = some call.name := by
  rw [← owner?_ofHistory, ofHistory_append, Call.run_eq]
  exact claim_granted _ _ _

private theorem distinct_ofHistory (history : List Call) :
    ((ofHistory history).names.map DottedName.simple).Nodup := by
  induction history using List.reverseRecOn with
  | nil => exact .nil
  | append_singleton history call ih =>
    rw [ofHistory_append, Call.run_eq]
    exact distinct_claim _ ih

/-- Imported are the names that were to be imported and own their simple names. -/
theorem mem_imported_ofHistory (history : List Call) (name : String) :
    name ∈ (ofHistory history).imported ↔
      .register name ∈ history ∧
        firstNamed (namesOf history) (DottedName.simple name) = some name := by
  induction history using List.reverseRecOn with
  | nil => simp [ofHistory, imported, empty]
  | append_singleton history call ih =>
    have granted := run_granted history call
    rw [Call.run_eq] at granted
    rw [ofHistory_append, Call.run_eq, mem_imported_claim, ih, ← Call.eq_register_iff, granted]
    constructor
    · rintro (⟨member, first⟩ | ⟨rfl, first⟩)
      · refine ⟨List.mem_append_left _ member, ?_⟩
        rw [namesOf_append, firstNamed_append, first, Option.some_or]
      · exact ⟨List.mem_append_right _ List.mem_cons_self, first⟩
    · rintro ⟨member, first⟩
      rcases List.mem_append.1 member with earlier | last
      · -- Its simple name has an owner already, so the call made no difference.
        have named : name ∈ namesOf history := List.mem_map.2 ⟨_, earlier, rfl⟩
        obtain ⟨owner, owned⟩ := Option.isSome_iff_exists.1 (firstNamed_isSome_of_mem named)
        rw [namesOf_append, firstNamed_append, owned, Option.some_or] at first
        exact .inl ⟨earlier, owned.trans first⟩
      · obtain rfl := List.mem_singleton.1 last
        exact .inr ⟨rfl, first⟩

/-- A name that owns its simple name goes on doing so. -/
theorem owner?_lasting (history later : List Call)
    (owned : (ofHistory history).owner? simple = some name) :
    (ofHistory (history ++ later)).owner? simple = some name := by
  rw [owner?_ofHistory] at owned ⊢
  rw [namesOf, List.map_append, firstNamed_append, ← namesOf, owned, Option.some_or]

/-- A claimed name owns its simple name, so no other claimed name has it. -/
theorem eq_of_claimed {other : String} (member : name ∈ (ofHistory history).names)
    (claimed : other ∈ (ofHistory history).names)
    (same : DottedName.simple other = DottedName.simple name) : other = name := by
  have first := firstNamed_of_distinct (distinct_ofHistory history) member
  have second := firstNamed_of_distinct (distinct_ofHistory history) claimed
  rw [same, first] at second
  exact (Option.some.inj second).symm

private theorem claimed_of_mem_toList (member : name ∈ registry.toList) :
    name ∈ registry.names := by
  obtain ⟨claim, among, rfl⟩ := List.mem_map.1 (mem_toList.1 member)
  exact List.mem_map_of_mem (List.mem_filter.1 among).1

/-- The registry of a file holds what its history tells, after every call: the
first name with a simple name owns it for good, and imported are the owners that
were to be imported. A call is granted exactly when its name is the owner by then,
and one that is refused changes nothing. -/
theorem registry_determined_by_history (history : List Call) :
    FollowsHistory history (ofHistory history) ∧
    (∀ call : Call,
      ((call.run (ofHistory history)).1 = true ↔
        firstNamed (namesOf (history ++ [call])) (DottedName.simple call.name) = some call.name) ∧
      ((call.run (ofHistory history)).1 = false →
        (call.run (ofHistory history)).2 = ofHistory history) ∧
      (call.run (ofHistory history)).2 = ofHistory (history ++ [call])) ∧
    ∀ later simple owner, (ofHistory history).owner? simple = some owner →
      (ofHistory (history ++ later)).owner? simple = some owner := by
  refine ⟨?follows, fun call => ⟨run_granted history call, fun refused => ?unchanged,
    (ofHistory_append history call).symm⟩, fun later simple owner => owner?_lasting history later⟩
  case follows =>
    have ascending := toList_ascending (distinct_ofHistory history)
    refine ⟨owner?_ofHistory history, ascending,
      fun name => mem_toList.trans (mem_imported_ofHistory history name),
      (List.mergeSort_perm _ _).length_eq.symm,
      fun name => by rw [contains, List.contains_iff_mem, mem_toList], ?distinct, ?undisputed⟩
    case distinct =>
      rw [List.Nodup, List.pairwise_map]
      refine ascending.imp_of_mem ?_
      intro first second member other below same
      have both := eq_of_claimed (claimed_of_mem_toList other) (claimed_of_mem_toList member) same
      exact String.lt_irrefl _ (both ▸ below)
    case undisputed =>
      intro name member other claimed same
      exact eq_of_claimed (claimed_of_mem_toList member) claimed same
  case unchanged =>
    rw [Call.run_eq] at refused ⊢
    exact claim_refused refused

/-- The list that was used first is the one that can be imported. -/
example : (ofHistory [.bind "a.List", .register "b.List", .register "a.List"]).imported =
    ["a.List"] := by
  decide +kernel

end Registry

end DelegateClasses.Imports
