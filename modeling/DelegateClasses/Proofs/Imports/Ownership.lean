import DelegateClasses.Imports.Render

/-! Who owns a simple name. The first name that is used under a simple name owns
it for good, so the owners after a run of uses can be told from the names alone.
Which of the owners are imported follows from the file's package and what is
available in it. -/
namespace DelegateClasses.Imports

/-- The first of several names that has a simple name. -/
def firstNamed (names : List String) (simple : String) : Option String :=
  names.find? (DottedName.simple · == simple)

/-- The claims made by using several names one after the other. -/
def Scope.useAll (scope : Scope) (names : List String) (registry : Registry) : Registry :=
  names.foldl (fun registry name => (scope.use name registry).2) registry

@[simp] theorem firstNamed_nil : firstNamed [] simple = none := rfl

@[simp] theorem firstNamed_append :
    firstNamed (front ++ rear) simple = (firstNamed front simple).or (firstNamed rear simple) :=
  List.find?_append

theorem firstNamed_cons :
    firstNamed (name :: names) simple =
      if DottedName.simple name = simple then some name else firstNamed names simple := by
  rw [firstNamed, List.find?_cons]
  split
  · next same => rw [if_pos (by simpa using same)]
  · next different => rw [if_neg (by simpa using different), firstNamed]

theorem firstNamed_mem (found : firstNamed names simple = some name) : name ∈ names :=
  List.mem_of_find?_eq_some found

theorem firstNamed_isSome_of_mem (member : name ∈ names) :
    (firstNamed names (DottedName.simple name)).isSome := by
  rw [firstNamed, List.find?_isSome]
  exact ⟨name, member, by simp⟩

/-- A name alone owns its own simple name. -/
theorem firstNamed_self : firstNamed [name] (DottedName.simple name) = some name := by
  simp [firstNamed]

theorem firstNamed_singleton_ne (different : DottedName.simple name ≠ simple) :
    firstNamed [name] simple = none := by
  simp [firstNamed, different]

namespace Registry

/-- The names that have claimed their simple names, oldest first. -/
def names (registry : Registry) : List String :=
  registry.claims.map (·.name)

theorem owner?_eq (registry : Registry) (simple : String) :
    registry.owner? simple = firstNamed registry.names simple := by
  rw [owner?, firstNamed, names, List.find?_map]
  rfl

@[simp] theorem owner?_empty : empty.owner? simple = none := rfl

@[simp] theorem names_markImported : (markImported registry name).names = registry.names := by
  rw [names, names, markImported, List.map_map]
  refine List.map_congr_left fun claim _ => ?_
  simp only [Function.comp_apply]
  split <;> rfl

theorem names_claim (registry : Registry) (name : String) (imported : Bool) :
    (registry.claim name imported).2.names =
      if registry.owner? (DottedName.simple name) = none then registry.names ++ [name]
      else registry.names := by
  cases owned : registry.owner? (DottedName.simple name) with
  | none => simp [claim, owned, names]
  | some owner =>
    simp only [claim, owned]
    split
    · split <;> simp
    · simp

/-- A claim never changes who owns a name that is owned. -/
theorem owner?_claim (registry : Registry) (name : String) (imported : Bool) :
    (registry.claim name imported).2.owner? simple =
      (registry.owner? simple).or (firstNamed [name] simple) := by
  rw [owner?_eq, names_claim]
  by_cases same : DottedName.simple name = simple
  · subst same
    split
    · rw [firstNamed_append, owner?_eq]
    · next owned =>
      obtain ⟨owner, found⟩ := Option.ne_none_iff_exists'.1 owned
      rw [found, Option.some_or, ← owner?_eq, found]
  · rw [firstNamed_singleton_ne same, Option.or_none, owner?_eq registry simple]
    split
    · rw [firstNamed_append, firstNamed_singleton_ne same, Option.or_none]
    · rfl

/-- The answer to a claim tells whether the name owns its simple name from then on. -/
theorem claim_granted (registry : Registry) (name : String) (imported : Bool) :
    (registry.claim name imported).1 = true ↔
      (registry.claim name imported).2.owner? (DottedName.simple name) = some name := by
  rw [owner?_claim]
  cases owned : registry.owner? (DottedName.simple name) with
  | none => simp [claim, owned, firstNamed_self]
  | some owner =>
    simp only [claim, owned, Option.some_or, Option.some.injEq]
    split <;> simp_all

end Registry

theorem Scope.use_eq (scope : Scope) (name : String) (registry : Registry) :
    scope.use name registry = registry.claim name (scope.requires name) := by
  rw [use]
  split
  · next required => rw [required]; rfl
  · next spared => rw [Bool.not_eq_true] at spared; rw [spared]; rfl

theorem Scope.owner?_use (scope : Scope) (name : String) (registry : Registry) :
    (scope.use name registry).2.owner? simple =
      (registry.owner? simple).or (firstNamed [name] simple) := by
  rw [use_eq, Registry.owner?_claim]

theorem Scope.use_granted (scope : Scope) (name : String) (registry : Registry) :
    (scope.use name registry).1 = true ↔
      (scope.use name registry).2.owner? (DottedName.simple name) = some name := by
  rw [use_eq]
  exact Registry.claim_granted registry name _

@[simp] theorem Scope.useAll_nil : Scope.useAll scope [] registry = registry := rfl

@[simp] theorem Scope.useAll_cons :
    Scope.useAll scope (name :: names) registry =
      scope.useAll names (scope.use name registry).2 := rfl

theorem Scope.useAll_append :
    Scope.useAll scope (front ++ rear) registry = scope.useAll rear (scope.useAll front registry) :=
  List.foldl_append

/-- After a run of uses every simple name belongs to its owner before the run,
or else to the first name of the run that has it. -/
theorem Scope.owner?_useAll (scope : Scope) (names : List String) (registry : Registry) :
    (scope.useAll names registry).owner? simple =
      (registry.owner? simple).or (firstNamed names simple) := by
  induction names generalizing registry with
  | nil => simp
  | cons name names ih =>
    rw [useAll_cons, ih, owner?_use, Option.or_assoc, ← firstNamed_append]
    rfl

/-! ## Imported names -/

/-- What holds of the claims of a file: none of two claims have the same simple
name, and imported are exactly those that need an import. -/
structure Settled (scope : Scope) (registry : Registry) : Prop where
  distinct : (registry.names.map DottedName.simple).Nodup
  flags : ∀ claim ∈ registry.claims, claim.imported = scope.requires claim.name

theorem settled_empty : Settled scope .empty where
  distinct := by simp [Registry.names, Registry.empty]
  flags := by simp [Registry.empty]

theorem firstNamed_eq_none (free : firstNamed names simple = none) :
    simple ∉ names.map DottedName.simple := by
  intro member
  obtain ⟨name, among, same⟩ := List.mem_map.1 member
  have found := firstNamed_isSome_of_mem among
  rw [same, free] at found
  cases found

/-- A claim leaves the simple names of all claims different. -/
theorem Registry.distinct_claim {registry : Registry} (imported : Bool)
    (distinct : (registry.names.map DottedName.simple).Nodup) :
    ((registry.claim name imported).2.names.map DottedName.simple).Nodup := by
  rw [names_claim]
  split
  · next free =>
    rw [owner?_eq] at free
    rw [List.map_append, List.nodup_append]
    refine ⟨distinct, by simp, ?_⟩
    rintro simple member other among rfl
    obtain rfl : simple = DottedName.simple name := by simpa using among
    exact firstNamed_eq_none free member
  · exact distinct

private theorem settled_use (settled : Settled scope registry) :
    Settled scope (scope.use name registry).2 := by
  rw [Scope.use_eq]
  refine ⟨Registry.distinct_claim _ settled.distinct, ?_⟩
  intro claim member
  cases owned : registry.owner? (DottedName.simple name) with
  | none =>
    simp only [Registry.claim, owned, List.mem_append, List.mem_singleton] at member
    rcases member with earlier | rfl
    · exact settled.flags claim earlier
    · rfl
  | some owner =>
    simp only [Registry.claim, owned] at member
    split at member
    · split at member
      · next required =>
        obtain ⟨given, among, rfl⟩ := List.mem_map.1 member
        split
        · next same => rw [same, required]
        · exact settled.flags given among
      · exact settled.flags claim member
    · exact settled.flags claim member

theorem settled_useAll (settled : Settled scope registry) :
    Settled scope (scope.useAll names registry) := by
  induction names generalizing registry with
  | nil => exact settled
  | cons name names ih => exact ih (settled_use settled)

/-- Where no two names share a simple name, each owns its own. -/
theorem firstNamed_of_distinct (distinct : (names.map DottedName.simple).Nodup)
    (member : name ∈ names) : firstNamed names (DottedName.simple name) = some name := by
  induction names with
  | nil => cases member
  | cons first names ih =>
    rw [List.map_cons, List.nodup_cons] at distinct
    rcases List.mem_cons.1 member with rfl | later
    · simp [firstNamed]
    · have different : DottedName.simple first ≠ DottedName.simple name := by
        intro same
        exact distinct.1 (same ▸ List.mem_map_of_mem later)
      have found := ih distinct.2 later
      simpa [firstNamed, different] using found

/-- A name is imported when it owns its simple name and needs an import. -/
theorem mem_imported_iff (settled : Settled scope registry) :
    name ∈ registry.imported ↔
      scope.requires name = true ∧ registry.owner? (DottedName.simple name) = some name := by
  constructor
  · intro member
    obtain ⟨claim, among, rfl⟩ := List.mem_map.1 member
    obtain ⟨listed, required⟩ := List.mem_filter.1 among
    rw [settled.flags claim listed] at required
    refine ⟨required, ?_⟩
    rw [Registry.owner?_eq]
    exact firstNamed_of_distinct settled.distinct (List.mem_map_of_mem listed)
  · rintro ⟨required, owned⟩
    rw [Registry.owner?_eq] at owned
    obtain ⟨claim, listed, rfl⟩ := List.mem_map.1 (firstNamed_mem owned)
    rw [← settled.flags claim listed] at required
    exact List.mem_map_of_mem (List.mem_filter.2 ⟨listed, required⟩)

private theorem imported_nodup
    (distinct : (Registry.names registry |>.map DottedName.simple).Nodup) :
    registry.imported.Nodup := by
  have names : registry.names.Nodup :=
    List.Pairwise.of_map DottedName.simple (fun _ _ apart same => apart (congrArg _ same)) distinct
  rw [Registry.names] at names
  exact (List.filter_sublist.map Claim.name).nodup names

theorem mem_toList : name ∈ Registry.toList registry ↔ name ∈ registry.imported := by
  rw [Registry.toList, Text.ascending, List.mem_mergeSort]

/-- The imports of a file ascend strictly. -/
theorem toList_ascending (distinct : (Registry.names registry |>.map DottedName.simple).Nodup) :
    registry.toList.Pairwise (· < ·) :=
  Text.ascending_strict (imported_nodup distinct)

end DelegateClasses.Imports
