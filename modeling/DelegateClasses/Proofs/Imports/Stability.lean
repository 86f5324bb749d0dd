import DelegateClasses.Proofs.Imports.History

/-! Types that are spelled again. A registry that decided a claim once decides it in the
same way ever after, and is not changed by it any more. Main statement: a type that was
spelled is spelled in the same way after any further uses, and leaves the registry as it is. -/
namespace DelegateClasses.Imports

namespace Registry

variable {registry middle later : Registry} {name : String} {imported : Bool}

/-! ## Registries that follow from others -/

/-- The later registry follows from the earlier one by calls. -/
def Reaches (registry later : Registry) : Prop :=
  ∃ calls : List Call, later = calls.foldl (fun registry call => (call.run registry).2) registry

theorem reaches_refl (registry : Registry) : registry.Reaches registry :=
  ⟨[], rfl⟩

theorem reaches_trans (first : registry.Reaches middle) (second : middle.Reaches later) :
    registry.Reaches later := by
  obtain ⟨front, rfl⟩ := first
  obtain ⟨rear, rfl⟩ := second
  exact ⟨front ++ rear, List.foldl_append.symm⟩

theorem reaches_run (call : Call) (registry : Registry) :
    registry.Reaches (call.run registry).2 :=
  ⟨[call], rfl⟩

/-- What every call keeps is kept as long as a registry is used. -/
theorem reaches_keeps (holds : Registry → Prop) (reached : registry.Reaches later)
    (each : ∀ (call : Call) (registry : Registry), holds registry → holds (call.run registry).2)
    (held : holds registry) : holds later := by
  obtain ⟨calls, rfl⟩ := reached
  induction calls generalizing registry with
  | nil => exact held
  | cons call calls ih => exact ih (each call registry held)

/-! ## Claims that were decided -/

/-- A claim was made before: its simple name is owned, and if the name owns it itself, it is
marked as imported where that was asked for. -/
structure Decided (name : String) (imported : Bool) (registry : Registry) : Prop where
  owned : registry.owner? (DottedName.simple name) ≠ none
  marked : registry.owner? (DottedName.simple name) = some name → imported = true →
    ∀ claim ∈ registry.claims, claim.name = name → claim.imported = true

private theorem markImported_of_marked
    (marked : ∀ claim ∈ registry.claims, claim.name = name → claim.imported = true) :
    registry.markImported name = registry := by
  have each : ∀ claim ∈ registry.claims,
      (if claim.name = name then { claim with imported := true } else claim) = claim := by
    intro claim member
    split
    · next same => rw [← marked claim member same]
    · rfl
  rw [markImported, List.map_congr_left each, List.map_id']

/-- A claim that was decided is decided again by who the owner is, and changes nothing. -/
theorem claim_of_decided (decided : registry.Decided name imported) :
    registry.claim name imported =
      (registry.owner? (DottedName.simple name) == some name, registry) := by
  obtain ⟨owner, found⟩ := Option.ne_none_iff_exists'.1 decided.owned
  simp only [claim, found]
  by_cases same : owner = name
  · subst same
    have unchanged : (if imported = true then registry.markImported owner else registry) =
        registry := by
      split
      · next asked => exact markImported_of_marked (decided.marked found asked)
      · rfl
    simp [unchanged]
  · simp [same]

private theorem mem_markImported {claim : Claim}
    (member : claim ∈ (registry.markImported name).claims) :
    ∃ earlier ∈ registry.claims, claim.name = earlier.name ∧
      (earlier.imported = true ∨ earlier.name = name → claim.imported = true) := by
  obtain ⟨earlier, among, rfl⟩ := List.mem_map.1 member
  refine ⟨earlier, among, ?_⟩
  split
  · exact ⟨rfl, fun _ => rfl⟩
  · next apart => exact ⟨rfl, fun flagged => flagged.resolve_right apart⟩

/-- The claims after a claim: those before it, perhaps marked, and perhaps a new one. -/
theorem mem_claim {claim : Claim} {asked : Bool}
    (member : claim ∈ (registry.claim name asked).2.claims) :
    (∃ earlier ∈ registry.claims, claim.name = earlier.name ∧
      (earlier.imported = true → claim.imported = true) ∧
      (asked = true → registry.owner? (DottedName.simple name) = some name →
        claim.name = name → claim.imported = true)) ∨
    (registry.owner? (DottedName.simple name) = none ∧ claim = ⟨name, asked⟩) := by
  cases owned : registry.owner? (DottedName.simple name) with
  | none =>
    simp only [Registry.claim, owned, List.mem_append, List.mem_singleton] at member
    rcases member with earlier | rfl
    · exact .inl ⟨claim, earlier, rfl, id, fun _ none => (by cases none)⟩
    · exact .inr ⟨rfl, rfl⟩
  | some owner =>
    simp only [Registry.claim, owned] at member
    refine .inl ?_
    split at member
    · next same =>
      split at member
      · obtain ⟨earlier, among, named, flagged⟩ := mem_markImported member
        exact ⟨earlier, among, named, fun before => flagged (.inl before),
          fun _ _ here => flagged (.inr (named.symm.trans here))⟩
      · next unasked => exact ⟨claim, member, rfl, id, fun asked => absurd asked unasked⟩
    · next apart =>
      exact ⟨claim, member, rfl, id, fun _ found => absurd (Option.some.inj found) apart⟩

/-- A claim decides itself. -/
theorem decided_claim (registry : Registry) (name : String) (imported : Bool) :
    (registry.claim name imported).2.Decided name imported := by
  constructor
  case owned =>
    rw [owner?_claim, firstNamed_self]
    simp
  case marked =>
    intro owned asked claim member named
    rw [owner?_claim, firstNamed_self] at owned
    rcases mem_claim member with ⟨earlier, among, same, -, granted⟩ | ⟨-, rfl⟩
    · refine granted asked ?_ named
      cases free : registry.owner? (DottedName.simple name) with
      | none =>
        rw [owner?_eq] at free
        have among : name ∈ registry.names :=
          List.mem_map.2 ⟨earlier, among, same.symm.trans named⟩
        exact absurd (List.mem_map_of_mem among) (firstNamed_eq_none free)
      | some owner =>
        rw [free, Option.some_or] at owned
        exact owned
    · exact asked

/-- A decided claim stays decided, and the owner of its simple name stays the same. -/
theorem decided_run (call : Call) (decided : registry.Decided name imported) :
    (call.run registry).2.Decided name imported ∧
      (call.run registry).2.owner? (DottedName.simple name) =
        registry.owner? (DottedName.simple name) := by
  obtain ⟨owner, found⟩ := Option.ne_none_iff_exists'.1 decided.owned
  have same : (call.run registry).2.owner? (DottedName.simple name) =
      registry.owner? (DottedName.simple name) := by
    rw [Call.run_eq, owner?_claim, found, Option.some_or]
  refine ⟨⟨by rw [same]; exact decided.owned, ?_⟩, same⟩
  rw [same]
  intro owned asked claim member named
  rw [Call.run_eq] at member
  rcases mem_claim member with ⟨earlier, among, kept, flagged, -⟩ | ⟨free, rfl⟩
  · exact flagged (decided.marked owned asked earlier among (kept.symm.trans named))
  · -- The new claim has a simple name of its own, so it is not that of the decided one.
    change call.name = name at named
    rw [named, found] at free
    cases free

private theorem decided_reaches (reached : registry.Reaches later)
    (decided : registry.Decided name imported) :
    later.Decided name imported ∧ later.owner? (DottedName.simple name) =
      registry.owner? (DottedName.simple name) :=
  reaches_keeps (fun now => now.Decided name imported ∧
      now.owner? (DottedName.simple name) = registry.owner? (DottedName.simple name)) reached
    (fun call _ held => ⟨(decided_run call held.1).1, (decided_run call held.1).2.trans held.2⟩)
    ⟨decided, rfl⟩

end Registry

open Registry

variable {scope : Scope} {registry later : Registry}

/-! ## One node -/

private theorem reaches_use (scope : Scope) (name : String) (registry : Registry) :
    registry.Reaches (scope.use name registry).2 := by
  rw [Scope.use]
  split
  · exact reaches_run (.register name) registry
  · exact reaches_run (.bind name) registry

/-- A name that was used is used again with the same answer, and without a change. -/
theorem use_again (name : String) (reached : (scope.use name registry).2.Reaches later) :
    scope.use name later = ((scope.use name registry).1, later) := by
  have answer := scope.use_granted name registry
  rw [Scope.use_eq] at reached answer ⊢
  obtain ⟨still, same⟩ :=
    decided_reaches reached (decided_claim registry name (scope.requires name))
  rw [Scope.use_eq, claim_of_decided still, same]
  congr 1
  rw [Bool.eq_iff_iff, answer, beq_iff_eq]

private theorem reaches_spell (scope : Scope) (name : String) (qualified : Option String)
    (registry : Registry) : registry.Reaches (scope.spell name qualified registry).2 := by
  cases qualified with
  | none => exact reaches_refl registry
  | some full => exact reaches_use scope full registry

private theorem spell_again (name : String) (qualified : Option String)
    (reached : (scope.spell name qualified registry).2.Reaches later) :
    scope.spell name qualified later = ((scope.spell name qualified registry).1, later) := by
  cases qualified with
  | none => rfl
  | some full =>
    simp only [Scope.spell] at reached ⊢
    rw [use_again full reached]

/-! ## Whole types -/

mutual

/-- Spelling a type makes nothing but calls. -/
theorem reaches_render : ∀ (tree : TypeTree) (registry : Registry),
    registry.Reaches (render scope tree registry).2
  | ⟨name, qualified, arguments, dimensions, kind, bound⟩, registry => by
    have node := reaches_trans (reaches_spell scope name qualified registry)
      (reaches_renderAll arguments (scope.spell name qualified registry).2)
    cases bound with
    | none =>
      simp only [render]
      split
      · exact reaches_refl registry
      · exact node
    | some type =>
      simp only [render]
      split
      · exact reaches_render type registry
      · exact node

private theorem reaches_renderAll : ∀ (trees : List TypeTree) (registry : Registry),
    registry.Reaches (renderAll scope trees registry).2
  | [], registry => reaches_refl registry
  | tree :: trees, registry =>
    reaches_trans (reaches_render tree registry) (reaches_renderAll trees _)

end

mutual

/-- A type that was spelled is spelled again in the same way, and without a change. -/
theorem render_again : ∀ (tree : TypeTree) (registry later : Registry),
    (render scope tree registry).2.Reaches later →
      render scope tree later = ((render scope tree registry).1, later)
  | ⟨name, qualified, arguments, dimensions, kind, bound⟩, registry, later, reached => by
    have node (reached : (renderAll scope arguments
        (scope.spell name qualified registry).2).2.Reaches later) :
        scope.spell name qualified later = ((scope.spell name qualified registry).1, later) ∧
        renderAll scope arguments later =
          ((renderAll scope arguments (scope.spell name qualified registry).2).1, later) :=
      ⟨spell_again name qualified (reaches_trans (reaches_renderAll arguments _) reached),
        renderAll_again arguments _ later reached⟩
    cases bound with
    | none =>
      simp only [render] at reached ⊢
      split
      · rfl
      · next ordinary =>
        rw [if_neg ordinary] at reached
        obtain ⟨own, others⟩ := node reached
        rw [own]
        simp only
        rw [others]
    | some type =>
      simp only [render] at reached ⊢
      split
      · next wildcard =>
        rw [if_pos wildcard] at reached
        rw [render_again type registry later reached]
      · next ordinary =>
        rw [if_neg ordinary] at reached
        obtain ⟨own, others⟩ := node reached
        rw [own]
        simp only
        rw [others]

private theorem renderAll_again : ∀ (trees : List TypeTree) (registry later : Registry),
    (renderAll scope trees registry).2.Reaches later →
      renderAll scope trees later = ((renderAll scope trees registry).1, later)
  | [], registry, later, reached => rfl
  | tree :: trees, registry, later, reached => by
    simp only [renderAll] at reached ⊢
    rw [render_again tree registry later (reaches_trans (reaches_renderAll trees _) reached)]
    simp only
    rw [renderAll_again trees _ later reached]

end

/-! ## Uses of a registry -/

/-- A use of a registry: a call, or a type that is spelled from some place. -/
inductive Use where
  | call (call : Call)
  | render (scope : Scope) (type : TypeTree)

/-- The registry after the use. -/
def Use.run (registry : Registry) : Use → Registry
  | .call asked => (asked.run registry).2
  | .render scope type => (Imports.render scope type registry).2

theorem reaches_uses (uses : List Use) (registry : Registry) :
    registry.Reaches (uses.foldl Use.run registry) := by
  induction uses generalizing registry with
  | nil => exact reaches_refl registry
  | cons first uses ih =>
    refine reaches_trans ?_ (ih (Use.run registry first))
    cases first with
    | call asked => exact reaches_run asked registry
    | render scope type => exact reaches_render type registry

end DelegateClasses.Imports
