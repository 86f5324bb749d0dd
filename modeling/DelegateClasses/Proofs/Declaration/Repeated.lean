import DelegateClasses.Processing.Session
import DelegateClasses.Proofs.Declaration.Index
import DelegateClasses.Proofs.Steps
import Mathlib.Data.List.Dedup

/-! Names that are declared more than once. Classes are entered each before the classes
nested in it, in one go or one after the other. Main statement: the last declaration of a
name is the one that is found, every name counts once, and for each declaration that lost its
place there is one warning. -/
namespace DelegateClasses

namespace ClassIndex

variable {index : ClassIndex} {name : String} {declared : ClassDecl}

/-- The name under which a class is entered. -/
abbrev entered (declared : ClassDecl) : String :=
  declared.type.qualifiedName

/-! ## Names -/

/-- A new name comes last, a known one keeps its position. -/
theorem names_insert : (index.insert name declared).names =
    if name ∈ index.names then index.names else index.names ++ [name] := by
  unfold insert contains
  by_cases known : name ∈ index.names
  · rw [if_pos (List.contains_iff_mem.2 known), if_pos known, names, names, List.map_map]
    refine List.map_congr_left fun entry _ => ?_
    simp only [Function.comp_apply]
    split
    · next same => exact same.symm
    · rfl
  · rw [if_neg (by simpa using known), if_neg known]
    simp [names]

private theorem nodup_insert (nodup : index.names.Nodup) :
    (index.insert name declared).names.Nodup := by
  rw [names_insert]
  split
  · exact nodup
  · next fresh => exact List.nodup_append_comm.1 (List.nodup_cons.2 ⟨fresh, nodup⟩)

private theorem mem_names_insert {other : String} :
    other ∈ (index.insert name declared).names ↔ other ∈ index.names ∨ other = name := by
  rw [names_insert]
  split
  · next known =>
    refine ⟨.inl, fun either => either.elim id fun same => ?_⟩
    rwa [same]
  · simp

/-- The index after some classes, as its names tell. -/
theorem names_foldl_enter (classes : List ClassDecl) (index : ClassIndex) (repeated : List String)
    (nodup : index.names.Nodup) :
    let after := (classes.foldl enter (index, repeated)).1
    after.names.Nodup ∧
      ∀ name, name ∈ after.names ↔ name ∈ index.names ∨ name ∈ classes.map entered := by
  induction classes generalizing index repeated with
  | nil => exact ⟨nodup, by simp⟩
  | cons declared classes ih =>
    obtain ⟨distinct, members⟩ :=
      ih (index.insert (entered declared) declared) _ (nodup_insert nodup)
    refine ⟨distinct, fun name => (members name).trans ?_⟩
    rw [mem_names_insert, List.map_cons, List.mem_cons, or_assoc]

/-- Each class either brings a new name or a warning. -/
theorem count_foldl_enter (classes : List ClassDecl) (index : ClassIndex)
    (repeated : List String) (name : String) :
    let after := classes.foldl enter (index, repeated)
    after.2.count name + (if name ∈ after.1.names then 1 else 0) =
      repeated.count name + (if name ∈ index.names then 1 else 0) +
        (classes.map entered).count name := by
  induction classes generalizing index repeated with
  | nil => rfl
  | cons declared classes ih =>
    refine (ih _ _).trans ?_
    simp only [mem_names_insert, contains, List.contains_iff_mem, List.map_cons, List.count_cons,
      beq_iff_eq]
    by_cases known : entered declared ∈ index.names
    · by_cases same : entered declared = name
      · subst same
        simp [known]
        omega
      · simp [known, same, Ne.symm same]
    · by_cases same : entered declared = name
      · subst same
        simp [known]
        omega
      · simp [known, same, Ne.symm same]

private theorem length_foldl_enter (classes : List ClassDecl) (index : ClassIndex)
    (repeated : List String) :
    let after := classes.foldl enter (index, repeated)
    after.2.length + after.1.names.length =
      repeated.length + index.names.length + classes.length := by
  induction classes generalizing index repeated with
  | nil => rfl
  | cons declared classes ih =>
    refine (ih _ _).trans ?_
    simp only [names_insert, contains, List.contains_iff_mem, List.length_cons]
    split
    · rw [List.length_append, List.length_singleton]
      omega
    · rw [List.length_append, List.length_singleton]
      omega

/-- Whether a name is declared is what looking it up tells. -/
theorem contains_eq_isSome (index : ClassIndex) (name : String) :
    index.contains name = (index.get? name).isSome := by
  rw [Bool.eq_iff_iff, contains, List.contains_iff_mem, get?, Option.isSome_map, List.find?_isSome,
    names, List.mem_map]
  simp

end ClassIndex

namespace Processing
open ClassIndex Steps

variable {σ : Type}

/-- The warning about a name that is declared again. -/
def repeatedEntry (name : String) : LogEntry :=
  ⟨.warning, .model,
    "Class '" ++ name ++ "' is declared more than once, keeping the last declaration."⟩

/-- The warnings are all that is left of the reporting. -/
theorem reportRepeated_logs (names : List String) (session : Session σ) :
    ∃ log, reportRepeated names session =
      .ok ⟨⟩ ⟨session.ledger, { session.world with log }⟩ ∧
      log.entries = session.world.log.entries ++ names.map repeatedEntry := by
  unfold reportRepeated
  induction names generalizing session with
  | nil => exact ⟨session.world.log, rfl, (List.append_nil _).symm⟩
  | cons name names ih =>
    obtain ⟨log, ran, entries⟩ := ih ⟨session.ledger, { session.world with
      log := session.world.log.add (repeatedEntry name) }⟩
    refine ⟨log, ran, ?_⟩
    rw [entries, Log.entries_add, List.map_cons, List.append_assoc]
    rfl

/-- Classes are entered with a warning for each name that is declared again. -/
theorem declare_logs (classes : List ClassDecl) (ledger : Ledger) (world : World σ) :
    ∃ log, declare classes ⟨ledger, world⟩ =
      .ok ⟨⟩ ⟨{ ledger with index := (ledger.index.addAll classes).1 }, { world with log }⟩ ∧
      log.entries =
        world.log.entries ++ (ledger.index.addAll classes).2.map repeatedEntry :=
  reportRepeated_logs _ ⟨{ ledger with index := (ledger.index.addAll classes).1 }, world⟩

/-- Batches of classes are entered like all their classes in one go. -/
theorem declareAll_logs (batches : List (List ClassDecl)) (ledger : Ledger) (world : World σ) :
    ∃ log, batches.forM declare ⟨ledger, world⟩ =
      .ok ⟨⟩ ⟨{ ledger with index := (ledger.index.addAll batches.flatten).1 },
        { world with log }⟩ ∧
      log.entries =
        world.log.entries ++ (ledger.index.addAll batches.flatten).2.map repeatedEntry := by
  induction batches generalizing ledger world with
  | nil => exact ⟨world.log, rfl, (List.append_nil _).symm⟩
  | cons classes batches ih =>
    obtain ⟨middle, ran, first⟩ := declare_logs classes ledger world
    obtain ⟨log, rest, entries⟩ := ih { ledger with index := (ledger.index.addAll classes).1 }
      { world with log := middle }
    have whole : ledger.index.addAll (classes :: batches).flatten =
        (((ledger.index.addAll classes).1.addAll batches.flatten).1,
          (ledger.index.addAll classes).2 ++
            ((ledger.index.addAll classes).1.addAll batches.flatten).2) := by
      rw [List.flatten_cons, addAll_eq, addAll_eq, addAll_eq, List.flatMap_append,
        List.foldl_append, foldl_enter_reports]
    refine ⟨log, ?_, ?_⟩
    · change (declare classes >>= fun _ => batches.forM declare) _ = _
      rw [bind_of_ok ran, rest, whole]
    · rw [entries, first, whole, List.map_append, List.append_assoc]

/-- **The last declaration is found.** However the classes are split into batches, a name gives
the last class that goes by it, each class taken before those nested in it; the names that are
known are those of the classes, each counted once; and each name is warned of once less than it
is declared. -/
theorem last_declaration_is_found (batches : List (List ClassDecl)) (ledger : Ledger)
    (world : World σ) :
    let met := batches.flatten.flatMap withNested
    let names := met.map (·.type.qualifiedName)
    ∃ index repeated log,
      batches.forM declare ⟨{ ledger with index := .empty }, world⟩ =
        .ok ⟨⟩ ⟨{ ledger with index }, { world with log }⟩ ∧
      (index, repeated) = batches.flatten.foldl addNext (.empty, []) ∧
      log.entries = world.log.entries ++ repeated.map repeatedEntry ∧
      (∀ type, index.lookup type =
        (met.filter (·.type.qualifiedName = type.qualifiedName)).getLast?) ∧
      (∀ type, index.contains type.qualifiedName = (index.lookup type).isSome) ∧
      (∀ name, index.contains name = true ↔ name ∈ names) ∧
      index.size = names.dedup.length ∧
      (∀ name, repeated.count name = names.count name - 1) ∧
      repeated.length = met.length - index.size := by
  intro met names
  obtain ⟨log, ran, entries⟩ := declareAll_logs batches { ledger with index := .empty } world
  have inOneGo : empty.addAll batches.flatten = met.foldl enter (.empty, []) := addAll_eq _ _
  obtain ⟨nodup, members⟩ := names_foldl_enter met .empty [] List.nodup_nil
  rw [← inOneGo] at nodup members
  have known (name : String) : name ∈ (empty.addAll batches.flatten).1.names ↔ name ∈ names :=
    (members name).trans (or_iff_right List.not_mem_nil)
  refine ⟨(empty.addAll batches.flatten).1, (empty.addAll batches.flatten).2, log, ran,
    rfl, entries, lookup_addAll _, fun type => contains_eq_isSome _ _,
    fun name => ?_, ?_, fun name => ?_, ?_⟩
  · rw [ClassIndex.contains, List.contains_iff_mem]
    exact known name
  · have same := (List.perm_ext_iff_of_nodup nodup (List.nodup_dedup names)).2 fun name =>
      (known name).trans List.mem_dedup.symm
    rw [← same.length_eq, ClassIndex.names, List.length_map]
    rfl
  · have counts : (empty.addAll batches.flatten).2.count name +
        (if name ∈ (empty.addAll batches.flatten).1.names then 1 else 0) =
          0 + 0 + names.count name := by
      rw [inOneGo]
      exact count_foldl_enter met .empty [] name
    by_cases listed : name ∈ names
    · rw [if_pos ((known name).2 listed)] at counts
      omega
    · have none := List.count_eq_zero_of_not_mem listed
      rw [if_neg (mt (known name).1 listed)] at counts
      omega
  · have lengths : (empty.addAll batches.flatten).2.length +
        ((empty.addAll batches.flatten).1.entries.map (·.1)).length =
          0 + 0 + met.length := by
      rw [inOneGo]
      exact length_foldl_enter met .empty []
    rw [List.length_map] at lengths
    rw [ClassIndex.size]
    omega

end Processing

end DelegateClasses
