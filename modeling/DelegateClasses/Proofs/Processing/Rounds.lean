import DelegateClasses.Proofs.Processing.Turn
import Mathlib.Data.List.Basic
import Mathlib.Logic.Relation

/-! A round as a sequence of turns, without a bound on their number: a class that
waits has its turn first, and the next class of the input when none waits. Every
turn brings the round closer to its end, since a class that is put on the waiting
list was preceded by the completion of a declared class. Main statement: a round
reaches its end, whatever the generator answers, and nothing waits then. -/
namespace DelegateClasses

/-- The declarations of an index. -/
def ClassIndex.declarations (index : ClassIndex) : List ClassDecl :=
  index.entries.map (·.2)

namespace Processing
open Steps

variable {σ : Type} {generator : Generator σ} {directory : Path}

/-- A round in progress. -/
structure Stage (σ : Type) where
  /-- The classes of the input that had no turn yet. -/
  input : List ClassDecl
  result : RoundResult
  session : Session σ

/-- The round after the next turn. -/
inductive Step (generator : Generator σ) (directory : Path) : Stage σ → Stage σ → Prop where
  /-- The first class that waits has its turn, and waits no longer. -/
  | waiting {input others : List ClassDecl} {declared : ClassDecl} {result next : RoundResult}
      {session after : Session σ} (pending : session.ledger.pending = declared :: others)
      (ran : processClass generator (.outside directory) declared result
        ⟨{ session.ledger with pending := others }, session.world⟩ = .ok next after) :
      Step generator directory ⟨input, result, session⟩ ⟨input, next, after⟩
  /-- No class waits, and the next one of the input has its turn. -/
  | input {input : List ClassDecl} {declared : ClassDecl} {result next : RoundResult}
      {session after : Session σ} (none : session.ledger.pending = [])
      (ran : processClass generator (.outside directory) declared result session =
        .ok next after) :
      Step generator directory ⟨declared :: input, result, session⟩ ⟨input, next, after⟩

/-- Some number of turns leads from one stage of a round to another. -/
abbrev Reaches (generator : Generator σ) (directory : Path) : Stage σ → Stage σ → Prop :=
  Relation.ReflTransGen (Step generator directory)

/-! ## What a turn leaves -/

variable {declared : ClassDecl} {result next : RoundResult} {ledger : Ledger}
variable {session after : Session (Watched σ)}

private theorem mem_declarations_of_lookup {index : ClassIndex} {superclass : TypeRef}
    {found : ClassDecl}
    (looked : index.lookup superclass = some found) : found ∈ index.declarations := by
  obtain ⟨entry, located, rfl⟩ := Option.map_eq_some_iff.1 looked
  exact List.mem_map.2 ⟨entry, List.mem_of_find?_eq_some located, rfl⟩

/-- A class that is put on the waiting list is declared. -/
theorem declared_of_mem_queued {policy : SuperclassPolicy} {found : ClassDecl}
    (member : found ∈ queued ledger policy declared) : found ∈ ledger.index.declarations := by
  rw [queued] at member
  split at member
  · cases member
  · rw [waiting] at member
    split at member
    · cases member
    · next looked =>
      split at member
      · cases member
      · obtain rfl := List.mem_singleton.1 member
        exact mem_declarations_of_lookup looked

theorem length_queued_le (ledger : Ledger) (policy : SuperclassPolicy) (declared : ClassDecl) :
    (queued ledger policy declared).length ≤ 1 := by
  rw [queued]
  split
  · exact Nat.zero_le 1
  · rw [waiting]
    split
    · exact Nat.zero_le 1
    · split <;> simp

/-- The ledger is changed only by a class that is completed, and then in one way. -/
theorem turn_ledger (turn : Turn declared result session next after) :
    after.ledger = session.ledger ∨ ∃ policy, declared.name ∉ session.ledger.generated ∧
      after.ledger = completedLedger session.ledger policy declared := by
  cases turn with
  | passed known unmoved => exact .inl unmoved.ledger
  | declined asked answer ledger => exact .inl ledger
  | failed asked answer ledger => exact .inl ledger
  | completed asked answer ledger => exact .inr ⟨_, asked.fresh, ledger⟩

theorem turn_index (turn : Turn declared result session next after) :
    after.ledger.index = session.ledger.index := by
  rcases turn_ledger turn with same | ⟨policy, -, completed⟩
  · rw [same]
  · rw [completed, index_completedLedger]

/-- All classes that wait are declared. -/
def Listed (ledger : Ledger) : Prop :=
  ∀ declared ∈ ledger.pending, declared ∈ ledger.index.declarations

private theorem turn_listed (turn : Turn declared result session next after)
    (listed : Listed session.ledger) : Listed after.ledger := by
  rcases turn_ledger turn with same | ⟨policy, -, completed⟩
  · rwa [same]
  · intro other member
    rw [completed, pending_completedLedger] at member
    rw [turn_index turn]
    rcases List.mem_append.1 member with earlier | added
    · exact listed other earlier
    · have found := declared_of_mem_queued added
      rwa [index_complete] at found

/-- The declared classes that are not generated yet. -/
def outstanding (ledger : Ledger) : List ClassDecl :=
  ledger.index.declarations.filter fun declared => !ledger.generated.contains declared.name

private theorem outstanding_complete_sublist (fresh : declared.name ∉ ledger.generated) :
    (outstanding (ledger.complete declared.name)).Sublist (outstanding ledger) := by
  rw [outstanding, outstanding, index_complete, generated_complete fresh]
  refine List.monotone_filter_right _ fun other => ?_
  simp +contextual

/-- A declared class that is completed is no longer outstanding. -/
theorem outstanding_complete_lt (fresh : declared.name ∉ ledger.generated)
    (member : declared ∈ ledger.index.declarations) :
    (outstanding (ledger.complete declared.name)).length < (outstanding ledger).length := by
  rw [outstanding, outstanding, index_complete, generated_complete fresh]
  refine length_filter_lt member (by simpa using fresh) (by simp) fun other => ?_
  simp +contextual

/-- What a round has ahead besides its input: the classes that wait, and those
that can still be put on the waiting list. -/
def ahead (ledger : Ledger) : Nat :=
  ledger.pending.length + (outstanding ledger).length

/-- A turn adds to what is ahead only if its class is not declared, and then by one. -/
theorem turn_ahead (turn : Turn declared result session next after) :
    ahead after.ledger ≤ ahead session.ledger + 1 ∧
      (declared ∈ session.ledger.index.declarations →
        ahead after.ledger ≤ ahead session.ledger) := by
  rcases turn_ledger turn with same | ⟨policy, fresh, completed⟩
  · rw [same]
    exact ⟨Nat.le_succ _, fun _ => Nat.le_refl _⟩
  · have more := length_queued_le (session.ledger.complete declared.name) policy declared
    have fewer := (outstanding_complete_sublist fresh).length_le
    have books : ahead after.ledger = session.ledger.pending.length +
        (queued (session.ledger.complete declared.name) policy declared).length +
        (outstanding (session.ledger.complete declared.name)).length := by
      rw [completed, ahead, pending_completedLedger, List.length_append]
      rfl
    rw [books, ahead]
    refine ⟨by omega, fun member => ?_⟩
    have strictly := outstanding_complete_lt fresh member
    omega

/-! ## The waiting list -/

/-- The classes that a run can meet have no members but those that a class can declare. -/
def AllProper (ledger : Ledger) : Prop :=
  ∀ declared ∈ ledger.index.declarations, declared.Proper

/-- Fuel for all that is ahead lets the waiting list run empty. -/
theorem drain_reaches (isolates : generator.Isolates) (input : List ClassDecl) (fuel : Nat)
    (result : RoundResult) (session : Session (Watched σ)) (proper : AllProper session.ledger)
    (listed : Listed session.ledger) (enough : ahead session.ledger ≤ fuel) :
    ∃ next after, drain generator.watched (.outside directory) fuel result session =
        .ok next after ∧
      after.ledger.pending = [] ∧ after.ledger.index = session.ledger.index ∧
      Reaches generator.watched directory ⟨input, result, session⟩ ⟨input, next, after⟩ := by
  induction fuel generalizing result session with
  | zero =>
    have none : session.ledger.pending = [] :=
      List.length_eq_zero_iff.1 (by rw [ahead] at enough; omega)
    exact ⟨result, session, rfl, none, rfl, .refl⟩
  | succ fuel ih =>
    rw [drain, get_bind]
    cases pending : session.ledger.pending with
    | nil => exact ⟨result, session, rfl, pending, rfl, .refl⟩
    | cons declared others =>
      simp only [record_bind]
      have member : declared ∈ session.ledger.index.declarations :=
        listed declared (by rw [pending]; exact List.mem_cons_self)
      obtain ⟨next, after, ran, turn⟩ := processClass_turn isolates directory
        (proper declared member) result ⟨{ session.ledger with pending := others }, session.world⟩
      have shorter : Listed { session.ledger with pending := others } := fun other later =>
        listed other (by rw [pending]; exact List.mem_cons_of_mem _ later)
      have index : after.ledger.index = session.ledger.index := (turn_index turn :)
      have less : ahead after.ledger ≤ others.length + (outstanding session.ledger).length :=
        (turn_ahead turn).2 member
      rw [ahead, pending, List.length_cons] at enough
      obtain ⟨last, final, drained, none, same, reached⟩ := ih next after
        (by rw [AllProper, index]; exact proper) (turn_listed turn shorter) (by omega)
      rw [bind_of_ok ran]
      exact ⟨last, final, drained, none, same.trans index,
        .head (.waiting pending ran) reached⟩

/-- The fuel that a round gives to its waiting list is enough. -/
theorem ahead_le_drainFuel (ledger : Ledger) : ahead ledger ≤ drainFuel ledger := by
  have declarations := List.length_filter_le
    (fun declared : ClassDecl => !ledger.generated.contains declared.name) ledger.index.declarations
  rw [ClassIndex.declarations, List.length_map] at declarations
  rw [ahead, drainFuel, outstanding, ClassIndex.size, ClassIndex.declarations]
  omega

/-- A round reaches its end, and nothing waits then. -/
theorem process_reaches (isolates : generator.Isolates) (classes : List ClassDecl)
    (directory : Path) (session : Session (Watched σ)) (idle : session.ledger.pending = [])
    (proper : AllProper session.ledger) (given : ∀ declared ∈ classes, declared.Proper) :
    ∃ result after, process generator.watched classes directory session = .ok result after ∧
      after.ledger.pending = [] ∧ after.ledger.index = session.ledger.index ∧
      Reaches generator.watched directory ⟨classes, .empty, session⟩ ⟨[], result, after⟩ := by
  rw [process]
  generalize RoundResult.empty = result
  induction classes generalizing result session with
  | nil => exact ⟨result, session, rfl, idle, rfl, .refl⟩
  | cons declared classes ih =>
    obtain ⟨next, middle, ran, turn⟩ := processClass_turn isolates directory
      (given declared List.mem_cons_self) result session
    have index := turn_index turn
    have nothing : Listed session.ledger := fun other member => by
      rw [idle] at member
      cases member
    obtain ⟨later, between, drained, none, same, waited⟩ := drain_reaches isolates classes
      (drainFuel middle.ledger) next middle (by rw [AllProper, index]; exact proper)
      (turn_listed turn nothing) (ahead_le_drainFuel _)
    obtain ⟨last, final, rest, finished, still, reached⟩ := ih between none
      (by rw [AllProper, same, index]; exact proper)
      (fun other member => given other (List.mem_cons_of_mem _ member)) later
    have first : processWithSuperclasses generator.watched (.outside directory) result declared
        session = .ok later between := by
      rw [processWithSuperclasses, bind_of_ok ran, get_bind, drained]
    rw [List.foldlM_cons, bind_of_ok first]
    exact ⟨last, final, rest, finished, still.trans (same.trans index),
      .head (.input idle ran) (waited.trans reached)⟩

/-! ## What every turn of a round keeps -/

/-- No class that has its turn later can abort the round. -/
structure Sound (stage : Stage (Watched σ)) : Prop where
  proper : AllProper stage.session.ledger
  given : ∀ declared ∈ stage.input, declared.Proper
  listed : Listed stage.session.ledger

theorem sound_start {classes : List ClassDecl} {session : Session (Watched σ)}
    (idle : session.ledger.pending = []) (proper : AllProper session.ledger)
    (given : ∀ declared ∈ classes, declared.Proper) : Sound ⟨classes, result, session⟩ := by
  refine ⟨proper, given, fun declared member => ?_⟩
  rw [idle] at member
  cases member

/-- The run when the first class that waits has its turn. -/
def popped (session : Session σ) : Session σ :=
  ⟨{ session.ledger with pending := session.ledger.pending.tail }, session.world⟩

/-- A class had its turn between two stages: the first that waited, or else the
first of the input. -/
structure Taken (declared : ClassDecl) (stage later : Stage (Watched σ)) : Prop where
  turn : Turn declared stage.result (popped stage.session) later.result later.session
  next : stage.session.ledger.pending.head? = some declared ∧ later.input = stage.input ∨
    stage.session.ledger.pending = [] ∧ stage.input = declared :: later.input

variable {stage later : Stage (Watched σ)}

private theorem sound_of_taken (taken : Taken declared stage later) (sound : Sound stage) :
    Sound later := by
  have index : later.session.ledger.index = stage.session.ledger.index := (turn_index taken.turn :)
  have listed : Listed (popped stage.session).ledger := fun other member =>
    sound.listed other (List.mem_of_mem_tail member)
  refine ⟨by rw [AllProper, index]; exact sound.proper, fun other member => ?_,
    turn_listed taken.turn listed⟩
  rcases taken.next with ⟨-, same⟩ | ⟨-, input⟩
  · exact sound.given other (same ▸ member)
  · exact sound.given other (by rw [input]; exact List.mem_cons_of_mem _ member)

/-- A class that was dealt with had its turn. -/
theorem turn_of_ran (isolates : generator.Isolates) (proper : declared.Proper)
    (ran : processClass generator.watched (.outside directory) declared result session =
      .ok next after) : Turn declared result session next after := by
  obtain ⟨_, _, again, turn⟩ := processClass_turn isolates directory proper result session
  rw [ran] at again
  cases again
  exact turn

/-- Every step of a round is the turn of a class. -/
theorem taken_of_step (isolates : generator.Isolates) (sound : Sound stage)
    (step : Step generator.watched directory stage later) :
    ∃ declared, Taken declared stage later := by
  cases step with
  | @waiting input others declared result next session after pending ran =>
    have proper : declared.Proper :=
      sound.proper declared (sound.listed declared (by rw [pending]; exact List.mem_cons_self))
    have first : popped session = ⟨{ session.ledger with pending := others }, session.world⟩ := by
      rw [popped, pending, List.tail_cons]
    rw [← first] at ran
    exact ⟨declared, turn_of_ran isolates proper ran, .inl ⟨by rw [pending]; rfl, rfl⟩⟩
  | @input input declared result next session after none ran =>
    have same : popped session = session := by
      rw [popped, none, List.tail_nil, ← none]
    have proper : declared.Proper := sound.given declared List.mem_cons_self
    rw [← same] at ran
    exact ⟨declared, turn_of_ran isolates proper ran, .inr ⟨none, rfl⟩⟩

/-- What every turn keeps, a round keeps. -/
theorem reaches_keeps {holds : Stage (Watched σ) → Prop} (isolates : generator.Isolates)
    (each : ∀ declared stage later, Sound stage → Taken declared stage later → holds stage →
      holds later)
    (sound : Sound stage) (start : holds stage)
    (reached : Reaches generator.watched directory stage later) : Sound later ∧ holds later := by
  induction reached with
  | refl => exact ⟨sound, start⟩
  | tail _ step ih =>
    obtain ⟨still, held⟩ := ih
    obtain ⟨declared, taken⟩ := taken_of_step isolates still step
    exact ⟨sound_of_taken taken still, each declared _ _ still taken held⟩

end Processing

end DelegateClasses
