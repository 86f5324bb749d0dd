import DelegateClasses.Proofs.Processing.Visits

/-! A generator under observation. It does what it does otherwise, and next to it
a record is kept of the classes that it was asked to start and of its answers.
Main statement: a round with the generator under observation is the round with
the generator itself. -/
namespace DelegateClasses
open Processing

/-- What a generator answers when it is asked to start a class. -/
inductive Answer where
  /-- The class is generated. -/
  | granted
  /-- Nothing is generated for the class. -/
  | declined
  /-- The generator gives up on the class. -/
  | failed
deriving DecidableEq

/-- The start of a class that a generator was asked for. -/
structure Start where
  declared : ClassDecl
  answer : Answer
  /-- How superclasses are treated after the answer. -/
  policy : SuperclassPolicy

/-- The name of the class that was to be started. -/
def Start.name (start : Start) : String :=
  start.declared.name

/-- The state of a generator under observation, and what was observed. -/
structure Watched (σ : Type) where
  own : σ
  /-- The starts that the generator was asked for, in order. -/
  starts : List Start

variable {σ α β : Type}

/-- What an observer knows besides the generator. -/
def World.watched (world : World σ) (starts : List Start) : World (Watched σ) :=
  ⟨world.files, world.log, ⟨world.own, starts⟩⟩

/-- What the generator knows itself. -/
def World.plain (world : World (Watched σ)) : World σ :=
  ⟨world.files, world.log, world.own.own⟩

/-- A run in progress, under observation from now on. -/
def Session.watched (session : Session σ) (starts : List Start) : Session (Watched σ) :=
  ⟨session.ledger, session.world.watched starts⟩

/-- A run in progress, without what was observed. -/
def Session.plain (session : Session (Watched σ)) : Session σ :=
  ⟨session.ledger, session.world.plain⟩

/-- The starts observed so far. -/
def Session.starts (session : Session (Watched σ)) : List Start :=
  session.world.own.starts

@[simp] theorem Session.ledger_plain (session : Session (Watched σ)) :
    session.plain.ledger = session.ledger := rfl

/-- A step that is not recorded. -/
def Hook.unrecorded (step : Hook σ α) : Hook (Watched σ) α := fun world =>
  match step world.plain with
  | .ok value after => .ok value (after.watched world.own.starts)
  | .error failure after => .error failure (after.watched world.own.starts)

namespace Generator

/-- The start of a class, recorded with the answer. -/
def recordedStart (generator : Generator σ) (settings : Settings) (declared : ClassDecl)
    (position : Position) : Hook (Watched σ) Bool := fun world =>
  match generator.startClass settings declared position world.plain with
  | .ok true after => .ok true (after.watched
      (world.own.starts ++ [⟨declared, .granted, generator.policy after.own⟩]))
  | .ok false after => .ok false (after.watched
      (world.own.starts ++ [⟨declared, .declined, generator.policy after.own⟩]))
  | .error failure after => .error failure (after.watched
      (world.own.starts ++ [⟨declared, .failed, generator.policy after.own⟩]))

/-- The generator under observation. -/
def watched (generator : Generator σ) : Generator (Watched σ) where
  policy := fun watched => generator.policy watched.own
  option := fun name value => (generator.option name value).unrecorded
  startClass := generator.recordedStart
  leaveClass := fun declared world =>
    (generator.leaveClass declared world.plain).watched world.own.starts
  method := fun settings method position => (generator.method settings method position).unrecorded
  inheritedMethod := fun settings method position =>
    (generator.inheritedMethod settings method position).unrecorded
  field := fun settings field position => (generator.field settings field position).unrecorded
  endClass := fun settings declared position =>
    (generator.endClass settings declared position).unrecorded
  finish := generator.finish.unrecorded

end Generator

namespace Processing

/-- The result of a step, without what was observed. -/
def forget : EStateM.Result Failure (Session (Watched σ)) α → EStateM.Result Failure (Session σ) α
  | .ok value session => .ok value session.plain
  | .error failure session => .error failure session.plain

/-- The first step does under observation what the second does. -/
def Mirrors (watched : Processing (Watched σ) α) (plain : Processing σ α) : Prop :=
  ∀ session, forget (watched session) = plain session.plain

variable {generator : Generator σ}

/-- A step that succeeds under observation does so without it. -/
theorem ran_plain {watched : Processing (Watched σ) α} {plain : Processing σ α}
    {session after : Session (Watched σ)} (mirrors : Mirrors watched plain)
    (ran : watched session = .ok value after) : plain session.plain = .ok value after.plain := by
  rw [← mirrors session, ran]
  rfl

/-- A step that succeeds does so under observation. -/
theorem ran_watched {watched : Processing (Watched σ) α} {plain : Processing σ α}
    {later : Session σ} (mirrors : Mirrors watched plain) (session : Session (Watched σ))
    (ran : plain session.plain = .ok value later) :
    ∃ after, watched session = .ok value after ∧ after.plain = later := by
  rw [← mirrors session] at ran
  cases observed : watched session with
  | ok result after =>
    rw [observed] at ran
    cases ran
    exact ⟨after, rfl, rfl⟩
  | error failure after =>
    rw [observed] at ran
    cases ran

theorem mirrors_return (value : α) :
    Mirrors (return value : Processing (Watched σ) α) (return value) :=
  fun _ => rfl

theorem mirrors_throw (failure : Failure) :
    Mirrors (throw failure : Processing (Watched σ) α) (throw failure) :=
  fun _ => rfl

theorem mirrors_bind {watched : Processing (Watched σ) α} {plain : Processing σ α}
    {next : α → Processing (Watched σ) β} {plainNext : α → Processing σ β}
    (first : Mirrors watched plain) (rest : ∀ value, Mirrors (next value) (plainNext value)) :
    Mirrors (watched >>= next) (plain >>= plainNext) := by
  intro session
  have same := first session
  simp only [bind, EStateM.bind]
  rw [← same]
  cases watched session with
  | ok value after => exact rest value after
  | error failure after => rfl

/-- Steps that look at the session see the same, up to what was observed. -/
theorem mirrors_get {next : Session (Watched σ) → Processing (Watched σ) α}
    {plainNext : Session σ → Processing σ α}
    (rest : ∀ session, Mirrors (next session) (plainNext session.plain)) :
    Mirrors (get >>= next) (get >>= plainNext) :=
  fun session => rest session session

theorem mirrors_ite {condition : Prop} [Decidable condition]
    {watched other : Processing (Watched σ) α} {plain plainOther : Processing σ α}
    (yes : Mirrors watched plain) (no : Mirrors other plainOther) :
    Mirrors (if condition then watched else other) (if condition then plain else plainOther) := by
  split
  · exact yes
  · exact no

theorem mirrors_record (change : Ledger → Ledger) :
    Mirrors (record change : Processing (Watched σ) Unit) (record change) :=
  fun _ => rfl

/-- A step of the generator that is not recorded. -/
theorem mirrors_unrecorded (step : Settings → Hook σ α) :
    Mirrors (hook fun settings => (step settings).unrecorded) (hook step) := by
  intro session
  simp only [hook, Hook.unrecorded, Session.plain]
  cases step session.ledger.settings session.world.plain with
  | ok value after => rfl
  | error failure after => rfl

private theorem mirrors_recordedStart (declared : ClassDecl) (position : Position) :
    Mirrors (hook fun settings => generator.watched.startClass settings declared position)
      (hook fun settings => generator.startClass settings declared position) := by
  intro session
  simp only [hook, Generator.watched, Generator.recordedStart, Session.plain]
  cases generator.startClass session.ledger.settings declared position session.world.plain with
  | ok generated after => cases generated <;> rfl
  | error failure after => rfl

theorem mirrors_report (level : Level) (topic : Topic) (message : String) :
    Mirrors (report level topic message : Processing (Watched σ) Unit)
      (report level topic message) :=
  fun _ => rfl

theorem mirrors_note (message : String) :
    Mirrors (note message : Processing (Watched σ) Unit) (note message) :=
  fun _ => rfl

private theorem mirrors_closing {watched : Processing (Watched σ) α} {plain : Processing σ α}
    (step : Mirrors watched plain) (declared : ClassDecl) :
    Mirrors (closing watched (generator.watched.leaveClass declared))
      (closing plain (generator.leaveClass declared)) := by
  intro session
  have same := step session
  simp only [closing]
  rw [← same]
  cases watched session with
  | ok value after => rfl
  | error failure after => rfl

theorem mirrors_isolate {watched : Processing (Watched σ) Unit} {plain : Processing σ Unit}
    (step : Mirrors watched plain) : Mirrors (isolate watched) (isolate plain) := by
  intro session
  have same := step session
  simp only [isolate]
  rw [← same]
  cases watched session with
  | ok value after => rfl
  | error failure after =>
    simp only [forget]
    by_cases isolated : failure.isIsolated = true
    · rw [if_pos isolated, if_pos isolated]
    · rw [if_neg isolated, if_neg isolated]

theorem mirrors_forM {watched : α → Processing (Watched σ) PUnit} {plain : α → Processing σ PUnit}
    (each : ∀ value, Mirrors (watched value) (plain value)) (values : List α) :
    Mirrors (values.forM watched) (values.forM plain) := by
  induction values with
  | nil => exact mirrors_return _
  | cons value values ih => exact mirrors_bind (each value) fun _ => ih

theorem mirrors_foldlM {watched : β → α → Processing (Watched σ) β}
    {plain : β → α → Processing σ β}
    (each : ∀ result value, Mirrors (watched result value) (plain result value))
    (values : List α) (result : β) :
    Mirrors (values.foldlM watched result) (values.foldlM plain result) := by
  induction values generalizing result with
  | nil => exact mirrors_return _
  | cons value values ih =>
    rw [List.foldlM_cons, List.foldlM_cons]
    exact mirrors_bind (each result value) ih

/-! ## The parts of a round -/

private theorem foldSuperclasses_mirrors (position : Position) (chain : SuperclassChain) :
    Mirrors (foldSuperclasses generator.watched position chain)
      (foldSuperclasses generator position chain) := by
  refine mirrors_bind (mirrors_forM (fun declared => ?_) _) fun _ => ?_
  · exact mirrors_bind (mirrors_note _) fun _ =>
      mirrors_forM (fun method => mirrors_unrecorded _) _
  · split
    · exact mirrors_return _
    · exact mirrors_report _ _ _

private theorem enqueueSuperclass_mirrors (superclass : TypeRef) (className : String) :
    Mirrors (enqueueSuperclass superclass className : Processing (Watched σ) Unit)
      (enqueueSuperclass superclass className) := by
  refine mirrors_get fun session => ?_
  simp only [Session.plain]
  cases session.ledger.index.lookup superclass with
  | none => exact mirrors_report _ _ _
  | some declared => exact mirrors_ite (mirrors_record _) (mirrors_return _)

/-- A class is generated in the same way if its members are visited in the same way. -/
theorem generateClass_mirrors (position : Position) (declared : ClassDecl)
    {visitWatched : Position → Processing (Watched σ) Unit}
    {visitPlain : Position → Processing σ Unit}
    (members : ∀ inside, inside.depth = position.depth + 1 →
      Mirrors (visitWatched inside) (visitPlain inside)) :
    Mirrors (generateClass generator.watched position declared visitWatched)
      (generateClass generator position declared visitPlain) := by
  rw [generateClass, generateClass]
  by_cases nested : position.depth + 1 > 1
  · rw [if_pos nested, if_pos nested]
    exact mirrors_note _
  rw [if_neg nested, if_neg nested]
  refine mirrors_get fun session => mirrors_ite (mirrors_note _) ?_
  refine mirrors_bind (mirrors_note _) fun _ => ?_
  refine mirrors_bind (mirrors_recordedStart _ _) fun generated => mirrors_ite ?_ (mirrors_note _)
  refine mirrors_get fun begun => ?_
  have policy : generator.watched.policy begun.world.own =
      generator.policy begun.plain.world.own := rfl
  refine mirrors_bind (mirrors_closing ?_ _) fun _ => ?_
  · refine mirrors_bind (members _ rfl) fun _ => ?_
    simp only [policy]
    cases (generator.policy begun.plain.world.own).folded declared.superclass with
    | none => exact mirrors_unrecorded _
    | some superclass =>
      exact mirrors_bind (foldSuperclasses_mirrors _ _) fun _ => mirrors_unrecorded _
  · refine mirrors_bind (mirrors_record _) fun _ => mirrors_bind (mirrors_note _) fun _ => ?_
    simp only [policy]
    cases (generator.policy begun.plain.world.own).separated declared.superclass with
    | none => exact mirrors_return _
    | some superclass => exact enqueueSuperclass_mirrors _ _

private theorem visitAll_mirrors {position : Position} (inside : position.depth = 1)
    (members : List Element) :
    Mirrors (visitAll generator.watched position members) (visitAll generator position members) := by
  induction members with
  | nil =>
    rw [visitAll, visitAll]
    exact mirrors_return _
  | cons member members ih =>
    rw [visitAll, visitAll]
    refine mirrors_bind ?_ fun _ => ih
    cases member with
    | nested declared =>
      rw [visit, visit, visitClass_inside inside, visitClass_inside inside]
      exact mirrors_note _
    | method declared =>
      rw [visit, visit]
      exact mirrors_ite (mirrors_unrecorded _) (mirrors_return _)
    | field declared =>
      rw [visit, visit]
      exact mirrors_ite (mirrors_unrecorded _) (mirrors_return _)
    | foreign label =>
      rw [visit, visit]
      exact mirrors_throw _

private theorem visitClass_mirrors (directory : Path) (declared : ClassDecl) :
    Mirrors (visitClass generator.watched (.outside directory) declared)
      (visitClass generator (.outside directory) declared) := by
  obtain ⟨name, kind, superclass, modifiers, members⟩ := declared
  rw [visitClass, visitClass]
  exact generateClass_mirrors _ _ fun inside depth => visitAll_mirrors depth members

theorem processClass_mirrors (directory : Path) (declared : ClassDecl) (result : RoundResult) :
    Mirrors (processClass generator.watched (.outside directory) declared result)
      (processClass generator (.outside directory) declared result) := by
  rw [processClass, processClass]
  refine mirrors_ite (mirrors_return _) (mirrors_bind (mirrors_note _) fun _ => ?_)
  refine mirrors_get fun before => ?_
  refine mirrors_bind (mirrors_isolate (visitClass_mirrors _ _)) fun outcome => ?_
  refine mirrors_get fun after => ?_
  cases outcome with
  | none => exact mirrors_return _
  | some failure => exact mirrors_bind (mirrors_report _ _ _) fun _ => mirrors_return _

private theorem drain_mirrors (directory : Path) (fuel : Nat) (result : RoundResult) :
    Mirrors (drain generator.watched (.outside directory) fuel result)
      (drain generator (.outside directory) fuel result) := by
  induction fuel generalizing result with
  | zero => exact mirrors_return _
  | succ fuel ih =>
    rw [drain, drain]
    refine mirrors_get fun session => ?_
    simp only [Session.plain]
    cases session.ledger.pending with
    | nil => exact mirrors_return _
    | cons next others =>
      exact mirrors_bind (mirrors_record _) fun _ =>
        mirrors_bind (processClass_mirrors _ _ _) fun _ => ih _

/-- A round with a generator under observation is the round with the generator. -/
theorem process_mirrors (classes : List ClassDecl) (directory : Path) :
    Mirrors (process generator.watched classes directory)
      (process generator classes directory) := by
  refine mirrors_foldlM (fun result declared => ?_) _ _
  refine mirrors_bind (processClass_mirrors _ _ _) fun _ => mirrors_get fun session => ?_
  exact drain_mirrors _ _ _

end Processing

end DelegateClasses
