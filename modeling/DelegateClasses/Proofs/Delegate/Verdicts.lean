import DelegateClasses.Proofs.Delegate.Filing
import DelegateClasses.Proofs.Processing.Beside

/-! What becomes of a class in a round of delegating classes. Superclasses are folded at
most, so no class waits, and what the round is configured with stays. Main statement: a
class that has its turn is passed over, or fails, or its name is entered, or it stops the
run. -/
namespace DelegateClasses.Delegate
open Steps Processing

variable {directory : Path} {declared : ClassDecl} {settings : Settings}
variable {session middle after : Session State} {result : RoundResult} {world later : World State}

/-- The run goes on with the same configuration, and no class waits. -/
structure Steady (session after : Session State) : Prop where
  settings : after.ledger.settings = session.ledger.settings
  index : after.ledger.index = session.ledger.index
  own : ∃ released, after.world.own = { session.world.own with released }
  idle : after.ledger.pending = []

theorem steady_refl (idle : session.ledger.pending = []) : Steady session session :=
  ⟨rfl, rfl, ⟨_, rfl⟩, idle⟩

theorem steady_trans (first : Steady session middle) (second : Steady middle after) :
    Steady session after where
  settings := second.settings.trans first.settings
  index := second.index.trans first.index
  own := by
    obtain ⟨released, before⟩ := first.own
    obtain ⟨more, now⟩ := second.own
    exact ⟨more, by rw [now, before]⟩
  idle := second.idle

/-- What is said before a step and after it does not matter to a steady run. -/
theorem steady_of_noted {message : String} (steady : Steady (noted message session) middle)
    (log : Log) : Steady session ⟨middle.ledger, { middle.world with log }⟩ :=
  ⟨steady.settings, steady.index, steady.own, steady.idle⟩

/-! ## The visit -/

/-- The generator declines only enums. -/
theorem startClass_declined
    (start : generator.startClass settings declared (.outside directory) world = .ok false later) :
    declared.kind = .enum := by
  have begins : Starting settings declared directory world
      (generator.startClass settings declared (.outside directory) world) :=
    startClass_outside settings declared directory world
  rw [start] at begins
  cases begins with
  | enum kind noted => exact kind

/-- How the visit of a class ends, as the books tell. -/
inductive Verdict (declared : ClassDecl) (session : Session State) :
    EStateM.Result Failure (Session State) Unit → Prop where
  | known {after : Session State} (listed : declared.name ∈ session.ledger.generated)
      (books : after.ledger = session.ledger) : Verdict declared session (.ok ⟨⟩ after)
  | declined {after : Session State} (enum : declared.kind = .enum)
      (books : after.ledger = session.ledger) : Verdict declared session (.ok ⟨⟩ after)
  | failed {failure : Failure} {after : Session State}
      (fresh : declared.name ∉ session.ledger.generated) (books : after.ledger = session.ledger) :
      Verdict declared session (.error failure after)
  | generated {after : Session State} (fresh : declared.name ∉ session.ledger.generated)
      (books : after.ledger = session.ledger.complete declared.name) :
      Verdict declared session (.ok ⟨⟩ after)

/-- A class that was begun is generated with the policy of the run. -/
theorem policy_of_begun
    (start : generator.startClass settings declared (.outside directory) world = .ok true later) :
    later.own.policy = world.own.policy := by
  obtain ⟨package, place, files, -, -, -, draft, -, here⟩ := underway_of_started start
  rw [At] at here
  rw [here]
  rfl

/-- Every visit ends in one of these ways. -/
theorem visitClass_verdict (folding : session.world.own.policy.action = .fold) :
    Verdict declared session (visitClass generator (.outside directory) declared session) := by
  have visit := visitClass_ends generator directory declared session
  generalize visitClass generator (.outside directory) declared session = visited at visit ⊢
  cases visit with
  | known listed message => exact .known listed rfl
  | declined fresh start message => exact .declined (startClass_declined start) rfl
  | refused fresh start => exact .failed fresh rfl
  | abandoned fresh start members => exact .failed fresh rfl
  | unfinished fresh start members ending => exact .failed fresh rfl
  | completed fresh start members ending log =>
    refine .generated fresh (completedLedger_folding ?_ _ _)
    have same := policy_of_begun start
    rw [asked_own] at same
    change SuperclassPolicy.action (State.policy _) = _
    rw [same, folding]

/-- A visit leaves the state of the generator as it was, but for what was given up. -/
theorem visitClass_own (declared : ClassDecl) (directory : Path) (session : Session State) :
    ∃ released, (left (visitClass generator (.outside directory) declared session)).world.own =
      { session.world.own with released } := by
  have outcome := visitClass_outcome declared directory session
  generalize visitClass generator (.outside directory) declared session = visited at outcome ⊢
  cases outcome with
  | passed ledger own files => exact ⟨_, own⟩
  | refused ledger own touches => exact ⟨_, own⟩
  | written owned filed sink fresh generated => exact ⟨_, filed.own⟩
  | abandoned ledger owned filed sink => exact ⟨_, filed.own⟩

/-- A visit leaves a steady run behind, whether it succeeds or fails. -/
theorem visitClass_steady (folding : session.world.own.policy.action = .fold)
    (idle : session.ledger.pending = []) :
    Steady session (left (visitClass generator (.outside directory) declared session)) := by
  have verdict := @visitClass_verdict directory declared session folding
  have own := visitClass_own declared directory session
  generalize visitClass generator (.outside directory) declared session = visited at verdict own ⊢
  cases verdict with
  | known listed books => exact ⟨by rw [left, books], by rw [left, books], own, by rwa [left, books]⟩
  | declined enum books =>
    exact ⟨by rw [left, books], by rw [left, books], own, by rwa [left, books]⟩
  | failed fresh books =>
    exact ⟨by rw [left, books], by rw [left, books], own, by rwa [left, books]⟩
  | generated fresh books =>
    exact ⟨by rw [left, books, settings_complete], by rw [left, books, index_complete], own,
      by rwa [left, books, pending_complete]⟩

/-! ## The turn -/

/-- How the turn of a class ends. -/
inductive Turned (directory : Path) (declared : ClassDecl) (result : RoundResult)
    (session : Session State) : EStateM.Result Failure (Session State) RoundResult → Prop where
  /-- The class failed before in this round. -/
  | skipped (failed : result.failed declared.name = true) :
      Turned directory declared result session (.ok result session)
  /-- The name is entered already, or the class is an enum. -/
  | passed {after : Session State} (spared : result.failed declared.name = false)
      (cause : declared.name ∈ session.ledger.generated ∨ declared.kind = .enum)
      (books : after.ledger.generated = session.ledger.generated) (steady : Steady session after) :
      Turned directory declared result session (.ok result after)
  | failed {failure : Failure} {visited after : Session State}
      (spared : result.failed declared.name = false)
      (visits : visitClass generator (.outside directory) declared
        (noted ("Processing " ++ declared.name) session) = .error failure visited)
      (isolated : failure.isIsolated = true)
      (books : after.ledger.generated = session.ledger.generated) (steady : Steady session after) :
      Turned directory declared result session
        (.ok (withFailure result declared.name failure) after)
  | generated {visited after : Session State} (spared : result.failed declared.name = false)
      (fresh : declared.name ∉ session.ledger.generated)
      (visits : visitClass generator (.outside directory) declared
        (noted ("Processing " ++ declared.name) session) = .ok ⟨⟩ visited)
      (same : after.ledger = visited.ledger)
      (books : after.ledger.generated = session.ledger.generated ++ [declared.name])
      (steady : Steady session after) :
      Turned directory declared result session
        (.ok (withGenerated result declared.name) after)
  /-- The failure is not that of one class, and stops the run. -/
  | stopped {failure : Failure} {after : Session State}
      (visits : visitClass generator (.outside directory) declared
        (noted ("Processing " ++ declared.name) session) = .error failure after)
      (whole : failure.isIsolated = false) :
      Turned directory declared result session (.error failure after)

/-- Every turn ends in one of these ways. -/
theorem processClass_turned (folding : session.world.own.policy.action = .fold)
    (idle : session.ledger.pending = []) (declared : ClassDecl) (directory : Path)
    (result : RoundResult) : Turned directory declared result session
      (processClass generator (.outside directory) declared result session) := by
  cases spared : result.failed declared.name with
  | true =>
    rw [processClass, if_pos spared]
    exact .skipped spared
  | false =>
    have verdict := @visitClass_verdict directory declared
      (noted ("Processing " ++ declared.name) session) folding
    have steady := @visitClass_steady directory declared
      (noted ("Processing " ++ declared.name) session) folding idle
    cases visits : visitClass generator (.outside directory) declared
        (noted ("Processing " ++ declared.name) session) with
    | ok value visited =>
      rw [visits] at verdict steady
      obtain ⟨log, ran⟩ := processClass_of_ok spared visits
      have still := steady_of_noted steady log
      rw [ran]
      cases verdict with
      | known listed books =>
        rw [noted_ledger] at books listed
        simp only [books, List.drop_length, List.append_nil]
        exact .passed spared (.inl listed) rfl (books ▸ still)
      | declined enum books =>
        rw [noted_ledger] at books
        simp only [books, List.drop_length, List.append_nil]
        exact .passed spared (.inr enum) rfl (books ▸ still)
      | generated fresh books =>
        rw [noted_ledger] at books fresh
        have entered : visited.ledger.generated = session.ledger.generated ++ [declared.name] := by
          rw [books, generated_complete fresh]
        simp only [entered, List.drop_left]
        exact .generated spared fresh visits rfl entered still
    | error failure visited =>
      cases whole : failure.isIsolated with
      | false =>
        rw [processClass_stopped spared visits whole]
        exact .stopped visits whole
      | true =>
        rw [visits] at verdict steady
        obtain ⟨log, ran⟩ := processClass_of_error spared visits whole
        have still := steady_of_noted steady log
        rw [ran]
        cases verdict with
        | failed fresh books =>
          rw [noted_ledger] at books
          simp only [books, List.drop_length, List.append_nil]
          exact .failed spared visits whole rfl (books ▸ still)

/-- No class waits, so nothing follows the turn of a class. -/
theorem processWithSuperclasses_turned (folding : session.world.own.policy.action = .fold)
    (idle : session.ledger.pending = []) (declared : ClassDecl) (directory : Path)
    (result : RoundResult) : Turned directory declared result session
      (processWithSuperclasses generator (.outside directory) result declared session) := by
  have turned := processClass_turned folding idle declared directory result
  cases ran : processClass generator (.outside directory) declared result session with
  | error failure after =>
    rw [ran] at turned
    rwa [processWithSuperclasses, bind_of_error ran]
  | ok next after =>
    rw [ran] at turned
    have still : after.ledger.pending = [] := by
      cases turned with
      | skipped failed => exact idle
      | passed spared cause books steady => exact steady.idle
      | failed spared visits isolated books steady => exact steady.idle
      | generated spared fresh visits same books steady => exact steady.idle
    rwa [processWithSuperclasses_of_idle ran still]

end DelegateClasses.Delegate
