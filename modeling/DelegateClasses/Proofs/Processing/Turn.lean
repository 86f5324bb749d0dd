import DelegateClasses.Proofs.Processing.Watched

/-! The turn of one class in a round. Whatever the generator does, the turn ends
in one of four ways: the class is passed over because its fate is known, the
generator declines it, it fails, or it is completed. Only a class that is
completed changes the books, and it can put one superclass on the waiting list.
Main statement: there are no other turns. -/
namespace DelegateClasses

variable {σ α β : Type}

/-- What the step fails with concerns one class only. -/
def Hook.Isolates (step : Hook σ α) : Prop :=
  ∀ world failure after, step world = .error failure after → failure.isIsolated = true

/-- What the generator fails with concerns one class only, whichever class and
member it is handed. -/
structure Generator.Isolates (generator : Generator σ) : Prop where
  startClass : ∀ settings declared position,
    (generator.startClass settings declared position).Isolates
  method : ∀ settings method position, (generator.method settings method position).Isolates
  inheritedMethod : ∀ settings method position,
    (generator.inheritedMethod settings method position).Isolates
  field : ∀ settings field position, (generator.field settings field position).Isolates
  endClass : ∀ settings declared position,
    (generator.endClass settings declared position).Isolates

/-- The class has no members but those that a class can declare. -/
def ClassDecl.Proper (declared : ClassDecl) : Prop :=
  ∀ label, Element.foreign label ∉ declared.members

namespace Processing
open Steps

variable {generator : Generator σ} {session after : Session (Watched σ)} {declared : ClassDecl}

/-! ## Steps without effect on the books -/

/-- The books of the run and the record of the starts are as before. -/
structure Unmoved (session after : Session (Watched σ)) : Prop where
  ledger : after.ledger = session.ledger
  starts : after.starts = session.starts

theorem unmoved_trans {later : Session (Watched σ)} (first : Unmoved session after)
    (second : Unmoved after later) : Unmoved session later :=
  ⟨second.ledger.trans first.ledger, second.starts.trans first.starts⟩

/-- The step leaves the books alone, and what it fails with concerns one class only. -/
def Quiet (step : Processing (Watched σ) α) : Prop :=
  ∀ session, (∃ value after, step session = .ok value after ∧ Unmoved session after) ∨
    ∃ failure after, step session = .error failure after ∧ failure.isIsolated = true ∧
      Unmoved session after

theorem quiet_return (value : α) : Quiet (return value : Processing (Watched σ) α) :=
  fun session => .inl ⟨value, session, rfl, rfl, rfl⟩

theorem quiet_bind {step : Processing (Watched σ) α} {next : α → Processing (Watched σ) β}
    (first : Quiet step) (rest : ∀ value, Quiet (next value)) : Quiet (step >>= next) := by
  intro session
  simp only [bind, EStateM.bind]
  rcases first session with ⟨value, middle, ran, unmoved⟩ | ⟨failure, after, ran, isolated, unmoved⟩
  · rw [ran]
    rcases rest value middle with ⟨result, after, ended, further⟩ |
      ⟨failure, after, ended, isolated, further⟩
    · exact .inl ⟨result, after, ended, unmoved_trans unmoved further⟩
    · exact .inr ⟨failure, after, ended, isolated, unmoved_trans unmoved further⟩
  · rw [ran]
    exact .inr ⟨failure, after, rfl, isolated, unmoved⟩

private theorem quiet_unrecorded {step : Settings → Hook σ α}
    (isolates : ∀ settings, (step settings).Isolates) :
    Quiet (hook fun settings => (step settings).unrecorded) := by
  intro session
  simp only [hook, Hook.unrecorded]
  cases ran : step session.ledger.settings session.world.plain with
  | ok value world => exact .inl ⟨value, _, rfl, rfl, rfl⟩
  | error failure world => exact .inr ⟨failure, _, rfl, isolates _ _ _ _ ran, rfl, rfl⟩

theorem quiet_report (level : Level) (topic : Topic) (message : String) :
    Quiet (report level topic message : Processing (Watched σ) Unit) :=
  fun _ => .inl ⟨(), _, rfl, rfl, rfl⟩

theorem quiet_note (message : String) : Quiet (note message : Processing (Watched σ) Unit) :=
  fun _ => .inl ⟨(), _, rfl, rfl, rfl⟩

theorem quiet_forM {act : α → Processing (Watched σ) PUnit} (each : ∀ value, Quiet (act value))
    (values : List α) : Quiet (values.forM act) := by
  induction values with
  | nil => exact quiet_return _
  | cons value values ih => exact quiet_bind (each value) fun _ => ih

private theorem quiet_closing {step : Processing (Watched σ) α} (quiet : Quiet step)
    (declared : ClassDecl) : Quiet (closing step (generator.watched.leaveClass declared)) := by
  intro session
  simp only [closing]
  rcases quiet session with ⟨value, after, ran, unmoved⟩ | ⟨failure, after, ran, isolated, unmoved⟩
  · rw [ran]
    exact .inl ⟨value, _, rfl, unmoved.ledger, unmoved.starts⟩
  · rw [ran]
    exact .inr ⟨failure, _, rfl, isolated, unmoved.ledger, unmoved.starts⟩

/-- Members that a class can declare are taken quietly. -/
theorem visitAll_quiet (isolates : generator.Isolates) {position : Position}
    (inside : position.depth = 1) (members : List Element)
    (proper : ∀ label, Element.foreign label ∉ members) :
    Quiet (visitAll generator.watched position members) := by
  induction members with
  | nil =>
    rw [visitAll]
    exact quiet_return _
  | cons member members ih =>
    rw [visitAll]
    refine quiet_bind ?_ fun _ => ih fun label among => proper label (List.mem_cons_of_mem _ among)
    cases member with
    | nested declared =>
      rw [visit, visitClass_inside inside]
      exact quiet_note _
    | method declared =>
      rw [visit, if_pos inside]
      exact quiet_unrecorded fun settings => isolates.method settings declared position
    | field declared =>
      rw [visit, if_pos inside]
      exact quiet_unrecorded fun settings => isolates.field settings declared position
    | foreign label => exact absurd List.mem_cons_self (proper label)

private theorem foldSuperclasses_quiet (isolates : generator.Isolates) (position : Position)
    (chain : SuperclassChain) : Quiet (foldSuperclasses generator.watched position chain) := by
  refine quiet_bind (quiet_forM (fun declared => ?_) _) fun _ => ?_
  · refine quiet_bind (quiet_note _) fun _ => quiet_forM (fun method => ?_) _
    exact quiet_unrecorded fun settings => isolates.inheritedMethod settings method position
  · split
    · exact quiet_return _
    · exact quiet_report _ _ _

/-! ## The turn of a class -/

/-- The generator is asked once, and answers in one of three ways. -/
theorem recordedStart_cases (isolates : generator.Isolates) (declared : ClassDecl)
    (position : Position) (session : Session (Watched σ)) :
    ∃ start : Start, start.declared = declared ∧ ∃ after : Session (Watched σ),
      after.ledger = session.ledger ∧ after.starts = session.starts ++ [start] ∧
      let ask : Processing (Watched σ) Bool :=
        hook fun settings => generator.watched.startClass settings declared position
      (start.answer = .granted ∧ start.policy = generator.watched.policy after.world.own ∧
        ask session = .ok true after) ∨
      (start.answer = .declined ∧ ask session = .ok false after) ∨
      (start.answer = .failed ∧ ∃ failure, failure.isIsolated = true ∧
        ask session = .error failure after) := by
  simp only [hook, Generator.watched, Generator.recordedStart]
  cases ran : generator.startClass session.ledger.settings declared position session.world.plain with
  | ok generated world =>
    cases generated with
    | true =>
      exact ⟨⟨declared, .granted, generator.policy world.own⟩, rfl,
        ⟨session.ledger, world.watched (session.starts ++ [_])⟩, rfl, rfl, .inl ⟨rfl, rfl, rfl⟩⟩
    | false =>
      exact ⟨⟨declared, .declined, generator.policy world.own⟩, rfl,
        ⟨session.ledger, world.watched (session.starts ++ [_])⟩, rfl, rfl, .inr (.inl ⟨rfl, rfl⟩)⟩
  | error failure world =>
    exact ⟨⟨declared, .failed, generator.policy world.own⟩, rfl,
      ⟨session.ledger, world.watched (session.starts ++ [_])⟩, rfl, rfl,
      .inr (.inr ⟨rfl, failure, isolates.startClass _ _ _ _ _ _ ran, rfl⟩)⟩

/-- The work on a class between its start and its completion is quiet. -/
theorem membersOf_quiet (isolates : generator.Isolates) (inside : Position)
    (depth : inside.depth = 1) (members : List Element)
    (proper : ∀ label, Element.foreign label ∉ members) (declared : ClassDecl)
    (index : ClassIndex) (policy : SuperclassPolicy) (superclass : Option TypeRef) :
    Quiet (closing (do
        visitAll generator.watched inside members
        match policy.folded superclass with
        | none => pure ()
        | some superclass =>
          foldSuperclasses generator.watched inside (superclassChain index policy [] superclass)
        hook fun settings => generator.watched.endClass settings declared inside)
      (generator.watched.leaveClass declared)) := by
  refine quiet_closing (quiet_bind (visitAll_quiet isolates depth members proper) fun _ => ?_) _
  have ending : Quiet (hook fun settings =>
      generator.watched.endClass settings declared inside) :=
    quiet_unrecorded fun settings => isolates.endClass settings declared inside
  cases policy.folded superclass with
  | none => exact ending
  | some superclass => exact quiet_bind (foldSuperclasses_quiet isolates _ _) fun _ => ending

@[simp] theorem noted_starts (session : Session (Watched σ)) :
    (noted message session).starts = session.starts := rfl

/-- How the visit of a class ends that is not generated yet. -/
theorem visitClass_cases (isolates : generator.Isolates) (directory : Path)
    (proper : declared.Proper) (session : Session (Watched σ))
    (fresh : session.ledger.generated.contains declared.name = false) :
    ∃ start : Start, start.declared = declared ∧ ∃ after : Session (Watched σ),
      after.starts = session.starts ++ [start] ∧
      let visited := visitClass generator.watched (.outside directory) declared session
      (start.answer = .declined ∧ after.ledger = session.ledger ∧ visited = .ok ⟨⟩ after) ∨
      (start.answer ≠ .declined ∧ after.ledger = session.ledger ∧
        ∃ failure, failure.isIsolated = true ∧ visited = .error failure after) ∨
      (start.answer = .granted ∧
        after.ledger = completedLedger session.ledger start.policy declared ∧
        visited = .ok ⟨⟩ after) := by
  obtain ⟨start, same, begun, ledger, starts, asked⟩ :=
    recordedStart_cases isolates declared (.outside directory)
      (noted ("Start class: " ++ declared.name ++ depthText 1) session)
  obtain ⟨name, kind, superclass, modifiers, members⟩ := declared
  rw [noted_ledger] at ledger
  rw [noted_starts] at starts
  rw [visitClass, generateClass]
  simp only [Position.outside, Int.zero_add, gt_iff_lt, Int.lt_irrefl, ↓reduceIte, get_bind, fresh,
    Bool.false_eq_true, note_bind] at asked ⊢
  rcases asked with ⟨granted, policy, ran⟩ | ⟨declined, ran⟩ | ⟨failed, failure, isolated, ran⟩
  · rw [bind_of_ok ran]
    simp only [↓reduceIte, get_bind, ← policy]
    have quiet := membersOf_quiet isolates ⟨directory, name, 1⟩ rfl members proper
      ⟨name, kind, superclass, modifiers, members⟩ begun.ledger.index start.policy superclass
    rcases quiet begun with
      ⟨_, middle, worked, unmoved⟩ | ⟨failure, after, failed, isolated, unmoved⟩
    · obtain ⟨log, completed⟩ := completion_ends
        ⟨name, kind, superclass, modifiers, members⟩ start.policy
        ("End class: " ++ name ++ depthText 0) middle
      refine ⟨start, same, ⟨_, { middle.world with log }⟩, unmoved.starts.trans starts,
        .inr (.inr ⟨granted, ?_, (bind_of_ok worked).trans completed⟩)⟩
      rw [unmoved.ledger, ledger]
    · refine ⟨start, same, after, unmoved.starts.trans starts,
        .inr (.inl ⟨?_, unmoved.ledger.trans ledger, failure, isolated, bind_of_error failed⟩)⟩
      rw [granted]
      decide
  · rw [bind_of_ok ran]
    simp only [Bool.false_eq_true, ↓reduceIte]
    exact ⟨start, same, noted _ begun, starts, .inl ⟨declined, ledger, rfl⟩⟩
  · rw [bind_of_error ran]
    refine ⟨start, same, begun, starts, .inr (.inl ⟨?_, ledger, failure, isolated, rfl⟩)⟩
    rw [failed]
    decide

/-- A class that is generated already is passed over. -/
theorem visitClass_known (directory : Path) (session : Session (Watched σ))
    (known : session.ledger.generated.contains declared.name = true) :
    visitClass generator.watched (.outside directory) declared session =
      .ok ⟨⟩ (noted ("Already generated: " ++ declared.name) session) := by
  obtain ⟨name, kind, superclass, modifiers, members⟩ := declared
  rw [visitClass, generateClass]
  simp only [Position.outside, Int.zero_add, gt_iff_lt, Int.lt_irrefl, ↓reduceIte, get_bind, known]
  rfl

theorem isolate_of_ok {step : Processing σ Unit} {session after : Session σ}
    (ran : step session = .ok ⟨⟩ after) : isolate step session = .ok none after := by
  simp only [isolate, ran]

theorem isolate_of_error {step : Processing σ Unit} {session after : Session σ}
    {failure : Failure} (isolated : failure.isIsolated = true)
    (ran : step session = .error failure after) :
    isolate step session = .ok (some failure) after := by
  simp only [isolate, ran, isolated, ↓reduceIte]

/-- The result after the failure of one more class. -/
def withFailure (result : RoundResult) (name : String) (failure : Failure) : RoundResult :=
  ⟨result.generated, result.failures ++ [(name, failure)]⟩

/-- The result after the completion of one more class. -/
def withGenerated (result : RoundResult) (name : String) : RoundResult :=
  ⟨result.generated ++ [name], result.failures⟩

@[simp] theorem generated_withFailure (result : RoundResult) (name : String) (failure : Failure) :
    (withFailure result name failure).generated = result.generated := rfl

@[simp] theorem failures_withFailure (result : RoundResult) (name : String) (failure : Failure) :
    (withFailure result name failure).failures = result.failures ++ [(name, failure)] := rfl

theorem failed_withFailure (result : RoundResult) (first : String) (failure : Failure)
    (name : String) : (withFailure result first failure).failed name =
      (result.failed name || first == name) := by
  simp [RoundResult.failed, withFailure]

@[simp] theorem generated_withGenerated (result : RoundResult) (name : String) :
    (withGenerated result name).generated = result.generated ++ [name] := rfl

@[simp] theorem failures_withGenerated (result : RoundResult) (name : String) :
    (withGenerated result name).failures = result.failures := rfl

/-- The fate of the class was open, and the generator was asked to start it. -/
structure Asked (declared : ClassDecl) (result : RoundResult) (session : Session (Watched σ))
    (start : Start) (later : Session (Watched σ)) : Prop where
  spared : result.failed declared.name = false
  fresh : declared.name ∉ session.ledger.generated
  about : start.declared = declared
  starts : later.starts = session.starts ++ [start]

/-- What the turn of a class does to the result of the round and to the run. -/
inductive Turn (declared : ClassDecl) (result : RoundResult) (session : Session (Watched σ)) :
    RoundResult → Session (Watched σ) → Prop where
  /-- The class failed before or is generated already. -/
  | passed {later : Session (Watched σ)}
      (known : result.failed declared.name = true ∨ declared.name ∈ session.ledger.generated)
      (unmoved : Unmoved session later) : Turn declared result session result later
  | declined {start : Start} {later : Session (Watched σ)}
      (asked : Asked declared result session start later) (answer : start.answer = .declined)
      (ledger : later.ledger = session.ledger) : Turn declared result session result later
  | failed {start : Start} {failure : Failure} {later : Session (Watched σ)}
      (asked : Asked declared result session start later) (answer : start.answer ≠ .declined)
      (ledger : later.ledger = session.ledger) :
      Turn declared result session (withFailure result declared.name failure) later
  | completed {start : Start} {later : Session (Watched σ)}
      (asked : Asked declared result session start later) (answer : start.answer = .granted)
      (ledger : later.ledger = completedLedger session.ledger start.policy declared) :
      Turn declared result session (withGenerated result declared.name) later

/-- A class that has its turn is dealt with in one of these ways, and the round goes on. -/
theorem processClass_turn (isolates : generator.Isolates) (directory : Path)
    (proper : declared.Proper) (result : RoundResult) (session : Session (Watched σ)) :
    ∃ next after, processClass generator.watched (.outside directory) declared result session =
      .ok next after ∧ Turn declared result session next after := by
  rw [processClass]
  cases known : result.failed declared.name with
  | true => exact ⟨result, session, rfl, .passed (.inl known) ⟨rfl, rfl⟩⟩
  | false =>
    simp only [Bool.false_eq_true, ↓reduceIte, note_bind, get_bind, noted_ledger]
    cases done : session.ledger.generated.contains declared.name with
    | true =>
      have visited : visitClass generator.watched (.outside directory) declared
          (noted ("Processing " ++ declared.name) session) = _ := visitClass_known directory _ done
      rw [bind_of_ok (isolate_of_ok visited), get_bind]
      simp only [noted_ledger, List.drop_length, List.append_nil]
      exact ⟨result, _, rfl, .passed (.inr (by simpa using done)) ⟨rfl, rfl⟩⟩
    | false =>
      have fresh : declared.name ∉ session.ledger.generated := by simpa using done
      obtain ⟨start, same, after, starts, visited⟩ := visitClass_cases isolates directory proper
        (noted ("Processing " ++ declared.name) session) done
      rw [noted_starts] at starts
      rcases visited with ⟨declined, ledger, visited⟩ |
        ⟨pursuit, ledger, failure, isolated, visited⟩ | ⟨granted, ledger, visited⟩
      · rw [bind_of_ok (isolate_of_ok visited), get_bind]
        rw [noted_ledger] at ledger
        simp only [ledger, List.drop_length, List.append_nil]
        exact ⟨result, _, rfl, .declined ⟨known, fresh, same, starts⟩ declined ledger⟩
      · rw [bind_of_ok (isolate_of_error isolated visited), get_bind]
        rw [noted_ledger] at ledger
        simp only [ledger, List.drop_length, List.append_nil]
        exact ⟨_, _, rfl, .failed ⟨known, fresh, same, starts⟩ pursuit ledger⟩
      · rw [bind_of_ok (isolate_of_ok visited), get_bind]
        rw [noted_ledger] at ledger
        have entered : after.ledger.generated.drop session.ledger.generated.length =
            [declared.name] := by
          rw [ledger, generated_completedLedger _ fresh, List.drop_left]
        simp only [entered]
        exact ⟨_, _, rfl, .completed ⟨known, fresh, same, starts⟩ granted ledger⟩

end Processing

end DelegateClasses
