import DelegateClasses.Proofs.Processing.Visits
import DelegateClasses.Proofs.Processing.Turn

/-! The visit of one class in two runs. Where the generator does the same with a class
in both, the visits end in the same way, whatever else the runs have done and still
have to do. Main statement: two visits in which the class is begun end alike. -/
namespace DelegateClasses
open Steps

variable {σ α : Type} {related : World σ → World σ → Prop} {agree : Failure → Failure → Prop}

/-- The steps for the members of a class do the same in related worlds. -/
structure Generator.Agrees (generator : Generator σ) (related : World σ → World σ → Prop)
    (agree : Failure → Failure → Prop) (settings : Settings) : Prop where
  report : ∀ level topic message, Steps.Agrees related agree (Hook.report level topic message)
    (Hook.report level topic message)
  method : ∀ method position, Steps.Agrees related agree
    (generator.method settings method position) (generator.method settings method position)
  inheritedMethod : ∀ method position, Steps.Agrees related agree
    (generator.inheritedMethod settings method position)
    (generator.inheritedMethod settings method position)
  field : ∀ field position, Steps.Agrees related agree
    (generator.field settings field position) (generator.field settings field position)

namespace Processing

variable {generator : Generator σ} {ledger twin : Ledger} {position : Position}
variable {declared : ClassDecl} {directory : Path} {session other : Session σ}
variable {started counterpart : World σ}

/-- The ledgers are the given ones, with the same settings, and the worlds are related. -/
structure Beside (ledger twin : Ledger) (related : World σ → World σ → Prop)
    (session other : Session σ) : Prop where
  ledger : session.ledger = ledger
  twin : other.ledger = twin
  world : related session.world other.world

private theorem hook_alike {settings : Settings} (same : session.ledger.settings = settings)
    (alike : other.ledger.settings = settings) {step : Settings → Hook σ α}
    (ended : Alike related agree (step settings session.world) (step settings other.world)) :
    Alike (Beside session.ledger other.ledger related) agree (hook step session)
      (hook step other) := by
  simp only [hook, same, alike]
  revert ended
  generalize step settings session.world = result
  generalize step settings other.world = matched
  intro ended
  cases ended with
  | ok value still => exact .ok value ⟨rfl, rfl, still⟩
  | error same still => exact .error same ⟨rfl, rfl, still⟩

private theorem hook_agrees {settings : Settings} (same : ledger.settings = settings)
    (alike : twin.settings = settings) {step : Settings → Hook σ α}
    (each : Steps.Agrees related agree (step settings) (step settings)) :
    Steps.Agrees (Beside ledger twin related) agree (hook step) (hook step) := by
  rintro session other ⟨rfl, rfl, close⟩
  exact hook_alike same alike (each _ _ close)

/-- What remains to be done for a class that was begun, until it is given up. -/
def remainder (generator : Generator σ) (directory : Path) (declared : ClassDecl)
    (index : ClassIndex) (policy : SuperclassPolicy) : Processing σ Unit :=
  handMembers generator (Position.within directory declared) index policy declared >>= fun _ =>
    hook fun settings => generator.endClass settings declared (Position.within directory declared)

section Members

variable {settings : Settings} (agrees : generator.Agrees related agree settings)
variable (same : ledger.settings = settings) (alike : twin.settings = settings)

include agrees same alike

private theorem note_agrees (message : String) : Steps.Agrees (Beside ledger twin related) agree
    (note message) (note message) := by
  unfold note
  exact hook_agrees same alike (agrees.report _ _ _)

private theorem visitAll_agrees (inside : position.depth = 1) (members : List Element)
    (proper : ∀ label, Element.foreign label ∉ members) :
    Steps.Agrees (Beside ledger twin related) agree (visitAll generator position members)
      (visitAll generator position members) := by
  induction members with
  | nil =>
    rw [visitAll]
    exact agrees_return _
  | cons member members ih =>
    rw [visitAll]
    refine agrees_bind ?_ fun _ =>
      ih fun label among => proper label (List.mem_cons_of_mem _ among)
    cases member with
    | nested declared =>
      rw [visit, visitClass_inside inside]
      exact note_agrees agrees same alike _
    | method declared =>
      rw [visit, if_pos inside]
      exact hook_agrees same alike (agrees.method declared position)
    | field declared =>
      rw [visit, if_pos inside]
      exact hook_agrees same alike (agrees.field declared position)
    | foreign label => exact absurd List.mem_cons_self (proper label)

private theorem foldSuperclasses_agrees (position : Position) (chain : SuperclassChain) :
    Steps.Agrees (Beside ledger twin related) agree
      (foldSuperclasses generator position chain) (foldSuperclasses generator position chain) := by
  refine agrees_bind (agrees_forM (fun declared => ?_) _) fun _ => ?_
  · refine agrees_bind (note_agrees agrees same alike _) fun _ => agrees_forM (fun method => ?_) _
    exact hook_agrees same alike (agrees.inheritedMethod method position)
  · split
    · exact agrees_return _
    · unfold reportUndeclared report
      exact hook_agrees same alike (agrees.report _ _ _)

theorem handMembers_agrees (inside : position.depth = 1) (index : ClassIndex)
    (policy : SuperclassPolicy) (proper : declared.Proper) :
    Steps.Agrees (Beside ledger twin related) agree
      (handMembers generator position index policy declared)
      (handMembers generator position index policy declared) := by
  refine agrees_bind (visitAll_agrees agrees same alike inside _ proper) fun _ => ?_
  split
  · exact agrees_return _
  · exact foldSuperclasses_agrees agrees same alike _ _

/-- A class that was begun is handed the same members, and ended, with the same result. -/
theorem remainder_alike {ended : World σ → World σ → Prop} (index : ClassIndex)
    (policy : SuperclassPolicy) (proper : declared.Proper)
    (loosen : ∀ world counterpart, related world counterpart → ended world counterpart)
    (closes : ∀ position world counterpart, related world counterpart → Alike ended agree
      (generator.endClass settings declared position world)
      (generator.endClass settings declared position counterpart))
    (begun : related started counterpart) :
    Alike (Beside ledger twin ended) agree
      (remainder generator directory declared index policy ⟨ledger, started⟩)
      (remainder generator directory declared index policy ⟨twin, counterpart⟩) := by
  refine alike_then (fun _ _ beside => ⟨beside.ledger, beside.twin, loosen _ _ beside.world⟩)
    (handMembers_agrees agrees same alike rfl index policy proper _ _ ⟨rfl, rfl, begun⟩) ?_
  rintro _ session other ⟨rfl, rfl, close⟩
  exact hook_alike same alike (closes _ _ _ close)

end Members

/-- Nothing follows where the generator declines a class. -/
theorem visitClass_declined (fresh : declared.name ∉ session.ledger.generated)
    (start : generator.startClass session.ledger.settings declared (.outside directory)
      (asked declared session) = .ok false started) :
    ∃ message, visitClass generator (.outside directory) declared session =
      .ok ⟨⟩ (noted message ⟨session.ledger, started⟩) := by
  have visit := visitClass_ends generator directory declared session
  generalize visitClass generator (.outside directory) declared session = visited at visit ⊢
  cases visit with
  | known listed message => exact absurd listed fresh
  | declined fresh begun message =>
    cases start.symm.trans begun
    exact ⟨message, rfl⟩
  | refused fresh begun => cases start.symm.trans begun
  | abandoned fresh begun members => cases start.symm.trans begun
  | unfinished fresh begun members ending => cases start.symm.trans begun
  | completed fresh begun members ending log => cases start.symm.trans begun

/-- Nothing follows where the start of a class fails. -/
theorem visitClass_refused {failure : Failure} (fresh : declared.name ∉ session.ledger.generated)
    (start : generator.startClass session.ledger.settings declared (.outside directory)
      (asked declared session) = .error failure started) :
    visitClass generator (.outside directory) declared session =
      .error failure ⟨session.ledger, started⟩ := by
  have visit := visitClass_ends generator directory declared session
  generalize visitClass generator (.outside directory) declared session = visited at visit ⊢
  cases visit with
  | known listed message => exact absurd listed fresh
  | declined fresh begun message => cases start.symm.trans begun
  | refused fresh begun =>
    cases start.symm.trans begun
    rfl
  | abandoned fresh begun members => cases start.symm.trans begun
  | unfinished fresh begun members ending => cases start.symm.trans begun
  | completed fresh begun members ending log => cases start.symm.trans begun

/-- A class that is begun ends as what remains to be done for it. -/
theorem visitClass_begun (fresh : declared.name ∉ session.ledger.generated)
    (start : generator.startClass session.ledger.settings declared (.outside directory)
      (asked declared session) = .ok true started) :
    let rest := remainder generator directory declared session.ledger.index
      (generator.policy started.own) ⟨session.ledger, started⟩
    let visited := visitClass generator (.outside directory) declared session
    (∃ failure ended, rest = .error failure ⟨session.ledger, ended⟩ ∧
      visited = .error failure ⟨session.ledger, generator.leaveClass declared ended⟩) ∨
    ∃ ended log, rest = .ok ⟨⟩ ⟨session.ledger, ended⟩ ∧
      visited = .ok ⟨⟩ ⟨completedLedger session.ledger (generator.policy started.own) declared,
        { generator.leaveClass declared ended with log }⟩ := by
  intro rest visited
  have visit : Visit generator directory declared session visited :=
    visitClass_ends generator directory declared session
  generalize visited = result at visit ⊢
  cases visit with
  | known listed message => exact absurd listed fresh
  | declined fresh begun message => cases start.symm.trans begun
  | refused fresh begun => cases start.symm.trans begun
  | abandoned fresh begun members =>
    cases start.symm.trans begun
    exact .inl ⟨_, _, bind_of_error members, rfl⟩
  | unfinished fresh begun members ending =>
    cases start.symm.trans begun
    exact .inl ⟨_, _, (bind_of_ok members).trans (hook_of_error ending), rfl⟩
  | completed fresh begun members ending log =>
    cases start.symm.trans begun
    exact .inr ⟨_, log, (bind_of_ok members).trans (hook_of_ok ending), rfl⟩

/-- A class whose fate is open is visited. If it fails, and concerns no other class, its
failure is added to the others, and the round goes on. -/
theorem processClass_eq {result : RoundResult} (spared : result.failed declared.name = false)
    {visited : EStateM.Result Failure (Session σ) Unit}
    (visits : visitClass generator position declared
      (noted ("Processing " ++ declared.name) session) = visited)
    (isolated : ∀ failure ∈ failure? visited, failure.isIsolated = true) :
    ∃ log, processClass generator position declared result session = .ok
      ⟨result.generated ++ (left visited).ledger.generated.drop session.ledger.generated.length,
        result.failures ++ (failure? visited).toList.map fun failure => (declared.name, failure)⟩
      ⟨(left visited).ledger, { (left visited).world with log }⟩ := by
  rw [processClass, if_neg (by simp [spared]), note_bind, get_bind]
  cases visited with
  | ok value after =>
    rw [bind_of_ok (isolate_of_ok visits), get_bind]
    simp only [failure?, Option.toList_none, List.map_nil, List.append_nil]
    exact ⟨after.world.log, rfl⟩
  | error failure after =>
    rw [bind_of_ok (isolate_of_error (isolated failure rfl) visits), get_bind]
    exact ⟨_, rfl⟩

theorem processClass_of_ok {result : RoundResult} {after : Session σ}
    (spared : result.failed declared.name = false)
    (visits : visitClass generator position declared
      (noted ("Processing " ++ declared.name) session) = .ok ⟨⟩ after) :
    ∃ log, processClass generator position declared result session = .ok
      ⟨result.generated ++ after.ledger.generated.drop session.ledger.generated.length,
        result.failures⟩ ⟨after.ledger, { after.world with log }⟩ := by
  obtain ⟨log, ran⟩ := processClass_eq spared visits fun _ none => (by cases none)
  simp only [failure?, Option.toList_none, List.map_nil, List.append_nil] at ran
  exact ⟨log, ran⟩

theorem processClass_of_error {result : RoundResult} {failure : Failure} {after : Session σ}
    (spared : result.failed declared.name = false)
    (visits : visitClass generator position declared
      (noted ("Processing " ++ declared.name) session) = .error failure after)
    (isolated : failure.isIsolated = true) :
    ∃ log, processClass generator position declared result session = .ok
      ⟨result.generated ++ after.ledger.generated.drop session.ledger.generated.length,
        result.failures ++ [(declared.name, failure)]⟩
      ⟨after.ledger, { after.world with log }⟩ := by
  obtain ⟨log, ran⟩ := processClass_eq spared visits fun other same => by
    cases same
    exact isolated
  exact ⟨log, ran⟩

/-- A class whose failure concerns others stops the run. -/
theorem processClass_stopped {result : RoundResult} {failure : Failure} {after : Session σ}
    (spared : result.failed declared.name = false)
    (visits : visitClass generator position declared
      (noted ("Processing " ++ declared.name) session) = .error failure after)
    (whole : failure.isIsolated = false) :
    processClass generator position declared result session = .error failure after := by
  have stopped : isolate (visitClass generator position declared)
      (noted ("Processing " ++ declared.name) session) = .error failure after := by
    simp only [isolate, visits, whole, Bool.false_eq_true, ↓reduceIte]
  rw [processClass, if_neg (by simp [spared]), note_bind, get_bind, bind_of_error stopped]

/-- Where no class waits nothing follows. -/
theorem drain_idle (fuel : Nat) (result : RoundResult) (idle : session.ledger.pending = []) :
    drain generator position fuel result session = .ok result session := by
  cases fuel with
  | zero => rfl
  | succ fuel =>
    rw [drain, get_bind, idle]
    rfl

/-- Nothing follows the turn of a class behind which no class waits. -/
theorem processWithSuperclasses_of_idle {result next : RoundResult} {after : Session σ}
    (ran : processClass generator position declared result session = .ok next after)
    (idle : after.ledger.pending = []) :
    processWithSuperclasses generator position result declared session = .ok next after := by
  rw [processWithSuperclasses, bind_of_ok ran, get_bind, drain_idle _ _ idle]

end Processing

end DelegateClasses
