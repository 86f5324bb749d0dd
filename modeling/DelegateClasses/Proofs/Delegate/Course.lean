import DelegateClasses.Proofs.Delegate.Verdicts
import Mathlib.Data.Finset.Card

/-! The course of a round, told from the visits of its classes alone. Every class has a turn,
and it is visited unless a class of its name failed earlier in the round. Main statement: a
round that reaches its end takes such a course, and the failures that it reports are those of
the visits, one for each name. -/
namespace DelegateClasses.Delegate
open Steps Processing

variable {directory : Path} {declared : ClassDecl} {classes : List ClassDecl}
variable {session middle after : Session State} {result next : RoundResult}

/-- What became of a class in its turn. -/
inductive Fate where
  /-- A class of its name failed before, and it was not visited. -/
  | leftOut
  /-- It was visited, and failed or did not. -/
  | visited (failure? : Option Failure)

/-- The failures of the classes that were visited. -/
def failuresOf (turns : List (ClassDecl × Fate)) : List (String × Failure) :=
  turns.filterMap fun
    | (declared, .visited (some failure)) => some (declared.name, failure)
    | _ => none

/-- The names of the classes whose visit failed. -/
def lostNames (turns : List (ClassDecl × Fate)) : List String :=
  (failuresOf turns).map Prod.fst

variable {lost : List String} {turns front rear : List (ClassDecl × Fate)} {fate : Fate}

/-- The turns of a round, from a session on, when classes of the names `lost` failed before.
Between two turns only the log is changed. -/
inductive Course (directory : Path) :
    List String → Session State → List (ClassDecl × Fate) → Session State → Prop where
  | none (lost : List String) (session : Session State) : Course directory lost session [] session
  | leftOut {lost : List String} {declared : ClassDecl} {session after : Session State}
      {turns : List (ClassDecl × Fate)} (known : declared.name ∈ lost)
      (rest : Course directory lost session turns after) :
      Course directory lost session ((declared, .leftOut) :: turns) after
  | passed {lost : List String} {declared : ClassDecl} {session middle after : Session State}
      {turns : List (ClassDecl × Fate)} (spared : declared.name ∉ lost)
      (visits : visitClass generator (.outside directory) declared
        (noted ("Processing " ++ declared.name) session) = .ok ⟨⟩ middle) (log : Log)
      (rest : Course directory lost ⟨middle.ledger, { middle.world with log }⟩ turns after) :
      Course directory lost session ((declared, .visited .none) :: turns) after
  | failed {lost : List String} {declared : ClassDecl} {session middle after : Session State}
      {failure : Failure} {turns : List (ClassDecl × Fate)} (spared : declared.name ∉ lost)
      (visits : visitClass generator (.outside directory) declared
        (noted ("Processing " ++ declared.name) session) = .error failure middle)
      (isolated : failure.isIsolated = true) (log : Log)
      (rest : Course directory (lost ++ [declared.name])
        ⟨middle.ledger, { middle.world with log }⟩ turns after) :
      Course directory lost session ((declared, .visited (some failure)) :: turns) after

/-- All classes have their turn, and only those of a name that failed before are left out. -/
structure Complete (classes : List ClassDecl) (turns : List (ClassDecl × Fate)) : Prop where
  all : turns.map Prod.fst = classes
  leftOut : ∀ front declared fate rear, turns = front ++ (declared, fate) :: rear →
    (fate = .leftOut ↔ declared.name ∈ lostNames front)

/-! ## What a course tells -/

theorem failuresOf_cons (turn : ClassDecl × Fate) (turns : List (ClassDecl × Fate)) :
    failuresOf (turn :: turns) = failuresOf [turn] ++ failuresOf turns :=
  List.filterMap_append (l := [turn])

theorem lostNames_cons (turn : ClassDecl × Fate) (turns : List (ClassDecl × Fate)) :
    lostNames (turn :: turns) = lostNames [turn] ++ lostNames turns := by
  rw [lostNames, failuresOf_cons, List.map_append]
  rfl

/-- No name is lost twice. -/
theorem nodup_lostNames (course : Course directory lost session turns after)
    (distinct : lost.Nodup) : (lost ++ lostNames turns).Nodup := by
  induction course with
  | none lost session =>
    rwa [lostNames, failuresOf, List.filterMap_nil, List.map_nil, List.append_nil]
  | leftOut known rest ih => exact ih distinct
  | passed spared visits log rest ih => exact ih distinct
  | @failed lost declared session middle after failure turns spared visits isolated log rest ih =>
    rw [lostNames_cons, ← List.append_assoc]
    exact ih (List.nodup_append.2 ⟨distinct, List.nodup_singleton _, fun name member other same =>
      fun equal => spared (by rwa [← List.mem_singleton.1 same, ← equal])⟩)

/-- A class is left out just when one of its name failed before. -/
theorem leftOut_iff
    (course : Course directory lost session (front ++ (declared, fate) :: rear) after) :
    fate = .leftOut ↔ declared.name ∈ lost ++ lostNames front := by
  -- Along the turns before it, the names that were lost so far are those of the course.
  induction front generalizing lost session with
  | nil =>
    rw [lostNames, failuresOf, List.filterMap_nil, List.map_nil, List.append_nil]
    cases course with
    | leftOut known rest => exact iff_of_true rfl known
    | passed spared visits log rest => exact iff_of_false (by simp) spared
    | failed spared visits isolated log rest => exact iff_of_false (by simp) spared
  | cons turn front ih =>
    cases course with
    | leftOut known rest => exact ih rest
    | passed spared visits log rest => exact ih rest
    | failed spared visits isolated log rest =>
      rw [lostNames_cons, ← List.append_assoc]
      exact ih rest

/-! ## The turns of a round -/

theorem failed_iff : result.failed name = true ↔ name ∈ result.failures.map Prod.fst := by
  simp [RoundResult.failed]

/-- A turn that does not stop the run is the first of a course, whatever turns follow. -/
theorem course_cons (folding : session.world.own.policy.action = .fold)
    (idle : session.ledger.pending = [])
    (ran : processWithSuperclasses generator (.outside directory) result declared session =
      .ok next middle) :
    Steady session middle ∧ ∃ fate,
      next.failures = result.failures ++ failuresOf [(declared, fate)] ∧ ∀ turns after,
        Course directory (next.failures.map Prod.fst) middle turns after →
        Course directory (result.failures.map Prod.fst) session ((declared, fate) :: turns)
          after := by
  cases spared : result.failed declared.name with
  | true =>
    have passed : processClass generator (.outside directory) declared result session =
        .ok result session := by
      rw [processClass, if_pos spared]
      rfl
    cases ran.symm.trans (processWithSuperclasses_of_idle passed idle)
    exact ⟨steady_refl idle, .leftOut, (List.append_nil _).symm,
      fun _ _ => .leftOut (failed_iff.1 spared)⟩
  | false =>
    have unlost : declared.name ∉ result.failures.map Prod.fst := by
      rw [← failed_iff, spared]
      decide
    have steady := @visitClass_steady directory declared
      (noted ("Processing " ++ declared.name) session) folding idle
    cases visits : visitClass generator (.outside directory) declared
        (noted ("Processing " ++ declared.name) session) with
    | ok value visited =>
      rw [visits] at steady
      obtain ⟨log, first⟩ := processClass_of_ok spared visits
      have still := steady_of_noted steady log
      cases ran.symm.trans (processWithSuperclasses_of_idle first still.idle)
      exact ⟨still, .visited none, (List.append_nil _).symm, fun _ _ => .passed unlost visits log⟩
    | error failure visited =>
      rw [visits] at steady
      cases whole : failure.isIsolated with
      | false =>
        have stopped := processClass_stopped spared visits whole
        rw [processWithSuperclasses, bind_of_error stopped] at ran
        cases ran
      | true =>
        obtain ⟨log, first⟩ := processClass_of_error spared visits whole
        have still := steady_of_noted steady log
        cases ran.symm.trans (processWithSuperclasses_of_idle first still.idle)
        refine ⟨still, .visited (some failure), rfl, fun _ _ rest => ?_⟩
        rw [List.map_append] at rest
        exact .failed unlost visits whole log rest

theorem folding_of_steady (steady : Steady session after)
    (folding : session.world.own.policy.action = .fold) :
    after.world.own.policy.action = .fold := by
  obtain ⟨released, own⟩ := steady.own
  rw [own]
  exact folding

/-- A round that reaches its end takes its course. -/
theorem course_of_fold (folding : session.world.own.policy.action = .fold)
    (idle : session.ledger.pending = [])
    (ran : classes.foldlM (processWithSuperclasses generator (.outside directory)) result session =
      .ok next after) :
    ∃ turns, Course directory (result.failures.map Prod.fst) session turns after ∧
      turns.map Prod.fst = classes ∧ next.failures = result.failures ++ failuresOf turns ∧
      Steady session after := by
  induction classes generalizing session result with
  | nil =>
    cases ran
    exact ⟨[], .none _ _, rfl, (List.append_nil _).symm, steady_refl idle⟩
  | cons declared classes ih =>
    rw [List.foldlM_cons] at ran
    obtain ⟨between, middle, first, rest⟩ := bind_eq_ok ran
    obtain ⟨steady, fate, more, leads⟩ := course_cons folding idle first
    obtain ⟨turns, course, same, failures, last⟩ :=
      ih (folding_of_steady steady folding) steady.idle rest
    refine ⟨(declared, fate) :: turns, leads turns after course, by rw [List.map_cons, same], ?_,
      steady_trans steady last⟩
    rw [failures, more, failuresOf_cons (declared, fate) turns, List.append_assoc]

/-- **A round that reaches its end takes a course.** All its classes have a turn, only those of
a name that failed before are left out, and the failures that it reports are those of the
visits, with no name twice. -/
theorem round_takes_course (folding : session.world.own.policy.action = .fold)
    (idle : session.ledger.pending = [])
    (ran : process generator classes directory session = .ok result after) :
    ∃ turns, Course directory [] session turns after ∧ Complete classes turns ∧
      result.failures = failuresOf turns ∧ (lostNames turns).Nodup ∧ Steady session after := by
  obtain ⟨turns, course, all, failures, steady⟩ := course_of_fold folding idle ran
  refine ⟨turns, course, ⟨all, ?_⟩, failures, nodup_lostNames course .nil, steady⟩
  rintro front declared fate rear rfl
  exact leftOut_iff course

end DelegateClasses.Delegate
