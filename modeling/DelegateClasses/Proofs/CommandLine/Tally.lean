import DelegateClasses.Proofs.CommandLine.Rounds
import DelegateClasses.Proofs.CommandLine.Selection
import DelegateClasses.Proofs.Delegate.Course
import Mathlib.Algebra.GroupWithZero.Nat

/-! The failures of a run, counted where they happen: at the models that are rejected and at
the visits that fail. Main statement: a run that returns counts each of them once, none keeps
another model or the classes of another name from their turn, and the exit status tells
whether there was one. -/
namespace DelegateClasses.CommandLine
open Delegate Document Processing Steps

variable {arguments : Arguments} {root : String} {files : FileTree} {paths : List String}
variable {start session after : Session State} {rounds : List (LoadedModel × RoundResult)}
variable {count : Nat}

/-- The courses of the rounds of a run, one for each model. Between two rounds only the log is
changed. -/
inductive Courses (arguments : Arguments) (root : String) :
    Session State → List (LoadedModel × List (ClassDecl × Fate)) → Session State → Prop where
  | none (session : Session State) : Courses arguments root session [] session
  | next {session middle after : Session State} {model : LoadedModel}
      {turns : List (ClassDecl × Fate)} {others : List (LoadedModel × List (ClassDecl × Fate))}
      (course : Course (.ofText (outputDirectoryFor arguments root model.path)) [] session turns
        middle) (log : Log)
      (rest : Courses arguments root ⟨middle.ledger, { middle.world with log }⟩ others after) :
      Courses arguments root session ((model, turns) :: others) after

/-- The model at a path cannot be used. -/
def Rejected (files : FileTree) (path : String) : Prop :=
  ∃ failure, load files path = .error failure

instance : DecidablePred (Rejected files) := fun path =>
  match loaded : load files path with
  | .error failure => isTrue ⟨failure, loaded⟩
  | .ok classes => isFalse fun ⟨failure, refused⟩ => by cases loaded.symm.trans refused

/-- A visit in the course of a round failed. -/
def Lost (turns : List (ClassDecl × Fate)) : Prop :=
  ∃ declared failure, (declared, .visited (some failure)) ∈ turns

/-! ## The models -/

theorem loads_isNone_iff {path : String} : (loads files path).isNone ↔ Rejected files path := by
  unfold loads Rejected
  cases load files path <;> simp [Except.toOption]

/-- The models that were passed over are those that are rejected. -/
theorem length_loads (files : FileTree) (paths : List String) :
    paths.length - (paths.filterMap (loads files)).length = paths.countP (Rejected files ·) := by
  have kept : paths.countP (fun path => decide ¬(loads files path).isSome = true) =
      paths.countP (Rejected files ·) := by
    refine List.countP_congr fun path member => ?_
    simp [← loads_isNone_iff]
  rw [List.length_filterMap_eq_countP, ← kept,
    List.length_eq_countP_add_countP (fun path => (loads files path).isSome) (l := paths)]
  omega

/-! ## The classes -/

/-- The rounds of a run take their courses. -/
theorem rounds_take_courses (folding : session.world.own.policy.action = .fold)
    (idle : session.ledger.pending = []) (ran : Rounds arguments root session rounds after) :
    ∃ courses, Courses arguments root session courses after ∧
      courses.map Prod.fst = rounds.map Prod.fst ∧
      (∀ round ∈ courses, Complete round.1.classes round.2) ∧
      rounds.map (·.2.failures.length) =
        courses.map fun round => (lostNames round.2).toFinset.card := by
  induction ran with
  | none session => exact ⟨[], .none session, rfl, fun _ none => (by cases none), rfl⟩
  | @next session middle after model result rounds ran log rest ih =>
    obtain ⟨turns, course, complete, failures, distinct, steady⟩ :=
      round_takes_course folding idle ran
    have still : Steady session ⟨middle.ledger, { middle.world with log }⟩ := steady_logged steady
    obtain ⟨courses, went, same, all, counts⟩ := ih (folding_of_steady still folding) still.idle
    refine ⟨(model, turns) :: courses, .next course log went, ?_, ?_, ?_⟩
    · rw [List.map_cons, List.map_cons, same]
    · exact List.forall_mem_cons.2 ⟨complete, all⟩
    · have here : result.failures.length = (lostNames turns).toFinset.card := by
        rw [List.toFinset_card_of_nodup distinct, failures, lostNames, List.length_map]
      rw [List.map_cons, List.map_cons, counts, here]

/-- A round has lost names just when one of its visits failed. -/
theorem card_lostNames_eq_zero_iff {turns : List (ClassDecl × Fate)} :
    (lostNames turns).toFinset.card = 0 ↔ ¬Lost turns := by
  rw [Finset.card_eq_zero, List.toFinset_eq_empty_iff, lostNames, List.map_eq_nil_iff, failuresOf,
    List.filterMap_eq_nil_iff]
  constructor
  · rintro none ⟨declared, failure, member⟩
    cases none _ member
  · rintro spared ⟨declared, _ | _ | failure⟩ member
    · rfl
    · rfl
    · exact absurd ⟨declared, failure, member⟩ spared

/-- Nothing is counted just when no model is rejected and no class failed. -/
theorem tally_eq_zero_iff {courses : List (LoadedModel × List (ClassDecl × Fate))} :
    paths.countP (Rejected files ·) +
        (courses.map fun round => (lostNames round.2).toFinset.card).sum = 0 ↔
      ¬((∃ path ∈ paths, Rejected files path) ∨ ∃ round ∈ courses, Lost round.2) := by
  rw [Nat.add_eq_zero_iff, List.countP_eq_zero, List.sum_eq_zero_iff_forall_eq_nat,
    List.forall_mem_map]
  simp only [card_lostNames_eq_zero_iff, decide_eq_true_eq, not_or, not_exists, not_and]

/-! ## The exit status -/

private theorem conclude_ends (count : Nat) (session : Session State) : ∃ after,
    conclude count session = .ok (if count = 0 then 0 else 1) after := by
  unfold conclude
  split
  · exact ⟨session, rfl⟩
  · exact ⟨_, rfl⟩

/-- The program exits with the status for the number of failures that the run gives. -/
theorem execute_of_returned {argv : List String} (parsed : parse argv = .ok arguments)
    (here : rootOf files = root)
    (returned : run arguments root (startSession files) = .ok count after) :
    (execute argv files).ending = .exited (if count = 0 then 0 else 1) := by
  obtain ⟨last, concluded⟩ := conclude_ends count after
  have ran : (run arguments (rootOf files) >>= conclude) (startSession files) =
      .ok (if count = 0 then 0 else 1) last := by
    rw [here]
    exact (bind_of_ok returned).trans concluded
  simp only [execute, parsed, ran]

/-- **The exit status tells of every failure.** A run that returns has rejected some of the
selected models and gone through a round for each of the others, in which only the classes of
a name that failed before were left out. It counts the rejected models and, for each round,
the names of which a class failed, and the program exits with 1 just when there is something
to count. -/
theorem exit_status_tells_of_failures
    (returned : run arguments root (startSession files) = .ok count after) :
    ∃ paths start courses, Prepared arguments root files paths start ∧ paths.Nodup ∧
      Courses arguments root start courses after ∧
      courses.map Prod.fst = paths.filterMap (loads files) ∧
      (∀ round ∈ courses, Complete round.1.classes round.2) ∧
      count = paths.countP (Rejected files ·) +
        (courses.map fun round => (lostNames round.2).toFinset.card).sum ∧
      ∀ argv, parse argv = .ok arguments → rootOf files = root →
        let failed := (∃ path ∈ paths, Rejected files path) ∨ ∃ round ∈ courses, Lost round.2
        ((execute argv files).ending = .exited 1 ∧ failed) ∨
          ((execute argv files).ending = .exited 0 ∧ ¬failed) := by
  have begins := run_begins arguments root files
  generalize ended : run arguments root (startSession files) = result at begins
  cases begins with
  | unselected refused => cases ended.symm.trans returned
  | unloaded selected member failed whole untouched => cases ended.symm.trans returned
  | uncollected refused untouched => cases ended.symm.trans returned
  | @prepared paths start prepared =>
    have distinct := Text.nodup_of_ascending (modelPaths_eq_ok prepared.selected).1
    rcases generateAll_ends arguments root paths.length (paths.filterMap (loads files)) start with
      ⟨rounds, last, ran, went, same⟩ | ⟨_, _, _, _, _, _, stopped, -⟩
    · obtain ⟨courses, course, models, complete, counts⟩ :=
        rounds_take_courses prepared.settled.folding prepared.settled.pending went
      rw [counts, length_loads, List.foldl_eq_apply_foldr] at ran
      cases ran.symm.trans (ended.symm.trans returned)
      refine ⟨paths, start, courses, prepared, distinct, course, models.trans same, complete, rfl,
        ?_⟩
      intro argv parsed here failed
      rw [execute_of_returned parsed here returned]
      by_cases none : failed
      · exact .inl ⟨congrArg _ (if_neg fun nothing => tally_eq_zero_iff.1 nothing none), none⟩
      · exact .inr ⟨congrArg _ (if_pos (tally_eq_zero_iff.2 none)), none⟩
    · cases stopped.symm.trans (ended.symm.trans returned)

/-- A class that fails is declared twice: it is visited and counted once, and the other class
is generated. -/
theorem lost_class_counted_once :
    let argv := ["-p", "m.model.json"]
    let files : FileTree := ⟨["w"], [(["w"], .directory), (["w", "m.model.json"], .file
      ("\x7b\"classes\":[\x7b\"name\":\"B\"\x7d," ++
        "\x7b\"name\":\"B\"\x7d,\x7b\"name\":\"p.C\"\x7d]\x7d").toUTF8)]⟩
    ∃ (arguments : Arguments) (after : Session State) (paths : List String)
        (courses : List (LoadedModel × List (ClassDecl × Fate))), parse argv = .ok arguments ∧
      run arguments "/w" (startSession files) = .ok 1 after ∧ after.ledger.generated = ["p.C"] ∧
      courses.map Prod.fst = paths.filterMap (loads files) ∧
      (∀ round ∈ courses, Complete round.1.classes round.2) ∧
      1 = paths.countP (Rejected files ·) +
        (courses.map fun round => (lostNames round.2).toFinset.card).sum ∧
      (execute argv files).ending = .exited 1 := by
  intro argv files
  let arguments : Arguments := { Arguments.default with paths := ["m.model.json"] }
  have parsed : parse argv = .ok arguments := by rfl
  have ran : value? (run arguments "/w" (startSession files)) = some 1 ∧
      (left (run arguments "/w" (startSession files))).ledger.generated = ["p.C"] := by
    decide +kernel
  obtain ⟨after, returned, generated⟩ : ∃ after, run arguments "/w" (startSession files) =
      .ok 1 after ∧ after.ledger.generated = ["p.C"] := ⟨_, eq_ok_of_value? ran.1, ran.2⟩
  obtain ⟨paths, start, courses, -, -, -, models, complete, counted, exits⟩ :=
    exit_status_tells_of_failures returned
  have here : rootOf files = "/w" := by decide +kernel
  refine ⟨arguments, after, paths, courses, parsed, returned, generated, models, complete,
    counted, ?_⟩
  rcases exits argv parsed here with ⟨one, -⟩ | ⟨zero, -⟩
  · exact one
  · have one := execute_of_returned parsed here returned
    exact absurd (Ending.exited.inj (one.symm.trans zero)) (by decide)

end DelegateClasses.CommandLine
