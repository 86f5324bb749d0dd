import DelegateClasses.Proofs.CommandLine.Preparation

/-! The rounds of a run, one for each model that was loaded. Main statements: a run that
reaches its end goes through all of them, a run that does not is stopped in one of them, and
a run returns unless a model or the template is no text. -/
namespace DelegateClasses.CommandLine
open Delegate Document FileTree Processing Steps

variable {arguments : Arguments} {root : String} {files : FileTree}
variable {session middle after : Session State} {models : List LoadedModel}
variable {rounds others : List (LoadedModel × RoundResult)}

/-- Rounds for some models, one after the other, with what each gave. Between two rounds
only the log is changed. -/
inductive Rounds (arguments : Arguments) (root : String) :
    Session State → List (LoadedModel × RoundResult) → Session State → Prop where
  | none (session : Session State) : Rounds arguments root session [] session
  | next {session middle after : Session State} {model : LoadedModel} {result : RoundResult}
      {rounds : List (LoadedModel × RoundResult)}
      (ran : process generator model.classes
        (.ofText (outputDirectoryFor arguments root model.path)) session = .ok result middle)
      (log : Log)
      (rest : Rounds arguments root ⟨middle.ledger, { middle.world with log }⟩ rounds after) :
      Rounds arguments root session ((model, result) :: rounds) after

/-- Rounds can be told apart at any model. -/
theorem rounds_append (ran : Rounds arguments root session (rounds ++ others) after) :
    ∃ middle, Rounds arguments root session rounds middle ∧
      Rounds arguments root middle others after := by
  induction rounds generalizing session with
  | nil => exact ⟨session, .none session, ran⟩
  | cons round rounds ih =>
    cases ran with
    | next first log rest =>
      obtain ⟨middle, before, behind⟩ := ih rest
      exact ⟨middle, .next first log before, behind⟩

private theorem generateModel_of_ok {model : LoadedModel} {result : RoundResult}
    (ran : process generator model.classes
      (.ofText (outputDirectoryFor arguments root model.path)) session = .ok result middle) :
    ∃ log, generateModel arguments root model session =
      .ok result.failures.length ⟨middle.ledger, { middle.world with log }⟩ := by
  unfold generateModel
  rw [bind_of_ok ran]
  exact ⟨_, rfl⟩

private theorem generateModel_of_error {model : LoadedModel} {failure : Failure}
    (ran : process generator model.classes
      (.ofText (outputDirectoryFor arguments root model.path)) session = .error failure after) :
    generateModel arguments root model session = .error failure after := by
  unfold generateModel
  rw [bind_of_error ran]

/-- All rounds reach their end, or one of them is stopped. -/
theorem generateModels_end (arguments : Arguments) (root : String) (models : List LoadedModel)
    (session : Session State) :
    (∃ rounds after, models.mapM (generateModel arguments root) session =
        .ok (rounds.map (·.2.failures.length)) after ∧
      Rounds arguments root session rounds after ∧ rounds.map Prod.fst = models) ∨
    ∃ rounds last model rest failure after,
      models.mapM (generateModel arguments root) session = .error failure after ∧
      Rounds arguments root session rounds last ∧
      rounds.map Prod.fst ++ model :: rest = models ∧
      process generator model.classes
        (.ofText (outputDirectoryFor arguments root model.path)) last = .error failure after := by
  induction models generalizing session with
  | nil => exact .inl ⟨[], session, rfl, .none session, rfl⟩
  | cons model models ih =>
    rw [List.mapM_cons]
    cases ran : process generator model.classes
        (.ofText (outputDirectoryFor arguments root model.path)) session with
    | error failure after =>
      exact .inr ⟨[], session, model, models, failure, after,
        bind_of_error (generateModel_of_error ran), .none session, rfl, ran⟩
    | ok result middle =>
      obtain ⟨log, first⟩ := generateModel_of_ok ran
      rw [bind_of_ok first]
      rcases ih ⟨middle.ledger, { middle.world with log }⟩ with ⟨rounds, after, rest, went, same⟩ |
        ⟨rounds, last, other, rest, failure, after, stopped, went, same, failed⟩
      · refine .inl ⟨(model, result) :: rounds, after, ?_, .next ran log went, by simp [same]⟩
        rw [bind_of_ok rest]
        rfl
      · refine .inr ⟨(model, result) :: rounds, last, other, rest, failure, after,
          bind_of_error stopped, .next ran log went, ?_, failed⟩
        rw [List.map_cons, List.cons_append, same]

/-- How a run ends that was prepared. -/
theorem generateAll_ends (arguments : Arguments) (root : String) (selected : Nat)
    (models : List LoadedModel) (start : Session State) :
    (∃ rounds after, generateAll arguments root selected models start =
        .ok ((rounds.map (·.2.failures.length)).foldl (· + ·) (selected - models.length)) after ∧
      Rounds arguments root start rounds after ∧ rounds.map Prod.fst = models) ∨
    ∃ rounds last model rest failure after,
      generateAll arguments root selected models start = .error failure after ∧
      Rounds arguments root start rounds last ∧
      rounds.map Prod.fst ++ model :: rest = models ∧
      process generator model.classes
        (.ofText (outputDirectoryFor arguments root model.path)) last = .error failure after := by
  unfold generateAll
  rcases generateModels_end arguments root models start with ⟨rounds, after, ran, went, same⟩ |
    ⟨rounds, last, model, rest, failure, after, stopped, went, same, failed⟩
  · refine .inl ⟨rounds, after, ?_, went, same⟩
    rw [bind_of_ok ran]
    rfl
  · exact .inr ⟨rounds, last, model, rest, failure, after, bind_of_error stopped, went, same,
      failed⟩

/-! ## What ends a run -/

/-- A session between two rounds is steady. -/
theorem steady_logged {log : Log} (steady : Steady session ⟨middle.ledger, middle.world⟩) :
    Steady session ⟨middle.ledger, { middle.world with log }⟩ :=
  ⟨steady.settings, steady.index, steady.own, steady.idle⟩

private theorem outputDirectoryFor_nameable {path : String} (plain : Plain arguments root files)
    (nameable : Nameable path) : Nameable (outputDirectoryFor arguments root path) := by
  unfold outputDirectoryFor
  simp only
  split
  · exact (splitText_nameable nameable).1
  · exact joinText_nameable plain.top plain.outputDirectory

/-- What is required of a model. -/
structure Fit (arguments : Arguments) (root : String) (model : LoadedModel) : Prop where
  proper : ∀ declared ∈ model.classes, declared.Proper
  named : ∀ declared ∈ model.classes, Nameable declared.name
  directory : Nameable (outputDirectoryFor arguments root model.path)

/-- The rounds of a run keep it steady, and fail with what single classes fail with. -/
theorem rounds_ofClass {start : Session State}
    (configured : Configured start.ledger.settings start.world.own) (steady : Steady start session)
    (fit : ∀ round ∈ rounds, Fit arguments root round.1)
    (ran : Rounds arguments root session rounds after) :
    Steady start after ∧ ∀ round ∈ rounds, AllOfClass round.2 := by
  induction ran with
  | none session => exact ⟨steady, fun _ none => (by cases none)⟩
  | @next session middle after model result rounds ran log rest ih =>
    have here := fit _ List.mem_cons_self
    have ends := process_ends (configured_steady configured steady) steady.idle here.proper
      here.directory here.named
    rw [ran] at ends
    obtain ⟨more, ofClass⟩ := ends
    obtain ⟨last, others⟩ := ih (steady_logged (steady_trans steady more))
      fun round member => fit round (List.mem_cons_of_mem _ member)
    refine ⟨last, fun round member => ?_⟩
    rcases List.mem_cons.1 member with rfl | later
    · exact ofClass
    · exact others round later

private theorem fit_of_loads {paths : List String} {path : String} {model : LoadedModel}
    (plain : Plain arguments root files)
    (selected : modelPaths files root arguments.paths arguments.excludes arguments.recursive =
      .ok paths) (member : path ∈ paths) (nameable : Nameable path)
    (loaded : loads files path = some model) : Fit arguments root model := by
  obtain ⟨classes, given, rfl⟩ := Option.map_eq_some_iff.1 loaded
  have load : load files path = .ok classes := by
    cases loading : load files path with
    | error failure =>
      rw [loading] at given
      cases given
    | ok found =>
      rw [loading] at given
      exact congrArg _ (Option.some.inj given)
  exact ⟨load_proper load, plain.classes paths selected path member classes load,
    outputDirectoryFor_nameable plain nameable⟩

/-- A model whose path holds no null character aborts a run only if it is no text. -/
theorem undecodable_of_load {path : String} {failure : Failure} (nameable : Nameable path)
    (failed : load files path = .error failure) (whole : failure.isIsolated = false) :
    Undecodable files (Path.ofText path).text ∧ failure = .undecodable := by
  by_cases wrong : Undecodable files (Path.ofText path).text
  · exact ⟨wrong, Except.error.inj (failed.symm.trans (load_undecodable wrong))⟩
  · rcases load_decodable nameable wrong with ⟨found, loaded⟩ | ⟨other, refused, isolated⟩
    · cases failed.symm.trans loaded
    · cases failed.symm.trans refused
      cases whole.symm.trans isolated

/-- The rounds of a prepared run reach their end, or the template is no text. -/
theorem prepared_ends {paths : List String} {start : Session State}
    (prepared : Prepared arguments root files paths start) (plain : Plain arguments root files)
    (named : ∀ path ∈ paths, Nameable path) :
    let models := paths.filterMap (loads files)
    let ended := generateAll arguments root paths.length models start
    ∃ rounds last, Rounds arguments root start rounds last ∧
      (∀ round ∈ rounds, AllOfClass round.2) ∧
      ((∃ count, ended = .ok count last ∧ rounds.map Prod.fst = models) ∨
        ∃ after, ended = .error .undecodable after ∧
          BadTemplate start.ledger.settings start.world.own after.world.files) := by
  intro models ended
  have configured := prepared.configured plain
  have steady := steady_refl prepared.settled.pending
  have fit (model : LoadedModel) (member : model ∈ models) : Fit arguments root model := by
    obtain ⟨path, among, loaded⟩ := List.mem_filterMap.1 member
    exact fit_of_loads plain prepared.selected among (named path among) loaded
  rcases generateAll_ends arguments root paths.length models start with
    ⟨rounds, last, ran, went, same⟩ | ⟨rounds, last, model, rest, failure, after, ran, went, same, failed⟩
  · have all (round : LoadedModel × RoundResult) (member : round ∈ rounds) :
        Fit arguments root round.1 := by
      apply fit
      rw [← same]
      exact List.mem_map_of_mem member
    obtain ⟨-, ofClass⟩ := rounds_ofClass configured steady all went
    exact ⟨rounds, last, went, ofClass, .inl ⟨_, ran, same⟩⟩
  · have all (round : LoadedModel × RoundResult) (member : round ∈ rounds) :
        Fit arguments root round.1 := by
      apply fit
      rw [← same]
      exact List.mem_append_left _ (List.mem_map_of_mem member)
    obtain ⟨still, ofClass⟩ := rounds_ofClass configured steady all went
    have here : Fit arguments root model := by
      apply fit
      rw [← same]
      exact List.mem_append_right _ List.mem_cons_self
    have ends := process_ends (configured_steady configured still) still.idle here.proper
      here.directory here.named
    rw [failed] at ends
    obtain ⟨rfl, bad⟩ := ends
    obtain ⟨released, own⟩ := still.own
    rw [still.settings, own] at bad
    exact ⟨rounds, last, went, ofClass, .inr ⟨after, ran, bad⟩⟩

/-- **What ends a run.** A run whose options all have a name and a value, and that meets no
null character, returns, unless it stops because a file is no text. If a model is no text, it
stops before any file is touched; otherwise all its rounds fail only with what single classes
fail with, and if it stops, the template is no text. -/
theorem run_stops_only_at_undecodable_input (arguments : Arguments) (root : String)
    (files : FileTree) (filled : none ∉ arguments.options) (plain : Plain arguments root files) :
    let ended := run arguments root (startSession files)
    ∃ paths, modelPaths files root arguments.paths arguments.excludes arguments.recursive =
        .ok paths ∧
      ((∃ path ∈ paths, Undecodable files (Path.ofText path).text) →
        ∃ after, ended = .error .undecodable after ∧ after.world.files = files) ∧
      ((∀ path ∈ paths, ¬ Undecodable files (Path.ofText path).text) →
        ∃ start rounds last, Prepared arguments root files paths start ∧
          Rounds arguments root start rounds last ∧
          (∀ round ∈ rounds, ∀ name failure, (name, failure) ∈ round.2.failures →
            failure.OfClass) ∧
          ((∃ count, ended = .ok count last ∧
              rounds.map Prod.fst = paths.filterMap (loads files)) ∨
            ∃ after, ended = .error .undecodable after ∧
              BadTemplate start.ledger.settings start.world.own after.world.files)) := by
  intro ended
  obtain ⟨paths, selected, named⟩ := modelPaths_nameable plain
  have begins : Begins arguments root files ended := run_begins arguments root files
  refine ⟨paths, selected, ?_, ?_⟩
  · rintro ⟨path, member, wrong⟩
    generalize ended = result at begins ⊢
    cases begins with
    | unselected refused => cases selected.symm.trans refused
    | @unloaded others other failure after again among failed whole untouched =>
      cases selected.symm.trans again
      obtain ⟨-, rfl⟩ := undecodable_of_load (named other among) failed whole
      exact ⟨after, rfl, untouched⟩
    | uncollected refused untouched =>
      obtain ⟨options, collected⟩ := collected_ok filled
      cases collected.symm.trans refused
    | prepared prepared =>
      cases selected.symm.trans prepared.selected
      cases prepared.loaded path member .undecodable (load_undecodable wrong)
  · intro fine
    generalize ended = result at begins ⊢
    cases begins with
    | unselected refused => cases selected.symm.trans refused
    | @unloaded others other failure after again among failed whole untouched =>
      cases selected.symm.trans again
      exact absurd (undecodable_of_load (named other among) failed whole).1 (fine other among)
    | uncollected refused untouched =>
      obtain ⟨options, collected⟩ := collected_ok filled
      cases collected.symm.trans refused
    | @prepared others start prepared =>
      cases selected.symm.trans prepared.selected
      obtain ⟨rounds, last, went, ofClass, ending⟩ := prepared_ends prepared plain named
      exact ⟨start, rounds, last, prepared, went, ofClass, ending⟩

/-- A class without a package fails by itself, and the run of its model is none that stops. -/
theorem class_without_package_ends_no_run :
    let arguments : Arguments := { Arguments.default with paths := ["m.model.json"] }
    let files : FileTree := ⟨["w"], [(["w"], .directory), (["w", "m.model.json"],
      .file "\x7b\"classes\":[\x7b\"name\":\"B\"\x7d]\x7d".toUTF8)]⟩
    let ended := run arguments "/w" (startSession files)
    none ∉ arguments.options ∧ Plain arguments "/w" files ∧
    ∃ start rounds last, Prepared arguments "/w" files ["/w/m.model.json"] start ∧
      Rounds arguments "/w" start rounds last ∧
      (∀ round ∈ rounds, ∀ name failure, (name, failure) ∈ round.2.failures →
        failure.OfClass) ∧
      ((∃ count, ended = .ok count last ∧
          rounds.map Prod.fst = ["/w/m.model.json"].filterMap (loads files)) ∨
        ∃ after, ended = .error .undecodable after ∧
          BadTemplate start.ledger.settings start.world.own after.world.files) := by
  intro arguments files ended
  have filled : none ∉ arguments.options := List.not_mem_nil
  have selected : modelPaths files "/w" ["m.model.json"] [] false = .ok ["/w/m.model.json"] := by
    decide +kernel
  have named : (load files "/w/m.model.json").toOption.any
      (·.all fun declared => decide (Nameable declared.name)) = true := by
    decide +kernel
  have plain : Plain arguments "/w" files := by
    constructor
    case top => decide
    case entries =>
      unfold NameableEntries
      decide
    case paths => decide
    case excludes => decide
    case outputDirectory => decide
    case options =>
      intro name value given
      cases given
    case resourcePath => decide
    case classes =>
      intro paths again path member classes loaded declared inside
      cases selected.symm.trans again
      obtain rfl := List.mem_singleton.1 member
      rw [loaded] at named
      exact of_decide_eq_true (List.all_eq_true.1 named declared inside)
  refine ⟨filled, plain, ?_⟩
  obtain ⟨paths, again, -, fine⟩ :=
    run_stops_only_at_undecodable_input arguments "/w" files filled plain
  cases selected.symm.trans again
  refine fine fun path member wrong => ?_
  obtain rfl := List.mem_singleton.1 member
  rw [load_undecodable wrong] at named
  cases named

/-- Without names and values of the options a run can stop for another reason: the value
of an option switch can be left out, and then the run stops when it collects its options. -/
theorem option_without_name_aborts_run :
    let arguments : Arguments := { Arguments.default with options := [none] }
    let files : FileTree := ⟨[], []⟩
    parse ["-A=--"] = .ok arguments ∧ Plain arguments "/" files ∧
    modelPaths files "/" arguments.paths arguments.excludes arguments.recursive = .ok [] ∧
    ∃ after, run arguments "/" (startSession files) = .error .emptyOption after := by
  intro arguments files
  have selected : modelPaths files "/" arguments.paths arguments.excludes arguments.recursive =
      .ok [] := by
    decide +kernel
  have refused : arguments.collected = .error .emptyOption := rfl
  have plain : Plain arguments "/" files := by
    constructor
    case top => decide
    case entries =>
      unfold NameableEntries
      decide
    case paths => decide
    case excludes => decide
    case outputDirectory => decide
    case options =>
      intro name value given
      cases List.mem_singleton.1 given
    case resourcePath => decide
    case classes =>
      intro paths again path member
      cases selected.symm.trans again
      cases member
  refine ⟨rfl, plain, selected, ?_⟩
  have begins := run_begins arguments "/" files
  generalize run arguments "/" (startSession files) = ended at begins ⊢
  cases begins with
  | unselected failed => cases selected.symm.trans failed
  | unloaded again member failed =>
    cases selected.symm.trans again
    cases member
  | uncollected again untouched =>
    cases refused.symm.trans again
    exact ⟨_, rfl⟩
  | prepared prepared =>
    obtain ⟨options, session, collected, -⟩ := prepared.options
    cases refused.symm.trans collected

end DelegateClasses.CommandLine
