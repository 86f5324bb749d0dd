import DelegateClasses.CommandLine.Run
import DelegateClasses.Proofs.Declaration.Index
import DelegateClasses.Proofs.Delegate.Failures

/-! What a run does before its first round. The models are selected and loaded, and the
options are taken. Main statement: nothing of this touches a file, and it fails only with a
model that is no text, or an option that says nothing. -/
namespace DelegateClasses.CommandLine
open Delegate Document FileTree Processing Steps

variable {arguments : Arguments} {root path : String} {files : FileTree} {paths : List String}
variable {session after : Session State} {failure : Failure} {name value : String}
variable {options : List (String × String)}

/-! ## Selection -/

/-- No path, option or name of a class that a run meets holds a null character. -/
structure Plain (arguments : Arguments) (root : String) (files : FileTree) : Prop where
  top : Nameable root
  entries : files.NameableEntries
  paths : ∀ path ∈ arguments.paths, Nameable path
  excludes : ∀ path ∈ arguments.excludes, Nameable path
  outputDirectory : Nameable (arguments.outputDirectory.getD "")
  options : ∀ name value, some (name, value) ∈ arguments.options → Nameable value
  resourcePath : Nameable (arguments.resourcePath.getD "")
  classes : ∀ paths, modelPaths files root arguments.paths arguments.excludes arguments.recursive =
    .ok paths → ∀ path ∈ paths, ∀ classes, load files path = .ok classes →
      ∀ declared ∈ classes, Nameable declared.name

private theorem excludedBy_nameable (top : Nameable root) (entries : files.NameableEntries)
    (recursive : Bool) (nameable : Nameable path) :
    ∃ found, excludedBy files root recursive path = .ok found ∧ ∀ path ∈ found, Nameable path := by
  have joined := joinText_nameable top nameable
  unfold excludedBy
  simp only
  split
  · refine ⟨_, rfl, fun other member => ?_⟩
    rwa [List.mem_singleton.1 member]
  · exact matching_nameable entries recursive joined

private theorem includedBy_nameable (top : Nameable root) (entries : files.NameableEntries)
    (recursive : Bool) (nameable : Nameable path) :
    ∃ found, includedBy files root recursive path = .ok found ∧ ∀ path ∈ found, Nameable path := by
  have joined := joinText_nameable top nameable
  unfold includedBy
  simp only
  split
  · refine ⟨_, rfl, fun other member => ?_⟩
    have inside := (List.mem_filter.1 member).1
    split at inside
    · exact filesBelow_nameable entries _ joined other inside
    · exact filesIn_nameable entries joined other inside
  · exact matching_nameable entries recursive joined

/-- The selection, given what the inclusions and the exclusions stand for. -/
theorem modelPaths_of_ok {excludes : List String} {recursive : Bool}
    {included excluded : List (List String)}
    (taking : paths.mapM (includedBy files root recursive) = .ok included)
    (leaving : excludes.mapM (excludedBy files root recursive) = .ok excluded) :
    modelPaths files root paths excludes recursive =
      .ok (Text.ascendingOnce (included.flatten.filter (!excluded.flatten.contains ·))) := by
  unfold modelPaths
  rw [leaving]
  change (paths.mapM (includedBy files root recursive) >>= _) = _
  rw [taking]
  rfl

/-- Without null characters models are selected, and their paths hold none. -/
theorem modelPaths_ok {excludes : List String} (top : Nameable root)
    (entries : files.NameableEntries) (including : ∀ path ∈ paths, Nameable path)
    (excluding : ∀ path ∈ excludes, Nameable path) (recursive : Bool) :
    ∃ found, modelPaths files root paths excludes recursive = .ok found ∧
      ∀ path ∈ found, Nameable path := by
  obtain ⟨excluded, leaving, -⟩ := mapM_ok fun path member =>
    excludedBy_nameable top entries recursive (excluding path member)
  obtain ⟨included, taking, named⟩ := mapM_ok fun path member =>
    includedBy_nameable top entries recursive (including path member)
  refine ⟨_, modelPaths_of_ok taking leaving, fun path member => ?_⟩
  have inside := (List.mem_filter.1 (Text.mem_ascendingOnce.1 member)).1
  obtain ⟨found, among, within⟩ := List.mem_flatten.1 inside
  exact named found among path within

theorem modelPaths_nameable (plain : Plain arguments root files) :
    ∃ paths, modelPaths files root arguments.paths arguments.excludes arguments.recursive =
      .ok paths ∧ ∀ path ∈ paths, Nameable path :=
  modelPaths_ok plain.top plain.entries plain.paths plain.excludes arguments.recursive

/-! ## Loading -/

/-- What the loading of a model gives: nothing if it cannot be used. -/
def loads (files : FileTree) (path : String) : Option LoadedModel :=
  (load files path).toOption.map fun classes => ⟨path, classes⟩

/-- The index with the classes of some models. -/
def indexed (index : ClassIndex) (models : List LoadedModel) : ClassIndex :=
  (index.addAll (models.flatMap (·.classes))).1

theorem indexed_append (index : ClassIndex) (models others : List LoadedModel) :
    indexed index (models ++ others) = indexed (indexed index models) others := by
  rw [indexed, indexed, indexed, List.flatMap_append, ← ClassIndex.addAll_append]

/-- The models are in the index, and nothing else was changed but the log. -/
structure Entered (models : List LoadedModel) (session after : Session State) : Prop where
  index : after.ledger.index = indexed session.ledger.index models
  settings : after.ledger.settings = session.ledger.settings
  generated : after.ledger.generated = session.ledger.generated
  pending : after.ledger.pending = session.ledger.pending
  files : after.world.files = session.world.files
  own : after.world.own = session.world.own

theorem entered_trans {models others : List LoadedModel} {later : Session State}
    (first : Entered models session after) (second : Entered others after later) :
    Entered (models ++ others) session later where
  index := by rw [second.index, first.index, indexed_append]
  settings := second.settings.trans first.settings
  generated := second.generated.trans first.generated
  pending := second.pending.trans first.pending
  files := second.files.trans first.files
  own := second.own.trans first.own

theorem entered_nil (log : Log) (session : Session State) :
    Entered [] session ⟨session.ledger, { session.world with log }⟩ :=
  ⟨rfl, rfl, rfl, rfl, rfl, rfl⟩

/-- Reports leave everything but the log alone. -/
theorem reportRepeated_ends (names : List String) (session : Session State) :
    ∃ after, reportRepeated names session = .ok ⟨⟩ after ∧ Entered [] session after := by
  unfold reportRepeated
  induction names generalizing session with
  | nil => exact ⟨session, rfl, ⟨rfl, rfl, rfl, rfl, rfl, rfl⟩⟩
  | cons name names ih =>
    obtain ⟨after, ran, entered⟩ := ih ⟨session.ledger, { session.world with
      log := session.world.log.add ⟨.warning, .model,
        "Class '" ++ name ++ "' is declared more than once, keeping the last declaration."⟩ }⟩
    exact ⟨after, ran, entered_trans (entered_nil _ session) entered⟩

private theorem readModel_of_error (failed : load session.world.files path = .error failure) :
    readModel path session = .error failure session := by
  rw [readModel, get_bind, failed]
  rfl

private theorem readModel_of_ok {classes : List ClassDecl}
    (loaded : load session.world.files path = .ok classes) :
    ∃ after, readModel path session = .ok classes after ∧ Entered [] session after := by
  rw [readModel, get_bind, loaded]
  exact ⟨_, rfl, entered_nil _ session⟩

private theorem declare_ends (classes : List ClassDecl) (session : Session State) :
    ∃ after, declare classes session = .ok ⟨⟩ after ∧ Entered [⟨path, classes⟩] session after := by
  obtain ⟨after, ran, entered⟩ := reportRepeated_ends (session.ledger.index.addAll classes).2
    ⟨{ session.ledger with index := (session.ledger.index.addAll classes).1 }, session.world⟩
  have index : indexed session.ledger.index [⟨path, classes⟩] =
      (session.ledger.index.addAll classes).1 := by
    simp only [indexed, List.flatMap_cons, List.flatMap_nil, List.append_nil]
  refine ⟨after, ran, ?_, entered.settings, entered.generated, entered.pending, entered.files,
    entered.own⟩
  rw [index, entered.index]
  rfl

/-- A model is loaded and entered, or passed over, or aborts the run. -/
theorem loadModel_ends (path : String) (session : Session State) :
    ((∀ failure, load session.world.files path = .error failure → failure.isIsolated = true) ∧
      ∃ after, loadModel path session = .ok (loads session.world.files path) after ∧
        Entered (loads session.world.files path).toList session after) ∨
    ∃ failure, load session.world.files path = .error failure ∧ failure.isIsolated = false ∧
      loadModel path session = .error failure session := by
  unfold loadModel
  cases loaded : load session.world.files path with
  | error failure =>
    have nothing : loads session.world.files path = none := by
      rw [loads, loaded]
      rfl
    rw [readModel_of_error loaded, nothing]
    cases isolated : failure.isIsolated with
    | false =>
      refine .inr ⟨failure, rfl, isolated, ?_⟩
      simp only [isolated, Bool.false_eq_true, ↓reduceIte]
    | true =>
      simp only [isolated, ↓reduceIte]
      refine .inl ⟨fun other same => ?_, _, rfl, entered_nil _ session⟩
      cases same
      exact isolated
  | ok classes =>
    have model : loads session.world.files path = some ⟨path, classes⟩ := by
      rw [loads, loaded]
      rfl
    obtain ⟨read, ran, first⟩ := readModel_of_ok loaded
    obtain ⟨after, declared, second⟩ := @declare_ends path classes read
    rw [ran, model]
    refine .inl ⟨fun other same => (by cases same), after, ?_, entered_trans first second⟩
    simp only [bind_of_ok declared]
    rfl

/-- The models at some paths are loaded and entered, or one of them aborts the run. -/
theorem loadModels_end (paths : List String) (session : Session State) :
    ((∀ path ∈ paths, ∀ failure, load session.world.files path = .error failure →
        failure.isIsolated = true) ∧
      ∃ after, paths.mapM loadModel session = .ok (paths.map (loads session.world.files)) after ∧
        Entered (paths.filterMap (loads session.world.files)) session after) ∨
    ∃ path ∈ paths, ∃ failure after, load session.world.files path = .error failure ∧
      failure.isIsolated = false ∧ paths.mapM loadModel session = .error failure after ∧
      after.world.files = session.world.files := by
  induction paths generalizing session with
  | nil => exact .inl ⟨fun _ none => (by cases none), session, rfl, ⟨rfl, rfl, rfl, rfl, rfl, rfl⟩⟩
  | cons path paths ih =>
    rw [List.mapM_cons]
    rcases loadModel_ends path session with ⟨here, middle, ran, entered⟩ |
      ⟨failure, failed, whole, ran⟩
    · rw [bind_of_ok ran]
      have rest := ih middle
      rw [entered.files] at rest
      rcases rest with ⟨others, after, rest, more⟩ |
        ⟨other, member, failure, after, failed, whole, rest, same⟩
      · refine .inl ⟨fun other member => ?_, after, ?_, ?_⟩
        · rcases List.mem_cons.1 member with rfl | later
          · exact here
          · exact others other later
        · rw [bind_of_ok rest]
          rfl
        · have both := entered_trans entered more
          cases model : loads session.world.files path with
          | none =>
            rw [model] at both
            rwa [List.filterMap_cons_none model]
          | some loaded =>
            rw [model] at both
            rwa [List.filterMap_cons_some model]
      · exact .inr ⟨other, List.mem_cons_of_mem _ member, failure, after, failed, whole,
          bind_of_error rest, same⟩
    · exact .inr ⟨path, List.mem_cons_self, failure, session, failed, whole, bind_of_error ran, rfl⟩

/-! ## Options -/

private theorem mem_setOption {entry : String × String}
    (member : entry ∈ setOption options name value) :
    entry ∈ options ∨ entry = (name, value) := by
  unfold setOption at member
  split at member
  · obtain ⟨before, among, same⟩ := List.mem_map.1 member
    split at same
    · exact .inr same.symm
    · exact .inl (same ▸ among)
  · rcases List.mem_append.1 member with earlier | last
    · exact .inl earlier
    · exact .inr (List.mem_singleton.1 last)

private theorem mem_mergeOptions {entry : String × String} (member : entry ∈ mergeOptions options) :
    entry ∈ options := by
  suffices merged : ∀ known : List (String × String),
      entry ∈ options.foldl (fun merged option => setOption merged option.1 option.2) known →
        entry ∈ known ∨ entry ∈ options from
    (merged [] member).resolve_left List.not_mem_nil
  clear member
  induction options with
  | nil => exact fun known member => .inl member
  | cons option options ih =>
    intro known member
    rcases ih _ member with earlier | later
    · rcases mem_setOption earlier with before | same
      · exact .inl before
      · exact .inr (same ▸ List.mem_cons_self)
    · exact .inr (List.mem_cons_of_mem _ later)

/-- Options that all have a name and a value can be collected. -/
theorem collected_ok (filled : none ∉ arguments.options) :
    ∃ options, arguments.collected = .ok options := by
  refine (mapM_ok fun option member => (?_ : ∃ pair, _ ∧ True)).elim fun pairs all =>
    ⟨_, except_bind_of_ok all.1⟩
  cases option with
  | none => exact absurd member filled
  | some pair => exact ⟨pair, rfl, trivial⟩

/-- What was collected was given as an option, or by a switch of its own. -/
theorem mem_collected (collected : arguments.collected = .ok options)
    (member : (name, value) ∈ options) : some (name, value) ∈ arguments.options ∨
      value = arguments.resourcePath.getD "" ∨ value = "true" := by
  obtain ⟨pairs, ran, rest⟩ := except_bind_eq_ok collected
  have among {entry : String × String} (inside : entry ∈ mergeOptions pairs) :
      some entry ∈ arguments.options := by
    obtain ⟨option, given, same⟩ := mapM_eq_ok ran entry (mem_mergeOptions inside)
    cases option with
    | none => cases same
    | some pair =>
      cases same
      exact given
  have merged {entry : String × String} (inside : entry ∈ if arguments.resourcePath.getD "" = ""
      then mergeOptions pairs else setOption (mergeOptions pairs) resourcePathOption
        (arguments.resourcePath.getD "")) :
      some entry ∈ arguments.options ∨ entry.2 = arguments.resourcePath.getD "" := by
    split at inside
    · exact .inl (among inside)
    · rcases mem_setOption inside with earlier | rfl
      · exact .inl (among earlier)
      · exact .inr rfl
  cases rest
  split at member
  · rcases mem_setOption member with earlier | same
    · exact (merged earlier).imp_right .inl
    · cases same
      exact .inr (.inr rfl)
  · exact (merged member).imp_right .inl

/-- An option was taken: it became a setting of the run or of the generator. -/
structure Taken (value : String) (session after : Session State) : Prop where
  index : after.ledger.index = session.ledger.index
  generated : after.ledger.generated = session.ledger.generated
  pending : after.ledger.pending = session.ledger.pending
  files : after.world.files = session.world.files
  resourcePath : after.ledger.settings.resourcePath = session.ledger.settings.resourcePath ∨
    after.ledger.settings.resourcePath = some value
  suffix : after.world.own.suffix = session.world.own.suffix ∨ after.world.own.suffix = value
  template : after.world.own.templateName = session.world.own.templateName ∨
    after.world.own.templateName = value
  policy : after.world.own.policy = session.world.own.policy ∨
    after.world.own.policy.action = .fold

theorem takeOption_ends (name value : String) (world : World State) :
    ∃ after, takeOption name value world = .ok ⟨⟩ after ∧ after.files = world.files ∧
      (after.own.suffix = world.own.suffix ∨ after.own.suffix = value) ∧
      (after.own.templateName = world.own.templateName ∨ after.own.templateName = value) ∧
      (after.own.policy = world.own.policy ∨ after.own.policy.action = .fold) := by
  unfold takeOption
  simp only
  split
  · exact ⟨_, rfl, rfl, .inr rfl, .inl rfl, .inl rfl⟩
  · split
    · exact ⟨_, rfl, rfl, .inl rfl, .inr rfl, .inl rfl⟩
    · split
      · exact ⟨_, rfl, rfl, .inl rfl, .inl rfl, .inr rfl⟩
      · exact ⟨_, rfl, rfl, .inl rfl, .inl rfl, .inl rfl⟩

private theorem applyOption_ends (name value : String) (session : Session State) :
    ∃ after, applyOption generator name value session = .ok ⟨⟩ after ∧
      Taken value session after := by
  unfold applyOption
  by_cases resource : name = resourcePathOption
  · rw [if_pos resource]
    exact ⟨_, rfl, rfl, rfl, rfl, rfl, .inr rfl, .inl rfl, .inl rfl, .inl rfl⟩
  · rw [if_neg resource]
    by_cases debug : name = debugOption
    · rw [if_pos debug]
      exact ⟨_, rfl, rfl, rfl, rfl, rfl, .inl rfl, .inl rfl, .inl rfl, .inl rfl⟩
    · rw [if_neg debug]
      let said : World State := { session.world with
        log := session.world.log.add ⟨.info, .processing, "Option: " ++ name ++ "=" ++ value⟩ }
      obtain ⟨world, ran, files, suffix, template, policy⟩ := takeOption_ends name value said
      have hooked : hook (fun _ => generator.option name value) ⟨session.ledger, said⟩ =
          .ok ⟨⟩ ⟨session.ledger, world⟩ := hook_of_ok ran
      exact ⟨_, hooked, rfl, rfl, rfl, files, .inl rfl, suffix, template, policy⟩

/-- What is kept by every option is kept by all of them. -/
theorem applyOptions_keep {holds : Session State → Prop}
    (each : ∀ name value, (name, value) ∈ options → ∀ session after, Taken value session after →
      holds session → holds after) (start : holds session) :
    ∃ after, applyOptions generator options session = .ok ⟨⟩ after ∧ holds after := by
  unfold applyOptions
  induction options generalizing session with
  | nil => exact ⟨session, rfl, start⟩
  | cons option options ih =>
    obtain ⟨middle, ran, taken⟩ := applyOption_ends option.1 option.2 session
    obtain ⟨after, rest, held⟩ := ih
      (fun name value member => each name value (List.mem_cons_of_mem _ member))
      (each option.1 option.2 List.mem_cons_self session middle taken start)
    exact ⟨after, (bind_of_ok ran).trans rest, held⟩

/-! ## The start of a run -/

/-- A session before the first round: the models are in the index, and no file is touched. -/
structure Settled (files : FileTree) (index : ClassIndex) (session : Session State) : Prop where
  files : session.world.files = files
  index : session.ledger.index = index
  generated : session.ledger.generated = []
  pending : session.ledger.pending = []
  folding : session.world.own.policy.action = .fold

/-- The options that were taken hold no null characters. -/
structure PlainSettings (session : Session State) : Prop where
  suffix : Nameable session.world.own.suffix
  template : Nameable session.world.own.templateName
  resourcePath : ∀ directory, session.ledger.settings.resourcePath = some directory →
    Nameable directory

private theorem settled_taken {index : ClassIndex} (taken : Taken value session after)
    (settled : Settled files index session) : Settled files index after where
  files := taken.files.trans settled.files
  index := taken.index.trans settled.index
  generated := taken.generated.trans settled.generated
  pending := taken.pending.trans settled.pending
  folding := by
    rcases taken.policy with same | folds
    · rw [same]
      exact settled.folding
    · exact folds

private theorem plainSettings_taken (nameable : Nameable value) (taken : Taken value session after)
    (plain : PlainSettings session) : PlainSettings after where
  suffix := by
    rcases taken.suffix with same | given
    · rw [same]
      exact plain.suffix
    · rwa [given]
  template := by
    rcases taken.template with same | given
    · rw [same]
      exact plain.template
    · rwa [given]
  resourcePath := by
    intro directory asked
    rcases taken.resourcePath with same | given
    · exact plain.resourcePath directory (same.symm.trans asked)
    · cases given.symm.trans asked
      exact nameable

/-- Without null characters in the options there are none in the path of the template. -/
theorem configured_of_plain (plain : PlainSettings session)
    (folding : session.world.own.policy.action = .fold) :
    Configured session.ledger.settings session.world.own where
  suffix := plain.suffix
  folding := folding
  template := by
    unfold Settings.resource
    split
    · exact Path.text_ofText_nameable plain.template
    · next directory given =>
      split
      · exact Path.text_ofText_nameable plain.template
      · exact Path.text_child_nameable (plain.resourcePath directory given) plain.template

/-- What a run has done before its first round. -/
structure Prepared (arguments : Arguments) (root : String) (files : FileTree)
    (paths : List String) (start : Session State) : Prop where
  selected : modelPaths files root arguments.paths arguments.excludes arguments.recursive = .ok paths
  /-- A model that gives no classes was passed over. -/
  loaded : ∀ path ∈ paths, ∀ failure, load files path = .error failure → failure.isIsolated = true
  /-- The models were entered, and then the options were taken. -/
  options : ∃ options session, arguments.collected = .ok options ∧
    Entered (paths.filterMap (loads files)) (startSession files) session ∧
    applyOptions generator options session = .ok ⟨⟩ start
  settled : Settled files (indexed .empty (paths.filterMap (loads files))) start
  configured : Plain arguments root files → Configured start.ledger.settings start.world.own

/-- The rounds of a run, one for each model, and the number of all failures. -/
def generateAll (arguments : Arguments) (root : String) (selected : Nat)
    (models : List LoadedModel) : Running Nat := do
  let failed ← models.mapM (generateModel arguments root)
  finish generator
  return failed.foldl (· + ·) (selected - models.length)

/-- How a run begins. -/
inductive Begins (arguments : Arguments) (root : String) (files : FileTree) :
    EStateM.Result Failure (Session State) Nat → Prop where
  /-- A path cannot be that of anything. -/
  | unselected {error : FileError} (refused : modelPaths files root arguments.paths
      arguments.excludes arguments.recursive = .error error) :
      Begins arguments root files (.error (.unnameable error.path) (startSession files))
  /-- A model aborts the run. -/
  | unloaded {paths : List String} {path : String} {failure : Failure} {after : Session State}
      (selected : modelPaths files root arguments.paths arguments.excludes arguments.recursive =
        .ok paths) (member : path ∈ paths) (failed : load files path = .error failure)
      (whole : failure.isIsolated = false) (untouched : after.world.files = files) :
      Begins arguments root files (.error failure after)
  /-- An option says nothing. -/
  | uncollected {failure : Failure} {after : Session State}
      (refused : arguments.collected = .error failure) (untouched : after.world.files = files) :
      Begins arguments root files (.error failure after)
  | prepared {paths : List String} {start : Session State}
      (prepared : Prepared arguments root files paths start) :
      Begins arguments root files
        (generateAll arguments root paths.length (paths.filterMap (loads files)) start)

/-- The options that were collected prepare a run. -/
theorem applyOptions_prepare (collected : arguments.collected = .ok options)
    (selected : modelPaths files root arguments.paths arguments.excludes arguments.recursive =
      .ok paths)
    (loaded : ∀ path ∈ paths, ∀ failure, load files path = .error failure →
      failure.isIsolated = true)
    (entered : Entered (paths.filterMap (loads files)) (startSession files) session) :
    ∃ start, applyOptions generator options session = .ok ⟨⟩ start ∧
      Prepared arguments root files paths start := by
  let holds (now : Session State) : Prop :=
    Settled files (indexed .empty (paths.filterMap (loads files))) now ∧
      (Plain arguments root files → PlainSettings now)
  have begun : holds session := by
    refine ⟨⟨entered.files, entered.index, entered.generated, entered.pending, ?_⟩, fun _ =>
      ⟨?_, ?_, fun directory given => ?_⟩⟩
    · rw [entered.own]
      rfl
    · rw [entered.own]
      change Nameable defaultSuffix
      decide
    · rw [entered.own]
      exact List.not_mem_nil
    · rw [entered.settings] at given
      cases given
  have each (name value : String) (member : (name, value) ∈ options) (now after : Session State)
      (taken : Taken value now after) : holds now → holds after := by
    rintro ⟨settled, plainly⟩
    refine ⟨settled_taken taken settled, fun plain => plainSettings_taken ?_ taken (plainly plain)⟩
    rcases mem_collected collected member with given | rfl | rfl
    · exact plain.options name value given
    · exact plain.resourcePath
    · decide
  obtain ⟨start, ran, settled, plainly⟩ := applyOptions_keep each begun
  exact ⟨start, ran, selected, loaded, ⟨options, session, collected, entered, ran⟩, settled,
    fun plain => configured_of_plain (plainly plain) settled.folding⟩

/-- Where the models are selected, a run begins with their loading. -/
theorem loading_begins
    (selected : modelPaths files root arguments.paths arguments.excludes arguments.recursive =
      .ok paths) (entered : Entered [] (startSession files) session) :
    Begins arguments root files ((do
      let outcomes ← paths.mapM loadModel
      let options ← Processing.liftExcept arguments.collected
      applyOptions generator options
      generateAll arguments root paths.length (outcomes.filterMap id)) session) := by
  have same : session.world.files = files := entered.files
  rcases loadModels_end paths session with ⟨loaded, middle, ran, more⟩ |
    ⟨path, member, failure, after, failed, whole, ran, untouched⟩
  · rw [same] at loaded ran more
    have models : (paths.map (loads files)).filterMap id = paths.filterMap (loads files) := by
      rw [List.filterMap_map]
      rfl
    rw [bind_of_ok ran, models]
    cases collected : arguments.collected with
    | error failure =>
      have refused : (Processing.liftExcept (.error failure) : Running (List (String × String)))
          middle = .error failure middle := rfl
      rw [bind_of_error refused]
      exact .uncollected collected (more.files.trans same)
    | ok options =>
      have given : (Processing.liftExcept (.ok options) : Running (List (String × String)))
          middle = .ok options middle := rfl
      obtain ⟨start, applied, prepared⟩ := applyOptions_prepare collected selected loaded
        (entered_trans entered more)
      rw [bind_of_ok given, bind_of_ok applied]
      exact .prepared prepared
  · rw [bind_of_error ran]
    rw [same] at failed untouched
    exact .unloaded selected member failed whole untouched

/-- **How a run begins.** Before the first round no file is touched, and there are three
reasons for which there may be none. -/
theorem run_begins (arguments : Arguments) (root : String) (files : FileTree) :
    Begins arguments root files (run arguments root (startSession files)) := by
  rw [run, get_bind]
  cases selected : modelPaths files root arguments.paths arguments.excludes arguments.recursive with
  | error error =>
    have refused : selectedModels files root arguments (startSession files) =
        .error (.unnameable error.path) (startSession files) := by
      rw [selectedModels, selected]
      rfl
    change Begins arguments root files ((selectedModels files root arguments >>= _) _)
    rw [bind_of_error refused]
    exact .unselected selected
  | ok paths =>
    have taken : selectedModels files root arguments (startSession files) =
        .ok paths (startSession files) := by
      rw [selectedModels, selected]
      rfl
    change Begins arguments root files ((selectedModels files root arguments >>= _) _)
    rw [bind_of_ok taken]
    cases paths with
    | nil => exact loading_begins selected (entered_nil _ (startSession files))
    | cons path paths =>
      exact loading_begins selected (entered_nil (startSession files).world.log (startSession files))

end DelegateClasses.CommandLine
