import DelegateClasses.Proofs.CommandLine.Preparation
import DelegateClasses.Proofs.Entries

/-! The debug switch, which is read twice: once from the arguments as they stand, for the
reports that are shown, and once from the options of the run, where the last value of a name
counts. Main statement: the options switch debugging on only if all reports are shown, and the
two readings differ exactly where an option switches it on and a later one off again. -/
namespace DelegateClasses.CommandLine
open Delegate Processing Steps

variable {arguments asked : Arguments} {files : FileTree} {argv : List String}
variable {name value : String} {options given : List (String × String)}

/-! ## The last value of an option -/

/-- The options give this value to the name, and no other one after it. -/
def LastGiven (name value : String) (options : List (Option (String × String))) : Prop :=
  ∃ front rear, options = front ++ some (name, value) :: rear ∧ ∀ other, some (name, other) ∉ rear

theorem lookup_reverse_iff :
    given.reverse.lookup name = some value ↔ LastGiven name value (given.map some) := by
  rw [List.lookup_eq_some_iff]
  constructor
  · rintro ⟨rear, front, shape, others⟩
    refine ⟨front.reverse.map some, rear.reverse.map some, ?_, fun other member => ?_⟩
    · rw [← List.reverse_reverse given, shape]
      simp
    · obtain ⟨option, inside, same⟩ := List.mem_map.1 member
      obtain rfl := Option.some.inj same
      simpa using others _ (List.mem_reverse.1 inside)
  · rintro ⟨front, rear, shape, others⟩
    obtain ⟨first, last, rfl, rfl, behind⟩ := List.map_eq_append_iff.1 shape
    obtain ⟨option, later, rfl, same, rfl⟩ := List.map_eq_cons_iff.1 behind
    obtain rfl := Option.some.inj same
    refine ⟨later.reverse, first.reverse, by simp, fun other member => ?_⟩
    rw [bne_iff_ne]
    rintro rfl
    exact others other.2 (List.mem_map_of_mem (List.mem_reverse.1 member))

/-- An option that is set has its value, and the others keep theirs. -/
theorem lookup_setOption (options : List (String × String)) (name key value : String) :
    (setOption options key value).reverse.lookup name =
      if name = key then some value else options.reverse.lookup name := by
  unfold setOption
  split
  · next given =>
    have still : (options.reverse.lookup key).isSome := by
      simpa [List.lookup_isSome_iff] using given
    obtain ⟨before, found⟩ := Option.isSome_iff_exists.1 still
    rw [← List.map_reverse, Entries.lookup_replaced, found, Option.map_some]
  · rw [List.reverse_append, List.reverse_singleton, List.singleton_append,
      Entries.lookup_pair_cons]

/-- Merging keeps the last value of every name. -/
theorem lookup_mergeOptions (options : List (String × String)) (name : String) :
    (mergeOptions options).reverse.lookup name = options.reverse.lookup name := by
  -- What was merged before counts where no further option gives the name.
  suffices merged : ∀ known : List (String × String),
      (options.foldl (fun merged option => setOption merged option.1 option.2)
        known).reverse.lookup name =
          (options.reverse.lookup name).or (known.reverse.lookup name) by
    simpa [mergeOptions] using merged []
  induction options with
  | nil => exact fun known => rfl
  | cons option options ih =>
    intro known
    rw [List.foldl_cons, ih, lookup_setOption, List.reverse_cons, List.lookup_append,
      Option.or_assoc, Entries.lookup_pair_cons]
    by_cases same : name = option.1 <;> simp [same]

/-! ## The setting of a run -/

private theorem given_of_collected {options : List (Option (String × String))}
    (collected : (options.mapM fun option => match option with
      | some pair => Except.ok pair
      | none => .error Failure.emptyOption) = .ok given) : options = given.map some := by
  induction options generalizing given with
  | nil => cases collected; rfl
  | cons option options ih =>
    rw [List.mapM_cons] at collected
    obtain ⟨first, here, rest⟩ := except_bind_eq_ok collected
    obtain ⟨others, more, last⟩ := except_bind_eq_ok rest
    cases last
    rw [List.map_cons, ih more]
    cases option with
    | none => cases here
    | some pair => cases here; rfl

theorem collected_fails_iff :
    (∃ failure, arguments.collected = .error failure) ↔ none ∈ arguments.options := by
  constructor
  · rintro ⟨failure, refused⟩
    by_contra filled
    obtain ⟨options, collected⟩ := collected_ok filled
    cases collected.symm.trans refused
  · intro unfilled
    cases collected : arguments.collected with
    | error failure => exact ⟨failure, rfl⟩
    | ok options =>
      obtain ⟨given, filled, -⟩ := except_bind_eq_ok collected
      rw [given_of_collected filled] at unfilled
      simp at unfilled

/-- Where the options are collected, each has a name and a value, and debugging is switched on
by the switch of its own or by the last value that they give to it. -/
theorem options_of_collected (collected : arguments.collected = .ok options) :
    ∃ given : List (String × String), arguments.options = given.map some ∧
      options.reverse.lookup debugOption =
      if arguments.debug then some "true" else given.reverse.lookup debugOption := by
  obtain ⟨given, filled, rest⟩ := except_bind_eq_ok collected
  refine ⟨given, given_of_collected filled, ?_⟩
  cases rest
  have other : debugOption ≠ resourcePathOption := by decide
  have merged : (if arguments.resourcePath.getD "" = "" then mergeOptions given else
      setOption (mergeOptions given) resourcePathOption
        (arguments.resourcePath.getD "")).reverse.lookup debugOption =
        given.reverse.lookup debugOption := by
    split
    · exact lookup_mergeOptions given debugOption
    · rw [lookup_setOption, if_neg other, lookup_mergeOptions]
  cases switched : arguments.debug with
  | false => simpa [switched] using merged
  | true => simp [lookup_setOption]

private theorem applyOption_debug (name value : String) (session : Session State) :
    ∃ after, applyOption generator name value session = .ok ⟨⟩ after ∧
      after.ledger.settings.debug =
        if name = debugOption then value == "true" else session.ledger.settings.debug := by
  unfold applyOption
  by_cases resource : name = resourcePathOption
  · rw [if_pos resource]
    exact ⟨_, rfl, by subst resource; rfl⟩
  · rw [if_neg resource]
    by_cases debug : name = debugOption
    · rw [if_pos debug, if_pos debug]
      exact ⟨_, rfl, rfl⟩
    · rw [if_neg debug, if_neg debug]
      let said : World State := { session.world with
        log := session.world.log.add ⟨.info, .processing, "Option: " ++ name ++ "=" ++ value⟩ }
      obtain ⟨world, ran, -⟩ := takeOption_ends name value said
      have hooked : hook (fun _ => generator.option name value) ⟨session.ledger, said⟩ =
          .ok ⟨⟩ ⟨session.ledger, world⟩ := hook_of_ok ran
      exact ⟨_, hooked, rfl⟩

/-- The last value of the debug option is the one that counts. -/
theorem applyOptions_debug (options : List (String × String)) (session : Session State) :
    ∃ after, applyOptions generator options session = .ok ⟨⟩ after ∧
      after.ledger.settings.debug = ((options.reverse.lookup debugOption).map (· == "true")).getD
        session.ledger.settings.debug := by
  unfold applyOptions
  induction options generalizing session with
  | nil => exact ⟨session, rfl, rfl⟩
  | cons option options ih =>
    obtain ⟨middle, ran, first⟩ := applyOption_debug option.1 option.2 session
    obtain ⟨after, rest, last⟩ := ih middle
    refine ⟨after, (bind_of_ok ran).trans rest, ?_⟩
    rw [last, first, List.reverse_cons, List.lookup_append, Entries.lookup_pair_cons]
    cases options.reverse.lookup debugOption with
    | some later => rfl
    | none => by_cases same : debugOption = option.1 <;> simp [same, eq_comm]

/-! ## The two readings -/

/-- An option switches debugging on, and the last one that says something about it does not. -/
def TakenBack (options : List (Option (String × String))) : Prop :=
  some (debugOption, "true") ∈ options ∧
    ∃ value, value ≠ "true" ∧ LastGiven debugOption value options

theorem verbose_iff : asked.verbose = true ↔
    asked.debug = true ∨ some (debugOption, "true") ∈ asked.options := by
  simp [Arguments.verbose]

private theorem mem_of_lastGiven {options : List (Option (String × String))}
    (last : LastGiven name value options) : some (name, value) ∈ options := by
  obtain ⟨front, rear, rfl, -⟩ := last
  simp

/-- An option that switches debugging on is taken back, or else is the last to say something. -/
theorem takenBack_iff (given : List (String × String)) : TakenBack (given.map some) ↔
    some (debugOption, "true") ∈ given.map some ∧
      ¬LastGiven debugOption "true" (given.map some) := by
  refine and_congr_right fun among => ?_
  simp only [← lookup_reverse_iff]
  constructor
  · rintro ⟨value, other, last⟩ again
    exact other (Option.some.inj (last.symm.trans again))
  · intro otherwise
    have mentioned : (given.reverse.lookup debugOption).isSome := by
      rw [List.lookup_isSome_iff]
      exact ⟨_, List.mem_reverse.2 (by simpa using among), beq_self_eq_true _⟩
    obtain ⟨value, last⟩ := Option.isSome_iff_exists.1 mentioned
    refine ⟨value, ?_, last⟩
    rintro rfl
    exact otherwise last

/-- What a run reports, shown or not. -/
def reported (asked : Arguments) (files : FileTree) : List LogEntry :=
  (left ((do conclude (← run asked (rootOf files)) : Running Nat)
    (startSession files))).world.log.entries

/-- The program shows all reports of the run, or all but the least important ones. -/
theorem execute_log (parsed : parse argv = .ok asked) (files : FileTree) :
    (execute argv files).log =
      ⟨.info, .start, "Working from root directory: " ++ rootOf files⟩ ::
        if asked.verbose then reported asked files
        else (reported asked files).filter (·.level ≠ .debug) := by
  have all (log : List LogEntry) : LogEntry.atLeast .debug log = log := by
    simp [LogEntry.atLeast, Level.rank]
  have most (log : List LogEntry) : LogEntry.atLeast .info log = log.filter (·.level ≠ .debug) := by
    unfold LogEntry.atLeast
    congr 1
    funext entry
    cases entry.level <;> rfl
  simp only [execute, reported, parsed]
  generalize (run asked (rootOf files) >>= conclude) (startSession files) = ended
  cases ended <;> cases asked.verbose <;> simp [left, all, most]

/-- **The debug switch is read twice.** The program shows all reports when the switch or some
option asks for it. The options of the run switch debugging on when the switch or the last
option that says something about it does. So debugging is never on with reports left out; but
all reports are shown with debugging off just when an option that switched it on is taken back
by a later one. -/
theorem debug_switch_read_twice (parsed : parse argv = .ok asked) (files : FileTree)
    (session : Session State) (unset : session.ledger.settings.debug = false) :
    (execute argv files).log.tail =
      (if asked.verbose then reported asked files
        else (reported asked files).filter (·.level ≠ .debug)) ∧
    ((∃ failure, asked.collected = .error failure) ↔ none ∈ asked.options) ∧
    ∀ options, asked.collected = .ok options →
      ∃ after, applyOptions generator options session = .ok ⟨⟩ after ∧
        (after.ledger.settings.debug = true ↔
          asked.debug = true ∨ LastGiven debugOption "true" asked.options) ∧
        (after.ledger.settings.debug = true → asked.verbose = true) ∧
        ((asked.verbose = true ↔ after.ledger.settings.debug = true) ↔
          asked.debug = true ∨ ¬TakenBack asked.options) := by
  refine ⟨by rw [execute_log parsed files, List.tail_cons], collected_fails_iff,
    fun options collected => ?_⟩
  obtain ⟨given, filled, last⟩ := options_of_collected collected
  obtain ⟨after, ran, debug⟩ := applyOptions_debug options session
  refine ⟨after, ran, ?_⟩
  have switched : after.ledger.settings.debug = true ↔
      asked.debug = true ∨ LastGiven debugOption "true" asked.options := by
    rw [debug, last, unset, filled, ← lookup_reverse_iff]
    cases asked.debug with
    | true => simp
    | false => cases given.reverse.lookup debugOption <;> simp
  refine ⟨switched, fun on => verbose_iff.2 ((switched.1 on).imp_right mem_of_lastGiven), ?_⟩
  have taken := takenBack_iff given
  rw [← filled] at taken
  have among : LastGiven debugOption "true" asked.options →
      some (debugOption, "true") ∈ asked.options := mem_of_lastGiven
  rw [verbose_iff, switched, taken]
  tauto

/-- The last of two options switches debugging on, and all reports are shown. -/
theorem debugging_switched_on_last :
    let argv := ["-A", "debug=false", "-A", "debug=true"]
    let files : FileTree := ⟨[], []⟩
    ∃ asked after, parse argv = .ok asked ∧
      applyOptions generator [(debugOption, "true")] (startSession files) = .ok ⟨⟩ after ∧
      after.ledger.settings.debug = true ∧ asked.verbose = true ∧ ¬TakenBack asked.options ∧
      (execute argv files).log.tail = reported asked files := by
  intro argv files
  let asked : Arguments := { Arguments.default with
    options := [some (debugOption, "false"), some (debugOption, "true")] }
  have parsed : parse argv = .ok asked := by rfl
  have last : LastGiven debugOption "true" asked.options :=
    ⟨[some (debugOption, "false")], [], rfl, fun _ none => (by cases none)⟩
  obtain ⟨shown, -, configures⟩ := debug_switch_read_twice parsed files (startSession files) rfl
  obtain ⟨after, ran, switched, loud, agree⟩ := configures [(debugOption, "true")] rfl
  have on := switched.2 (.inr last)
  have verbose := loud on
  have kept := (agree.1 (iff_of_true verbose on)).resolve_left (by decide)
  rw [verbose, if_pos rfl] at shown
  exact ⟨asked, after, parsed, ran, on, verbose, kept, shown⟩

/-- An option switches debugging on and a later one switches it off: all reports are shown. -/
theorem debugging_taken_back_still_shown :
    let argv := ["-A", "debug=true", "-A", "debug=false", "-p", "m.model.json"]
    let files : FileTree := ⟨["w"], [(["w"], .directory),
      (["w", "m.model.json"], .file "\x7b\x7d".toUTF8)]⟩
    ∃ asked options after, parse argv = .ok asked ∧ asked.verbose = true ∧
      asked.collected = .ok options ∧
      applyOptions generator options (startSession files) = .ok ⟨⟩ after ∧
      after.ledger.settings.debug = false ∧
      ⟨.debug, .model, "Loaded 0 class(es) from '/w/m.model.json'."⟩ ∈
        (execute argv files).log := by
  intro argv files
  let asked : Arguments := { Arguments.default with
    paths := ["m.model.json"]
    options := [some (debugOption, "true"), some (debugOption, "false")] }
  have parsed : parse argv = .ok asked := by rfl
  exact ⟨asked, [(debugOption, "false")], _, parsed, rfl, rfl, rfl, rfl, by decide +kernel⟩

end DelegateClasses.CommandLine
