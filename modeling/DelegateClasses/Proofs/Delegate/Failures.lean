import DelegateClasses.Proofs.Delegate.Places
import DelegateClasses.Proofs.Delegate.Verdicts
import DelegateClasses.Proofs.Document.Loading

/-! What a round of delegating classes can fail with. A class fails because of a malformed
type, a name without a package, or a file that cannot be made or opened. Anything else would
stop the run, and only a template that is no text does. Main statement: a round reaches its
end with such failures, or such a template stops it. -/
namespace DelegateClasses

/-- The failures that one class can end with. -/
inductive Failure.OfClass : Failure → Prop where
  | malformedType (fault : Malformed) : OfClass (.malformedType fault)
  | noPackage (name : String) : OfClass (.noPackage name)
  | outputUnavailable (path : Path) (error : FileError) : OfClass (.outputUnavailable path error)
  | templateUnavailable (path : Path) (error : FileError) :
      OfClass (.templateUnavailable path error)

theorem Failure.OfClass.isolated {failure : Failure} (expected : failure.OfClass) :
    failure.isIsolated = true := by
  cases expected <;> rfl

/-- The file of a class whose path holds no null character is refused for another reason. -/
theorem PlacedDraft.create_failure {tree files : FileTree} {path : Path} {className : String}
    {failure : Failure} (normal : path.Normal) (nameable : ∀ part ∈ path.parts, Nameable part)
    (refused : create tree path className = (.error failure, files)) : failure.OfClass := by
  rw [create] at refused
  split at refused
  · next error above failed =>
    cases refused
    have ensured : (FileTree.ensureUpwards path.root path.parent.parts.reverse tree).1 =
        .error error := congrArg Prod.fst failed
    have inner : ∀ part ∈ path.parent.parts, part ∈ path.parts := fun part member =>
      (List.dropLast_sublist _).subset member
    have fault := FileTree.ensureUpwards_nameable
      ⟨normal.root, fun part member => normal.parts part (inner part (by simpa using member))⟩
      (fun part member => nameable part (inner part (List.mem_reverse.1 member))) ensured
    rw [Failure.ofAccess_eq fault]
    exact .outputUnavailable _ _
  · split at refused
    · next error failed =>
      cases refused
      have fault := FileTree.create_nameable (Path.text_nameable normal nameable) failed
      rw [Failure.ofAccess_eq fault]
      exact .outputUnavailable _ _
    · cases refused

namespace Delegate
open Document FileTree Steps Processing

variable {settings : Settings} {target : Target} {files : FileTree} {world last : World State}
variable {failure : Failure} {declared : ClassDecl} {text : String}
variable {start session after : Session State} {result : RoundResult}

/-! ## The template -/

/-- There is a template, and it is no text. -/
def BadTemplate (settings : Settings) (own : State) (files : FileTree) : Prop :=
  own.templateName ≠ "" ∧ Undecodable files (settings.resource own.templateName).text

/-- What a run is configured with. No name holds a null character, and superclasses are
folded at most. -/
structure Configured (settings : Settings) (own : State) : Prop where
  suffix : Nameable own.suffix
  template : Nameable (settings.resource own.templateName).text
  folding : own.policy.action = .fold

/-- What a class fails with after its start, or what stops the run there. -/
def Expected (settings : Settings) (own : State) (files : FileTree) (failure : Failure) : Prop :=
  failure.OfClass ∨ failure = .undecodable ∧ BadTemplate settings own files

/-- A file that is no text is not the one of a class that has written nothing. -/
private theorem undecodable_left {before after : FileTree} {place : List String}
    {path other : String} (wrong : Undecodable before other)
    (empty : before.resolve path = .ok (place, .file .empty))
    (touches : before.Touches [place] after) : Undecodable after other := by
  obtain ⟨bytes, read, undecoded⟩ := wrong
  obtain ⟨here, leads⟩ := read_eq_ok read
  have apart : here ∉ [place] := by
    intro member
    obtain rfl := List.mem_singleton.1 member
    have same := (file?_of_resolve leads).symm.trans (file?_of_resolve empty)
    cases same
    exact undecoded "" (by rfl)
  refine ⟨bytes, ?_, undecoded⟩
  rw [FileTree.read, resolve_untouched touches leads apart]

/-- A class that was stopped and given up has an expected failure. -/
theorem expected_of_stops (nameable : Nameable (settings.resource target.before.templateName).text)
    (empty : files.resolve target.path.text = .ok (target.place, .file .empty))
    (underway : Underway target files last) (stops : Stops settings target files failure) :
    Expected settings target.before (leave last).files failure := by
  cases stops with
  | malformedType fault => exact .inl (.malformedType fault)
  | unopened given error refused =>
    rw [Failure.ofAccess_eq (read_nameable nameable refused)]
    exact .inl (.templateUnavailable _ _)
  | undecodable given bytes read wrong =>
    obtain ⟨rfl, draft, unwritten, here⟩ := underway
    have since : Opened target last.files last.files :=
      ⟨touches_mono (touches_refl _) (List.nil_subset _), empty⟩
    have filed := leave_filed since here unwritten.writable
    exact .inr ⟨rfl, given, undecodable_left ⟨bytes, read, wrong⟩ empty filed.touches⟩

/-! ## The visit -/

theorem fellows_refl (settings : Settings) (target : Target) (files : FileTree) :
    Fellows settings target target files files :=
  ⟨rfl, fun _ => rfl⟩

private theorem paired_of_underway (underway : Underway target files world) :
    Paired target target files files world world := by
  obtain ⟨same, draft, unwritten, here⟩ := underway
  exact ⟨same, same, draft, unwritten, here, here⟩

/-- What a step fails with that does the same as itself. -/
theorem allowed_of_alike {α σ ε : Type} {related : σ → σ → Prop} {allowed : ε → Prop}
    {result : EStateM.Result ε σ α} {state : σ} {reason : ε}
    (alike : Alike related (Both allowed) result result) (failed : result = .error reason state) :
    allowed reason := by
  rw [failed] at alike
  cases alike with
  | error both still => exact both.2

private theorem members_stop {directory : Path} {ledger : Ledger} (proper : declared.Proper)
    (underway : Underway target files world)
    (failed : handed generator directory declared ledger world = .error failure after) :
    Stops ledger.settings target files failure := by
  have inside : (Position.within directory declared).depth = 1 := rfl
  have agrees := handMembers_agrees (@generator_agrees target target files files ledger.settings)
    rfl rfl inside ledger.index (generator.policy world.own) proper
  exact allowed_of_alike (agrees ⟨ledger, world⟩ ⟨ledger, world⟩
    ⟨rfl, rfl, paired_of_underway underway⟩) failed

private theorem endClass_stops (underway : Underway target files world)
    (failed : endClass settings world = .error failure last) :
    Stops settings target files failure :=
  allowed_of_alike (endClass_alike (fellows_refl _ _ _) (paired_of_underway underway)) failed

/-- A class whose file cannot be made has an expected failure. -/
theorem begin_expected {package : String} (top : Nameable text) (named : Nameable declared.name)
    (suffix : Nameable world.own.suffix) (owned : declared.package? = some package)
    (failed : begin (outputPath (.ofText text) package (world.own.generatedName declared))
      (world.own.generatedName declared) world = .error failure last) : failure.OfClass := by
  rw [begin] at failed
  split at failed
  · next refused =>
    cases failed
    have normal : (outputPath (.ofText text) package (world.own.generatedName declared)).Normal :=
      Path.normal_child (Path.normal_child (Path.normal_ofText text) _) _
    exact PlacedDraft.create_failure normal (outputPath_nameable top named suffix owned) refused
  · cases failed

/-- A class that cannot be started has an expected failure. -/
theorem startClass_expected (configured : Configured settings world.own) (top : Nameable text)
    (named : Nameable declared.name)
    (failed : generator.startClass settings declared (.outside (.ofText text)) world =
      .error failure last) : Expected settings world.own last.files failure := by
  have start : Starting settings declared (.ofText text) world
      (generator.startClass settings declared (.outside (.ofText text)) world) :=
    startClass_outside settings declared (.ofText text) world
  rw [failed] at start
  cases start with
  | homeless bare => exact .inl (.noPackage _)
  | unopened owned refused => exact .inl (begin_expected top named configured.suffix owned refused)
  | undrafted owned begun stopped =>
    obtain ⟨place, draft, empty, here, unwritten⟩ := targetOf_begun begun
    have underway := startDraft_underway settings owned here unwritten
    rw [stopped] at underway
    have drafts := startDraft_alike (fellows_refl settings _ _) owned unwritten here here
    apply expected_of_stops _ empty.leads underway (allowed_of_alike drafts stopped)
    exact configured.template

/-- A class that was begun, and then fails, has an expected failure. -/
theorem begun_expected {directory : Path} {started : World State}
    (configured : Configured settings world.own)
    (start : generator.startClass settings declared (.outside directory) world =
      .ok true started) :
    ∃ target files, Underway target files started ∧
      ∀ failure last, Underway target files last → Stops settings target files failure →
        Expected settings world.own (leave last).files failure := by
  obtain ⟨package, place, files, owned, opened, underway⟩ := underway_of_started start
  refine ⟨_, files, underway, fun failure last still stops => ?_⟩
  apply expected_of_stops _ opened.leads still stops
  exact configured.template

/-- **What a class fails with.** Its failure concerns no other class, or the template is no
text. -/
theorem visitClass_expected (configured : Configured session.ledger.settings session.world.own)
    (proper : declared.Proper) (top : Nameable text) (named : Nameable declared.name)
    (failed : visitClass generator (.outside (.ofText text)) declared session =
      .error failure after) :
    Expected session.ledger.settings session.world.own after.world.files failure := by
  have ready : Configured session.ledger.settings (asked declared session).own := configured
  have visit := visitClass_ends generator (.ofText text) declared session
  rw [failed] at visit
  cases visit with
  | refused fresh start =>
    have ended := startClass_expected ready top named start
    exact ended
  | abandoned fresh start members =>
    obtain ⟨target, files, underway, expected⟩ := begun_expected ready start
    have still := handed_underway underway members
    exact expected _ _ still (members_stop proper underway members)
  | unfinished fresh start members ending =>
    obtain ⟨target, files, underway, expected⟩ := begun_expected ready start
    have still := handed_underway underway members
    exact expected _ _ (underway_of_unended still ending) (endClass_stops still ending)

/-! ## The round -/

/-- All failures of a round are those of single classes. -/
def AllOfClass (result : RoundResult) : Prop :=
  ∀ name failure, (name, failure) ∈ result.failures → failure.OfClass

/-- A round that was stopped, by a template that is no text, or one that goes on. -/
def RoundEnds (start : Session State) :
    EStateM.Result Failure (Session State) RoundResult → Prop
  | .ok result after => Steady start after ∧ AllOfClass result
  | .error failure after => failure = .undecodable ∧
      BadTemplate start.ledger.settings start.world.own after.world.files

theorem configured_steady (configured : Configured start.ledger.settings start.world.own)
    (steady : Steady start session) : Configured session.ledger.settings session.world.own := by
  obtain ⟨released, own⟩ := steady.own
  rw [steady.settings, own]
  exact ⟨configured.suffix, configured.template, configured.folding⟩

/-- The turn of a class is followed by others, or the template is no text. -/
theorem turn_ends (configured : Configured start.ledger.settings start.world.own)
    (steady : Steady start session) (before : AllOfClass result) (proper : declared.Proper)
    (top : Nameable text) (named : Nameable declared.name) :
    RoundEnds start (processWithSuperclasses generator (.outside (.ofText text)) result declared
      session) := by
  have still := configured_steady configured steady
  have turned := processWithSuperclasses_turned still.folding steady.idle declared (.ofText text)
    result
  have expected {failure : Failure} {after : Session State}
      (visits : visitClass generator (.outside (.ofText text)) declared
        (noted ("Processing " ++ declared.name) session) = .error failure after) :
      Expected session.ledger.settings session.world.own after.world.files failure := by
    apply visitClass_expected _ proper top named visits
    exact still
  generalize processWithSuperclasses generator (.outside (.ofText text)) result declared session =
    ended at turned ⊢
  cases turned with
  | skipped failed => exact ⟨steady, before⟩
  | passed spared cause books more => exact ⟨steady_trans steady more, before⟩
  | generated spared fresh visits same books more => exact ⟨steady_trans steady more, before⟩
  | failed spared visits isolated books more =>
    refine ⟨steady_trans steady more, fun name reason member => ?_⟩
    rw [failures_withFailure] at member
    rcases List.mem_append.1 member with earlier | last
    · exact before name reason earlier
    · cases List.mem_singleton.1 last
      rcases expected visits with ofClass | ⟨rfl, -⟩
      · exact ofClass
      · cases isolated
  | stopped visits whole =>
    rcases expected visits with ofClass | ⟨rfl, bad⟩
    · cases ofClass.isolated.symm.trans whole
    · obtain ⟨released, own⟩ := steady.own
      rw [steady.settings, own] at bad
      exact ⟨rfl, bad⟩

/-- **What a round fails with.** The failures of a round are those of single classes. Only a
template that is no text can stop a round. -/
theorem process_ends (configured : Configured start.ledger.settings start.world.own)
    (idle : start.ledger.pending = []) {classes : List ClassDecl}
    (proper : ∀ declared ∈ classes, declared.Proper) (top : Nameable text)
    (named : ∀ declared ∈ classes, Nameable declared.name) :
    RoundEnds start (process generator classes (.ofText text) start) := by
  suffices ends : ∀ result session, Steady start session → AllOfClass result →
      RoundEnds start (classes.foldlM (processWithSuperclasses generator
        (.outside (.ofText text))) result session) from
    ends .empty start (steady_refl idle) fun _ _ none => (by cases none)
  induction classes with
  | nil =>
    intro result session steady before
    exact ⟨steady, before⟩
  | cons declared classes ih =>
    intro result session steady before
    have turn := turn_ends configured steady before (proper declared List.mem_cons_self) top
      (named declared List.mem_cons_self)
    rw [List.foldlM_cons]
    cases ran : processWithSuperclasses generator (.outside (.ofText text)) result declared
        session with
    | error failure after =>
      rw [ran] at turn
      rwa [bind_of_error ran]
    | ok next after =>
      rw [ran] at turn
      rw [bind_of_ok ran]
      exact ih (fun other member => proper other (List.mem_cons_of_mem _ member))
        (fun other member => named other (List.mem_cons_of_mem _ member)) next after turn.1 turn.2

end Delegate

end DelegateClasses
