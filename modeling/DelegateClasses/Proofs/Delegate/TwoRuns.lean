import DelegateClasses.Proofs.Delegate.OutputPath
import DelegateClasses.Proofs.Delegate.Paired
import DelegateClasses.Proofs.Draft.Making

/-! The whole visit of one class in two runs. The runs may have made different files
before, as long as those on the way to the file of this class and the template are the
same. Main statement: the visits end alike, and both do the same to the files. -/
namespace DelegateClasses

/-- The failures are the same, but for the directory with a name that is too long. -/
inductive Failure.Likened : Failure → Failure → Prop where
  | same (failure : Failure) : Likened failure failure
  | longName (path : Path) (first second : String) :
      Likened (.outputUnavailable path ⟨.nameTooLong, first⟩)
        (.outputUnavailable path ⟨.nameTooLong, second⟩)

/-- Failures that are alike and concern one class only. -/
structure Failure.Aligned (failure counterpart : Failure) : Prop where
  likened : failure.Likened counterpart
  isolated : failure.isIsolated = true
  counterpart : counterpart.isIsolated = true

namespace Delegate
open ClassDraft FileTree Steps Processing

variable {directory : Path} {declared : ClassDecl} {settings : Settings}
variable {target? : Option (List String)} {world twin after later : World State}
variable {session other : Session State}

/-- What the visit of a class leaves of two worlds: the classes that were given up differ,
and the same was put on the files, on the way to one target. -/
structure Spent (target? : Option (List String)) (world after twin later : World State) :
    Prop where
  own : ∃ released, after.own = { world.own with released }
  counterpart : ∃ released, later.own = { twin.own with released }
  files : ∃ patch : Patch, patch.Ends target? ∧ Patched patch world.files after.files ∧
    Patched patch twin.files later.files

/-- What a template gives is the same in both trees, and it concerns one class only. -/
structure SameTemplate (path : String) (files others : FileTree) : Prop where
  read : others.read path = files.read path
  nameable : ∀ error, files.read path = .error error → error.fault ≠ .unnameable
  decodes : ∀ bytes, files.read path = .ok bytes → ∃ text, Text.decode bytes = .text text

/-- The way to the file of a class is the same in both trees. -/
structure SameWay (site : Site) (files others : FileTree) : Prop where
  ready : site.Ready files
  counterpart : site.Ready others
  alike : site.Alike files others
  nameable : ∀ part ∈ site.path.parts, '\x00' ∉ part.toList

/-- Two runs in which a class has the same prospects: the state of the generator differs
at most in the classes that were given up, the way to the class's file is the same, and
so is the template, whatever the class itself makes. -/
structure Prospects (directory : Path) (settings : Settings) (declared : ClassDecl)
    (target? : Option (List String)) (world twin : World State) : Prop where
  own : ∃ released, twin.own = { world.own with released }
  way : ∀ package, declared.package? = some package → ∃ site : Site,
    target? = some site.target ∧ SameWay site world.files twin.files ∧
    outputPath directory package (world.own.generatedName declared) = site.path
  template : world.own.templateName ≠ "" → ∀ (patch : Patch) (files others : FileTree),
    patch.Ends target? → Patched patch world.files files → Patched patch twin.files others →
    SameTemplate (settings.resource world.own.templateName).text files others

theorem spent_self (same : after.own = world.own) (files : after.files = world.files)
    (alike : later.own = twin.own) (others : later.files = twin.files) :
    Spent target? world after twin later :=
  ⟨⟨_, same⟩, ⟨_, alike⟩, .nothing, Patch.ends_nothing, by rw [files]; exact patched_nothing _,
    by rw [others]; exact patched_nothing _⟩

/-! ## The start -/

/-- A class is begun in two worlds, and its file was made in the same way. -/
structure Begun (settings : Settings) (site : Site) (world twin : World State)
    (first second : Target) (files others : FileTree) : Prop where
  before : first.before = world.own
  counterpart : second.before = twin.own
  place : first.place = site.target
  twinPlace : second.place = site.target
  fellows : Fellows settings first second files others
  made : Patched (site.filled .empty) world.files files
  twinMade : Patched (site.filled .empty) twin.files others
  /-- Nothing can stop the class that would stop the run. -/
  isolated : ∀ failure, Stops settings first files failure → failure.isIsolated = true

/-- A class that is given up has made its file, with what it has written. -/
private theorem leave_made {target : Target} {draft : ClassDraft} {writes : List String}
    {site : Site} {before : FileTree} (here : At target draft world)
    (sink : draft.sink = some ⟨writes, 0⟩) (place : target.place = site.target)
    (made : Patched (site.filled .empty) before world.files) :
    (∃ released, (leave world).own = { target.before with released }) ∧
      Patched (site.filled (String.join writes).toUTF8) before (leave world).files := by
  have filled := Site.patched_filled made (String.join writes).toUTF8
  rw [← place] at filled
  rw [At] at here
  simp only [leave, here, PlacedDraft.release, sink]
  refine ⟨⟨_, rfl⟩, ?_⟩
  split
  · next nothing =>
    rw [List.isEmpty_iff.1 nothing]
    exact made
  · exact filled

/-- A class that is given up leaves the same in its file in both worlds. -/
theorem leave_parted {site : Site} {first second : Target} {files others : FileTree}
    (begun : Begun settings site world twin first second files others)
    (here : target? = some site.target) (parted : Parted first second files others after later) :
    Spent target? world (leave after) twin (leave later) := by
  obtain ⟨rfl, rfl, draft, writes, sink, at_, twinAt⟩ := parted
  obtain ⟨own, made⟩ := leave_made at_ sink begun.place begun.made
  obtain ⟨twinOwn, twinMade⟩ := leave_made twinAt sink begun.twinPlace begun.twinMade
  rw [begun.before] at own
  rw [begun.counterpart] at twinOwn
  subst here
  exact ⟨own, twinOwn, _, site.ends_filled _, made, twinMade⟩

private theorem aligned_of_both {first : Target} {files : FileTree} {failure counterpart : Failure}
    (isolated : ∀ failure, Stops settings first files failure → failure.isIsolated = true)
    (both : Both (Stops settings first files) failure counterpart) :
    failure.Aligned counterpart := by
  obtain ⟨rfl, stops⟩ := both
  exact ⟨.same _, isolated _ stops, isolated _ stops⟩

/-- What the template gives cannot stop the run. -/
private theorem isolated_of_template {first : Target} {files others : FileTree}
    (template : first.before.templateName ≠ "" →
      SameTemplate (settings.resource first.before.templateName).text files others) :
    ∀ failure, Stops settings first files failure → failure.isIsolated = true := by
  intro failure stops
  cases stops with
  | malformedType fault => rfl
  | unopened given error refused =>
    rw [Failure.ofAccess_eq ((template given).nameable error refused)]
    rfl
  | undecodable given bytes read wrong =>
    obtain ⟨text, decoded⟩ := (template given).decodes bytes read
    exact absurd decoded (wrong text)

/-- The file of a class is refused for reasons that are alike. -/
private theorem refused_aligned {site : Site} {front : List String} {error : FileError}
    {className : String} (here : target? = some site.target)
    (way : SameWay site world.files twin.files)
    (fated : site.Fated world.files front (some error)) :
    ∃ failure counterpart files others,
      begin site.path className world = .error failure { world with files } ∧
      begin site.path className twin = .error counterpart { twin with files := others } ∧
      failure.Aligned counterpart ∧
      Spent target? world { world with files } twin { twin with files := others } := by
  obtain ⟨path, files, created, named, made⟩ :=
    @Site.create_refused _ _ _ _ className way.ready fated
  obtain ⟨twinPath, others, twinCreated, twinNamed, twinMade⟩ :=
    @Site.create_refused _ _ _ _ className way.counterpart (Site.fated_alike fated way.alike)
  have fault := Site.nameable_of_fated way.ready way.nameable fated
  rw [Failure.ofAccess_eq fault] at created twinCreated
  subst here
  refine ⟨.outputUnavailable site.path ⟨error.fault, path⟩,
    .outputUnavailable site.path ⟨error.fault, twinPath⟩, files, others, ?_, ?_, ⟨?_, rfl, rfl⟩,
    ⟨_, rfl⟩, ⟨_, rfl⟩, _, Site.ends_way (Site.fated_within fated), made, twinMade⟩
  · rw [begin, created]
  · rw [begin, twinCreated]
  · rcases named with long | same
    · rw [long]
      exact .longName _ _ _
    · rcases twinNamed with long | twinSame
      · rw [long]
        exact .longName _ _ _
      · rw [same, twinSame]
        exact .same _

/-- How the start of a class ends in two worlds. -/
inductive StartsAlike (settings : Settings) (target? : Option (List String))
    (world twin : World State) :
    EStateM.Result Failure (World State) Bool → EStateM.Result Failure (World State) Bool →
    Prop where
  | declined {after later : World State} (spent : Spent target? world after twin later) :
      StartsAlike settings target? world twin (.ok false after) (.ok false later)
  | refused {failure counterpart : Failure} {after later : World State}
      (aligned : failure.Aligned counterpart) (spent : Spent target? world after twin later) :
      StartsAlike settings target? world twin (.error failure after) (.error counterpart later)
  | begun {site : Site} {first second : Target} {files others : FileTree}
      {after later : World State} (here : target? = some site.target)
      (begun : Begun settings site world twin first second files others)
      (policy : after.own.policy = world.own.policy)
      (twinPolicy : later.own.policy = twin.own.policy)
      (paired : Paired first second files others after later) :
      StartsAlike settings target? world twin (.ok true after) (.ok true later)

private theorem policy_of_at {target : Target} {draft : ClassDraft} (here : At target draft world) :
    world.own.policy = target.before.policy := by
  rw [At] at here
  rw [here]

/-- The first part of a class whose file was opened is the same in both worlds. -/
theorem carryOn_alike {site : Site} {first second : Target} {draft : ClassDraft}
    {opened openedTwin : World State}
    (begun : Begun settings site world twin first second opened.files openedTwin.files)
    (here : target? = some site.target) (owned : declared.package? = some first.package)
    (unwritten : Unwritten none draft) (at_ : At first draft opened)
    (twinAt : At second draft openedTwin) :
    StartsAlike settings target? world twin (carryOn settings declared site.path opened)
      (carryOn settings declared site.path openedTwin) := by
  have drafted := startDraft_alike begun.fellows owned unwritten at_ twinAt
  revert drafted
  cases ended : startDraft settings declared opened with
  | ok value started =>
    cases twinEnded : startDraft settings declared openedTwin with
    | error failure later => rintro ⟨⟩
    | ok value startedTwin =>
      rintro ⟨_, paired⟩
      obtain ⟨log, passed⟩ := carryOn_of_ok site.path ended
      obtain ⟨twinLog, twinPassed⟩ := carryOn_of_ok site.path twinEnded
      rw [passed, twinPassed]
      obtain ⟨same, alike, draft, still, there, twinThere⟩ := paired
      refine .begun here begun ?_ ?_ ⟨same, alike, draft, still, there, twinThere⟩
      · rw [← begun.before]
        exact policy_of_at there
      · rw [← begun.counterpart]
        exact policy_of_at twinThere
  | error failure last =>
    cases twinEnded : startDraft settings declared openedTwin with
    | ok value startedTwin => rintro ⟨⟩
    | error counterpart lastTwin =>
      intro drafted
      cases drafted with
      | error both paired =>
        rw [carryOn_of_error site.path ended, carryOn_of_error site.path twinEnded]
        exact .refused (aligned_of_both begun.isolated both)
          (leave_parted begun here (parted_of_paired paired))

/-- The file of a class is opened in both worlds. -/
theorem opened_alike {site : Site} {front : List String} {package : String}
    (prospects : Prospects directory settings declared target? world twin)
    (owned : declared.package? = some package) (here : target? = some site.target)
    (way : SameWay site world.files twin.files) (fated : site.Fated world.files front none) :
    let opening := begin site.path (world.own.generatedName declared) >>= fun _ =>
      carryOn settings declared site.path
    StartsAlike settings target? world twin (opening world) (opening twin) := by
  intro opening
  obtain ⟨files, created, made⟩ := Site.create_opened way.ready fated
  obtain ⟨others, twinCreated, twinMade⟩ :=
    Site.create_opened way.counterpart (Site.fated_alike fated way.alike)
  obtain ⟨released, own⟩ := prospects.own
  have template := fun given => prospects.template given (site.filled .empty) files others
    (here ▸ site.ends_filled _) made twinMade
  let first : Target := ⟨world.own, site.path, site.target, package, "", ""⟩
  let second : Target := ⟨twin.own, site.path, site.target, package, "", ""⟩
  have begun : Begun settings site world twin first second files others := by
    refine ⟨rfl, rfl, rfl, rfl, ⟨?_, fun given => (template given).read⟩, made, twinMade,
      isolated_of_template template⟩
    change twin.own.templateName = _
    rw [own]
  simp only [opening]
  rw [bind_of_ok (begin_of_created created), bind_of_ok (begin_of_created twinCreated)]
  exact carryOn_alike begun here owned ⟨rfl, rfl, rfl⟩ rfl rfl

/-- The start of a class ends alike in both worlds. -/
theorem startClass_alike (prospects : Prospects directory settings declared target? world twin) :
    StartsAlike settings target? world twin
      (startClass settings declared (.outside directory) world)
      (startClass settings declared (.outside directory) twin) := by
  by_cases enum : declared.kind = .enum
  · simp only [startClass, if_pos enum]
    exact .declined (spent_self rfl rfl rfl rfl)
  · cases owned : declared.package? with
    | none =>
      simp only [startClass, if_neg enum, owned]
      exact .refused ⟨.same _, rfl, rfl⟩ (spent_self rfl rfl rfl rfl)
    | some package =>
      obtain ⟨site, here, way, path⟩ := prospects.way package owned
      obtain ⟨released, own⟩ := prospects.own
      have named : twin.own.generatedName declared = world.own.generatedName declared := by
        rw [own]
        rfl
      rw [startClass_ordinary (.outside directory) enum owned,
        startClass_ordinary (.outside directory) enum owned, named]
      simp only [Position.outside, path]
      obtain ⟨front, error?, fated⟩ := Site.exists_fated world.files site
      cases error? with
      | none => exact opened_alike prospects owned here way fated
      | some error =>
        obtain ⟨failure, counterpart, files, others, refused, twinRefused, aligned, spent⟩ :=
          refused_aligned here way fated
        rw [bind_of_error refused, bind_of_error twinRefused]
        exact .refused aligned spent

/-! ## The visit -/

/-- What the visit of a class leaves of two runs: both times its name is entered, or both
times the books stay as they are. -/
structure Visited (declared : ClassDecl) (target? : Option (List String))
    (session other after later : Session State) : Prop where
  books : after.ledger = session.ledger ∧ later.ledger = other.ledger ∨
    after.ledger = completedLedger session.ledger session.world.own.policy declared ∧
      later.ledger = completedLedger other.ledger other.world.own.policy declared
  spent : Spent target? session.world after.world other.world later.world

/-- A class that was begun in both runs ends alike. -/
theorem begun_alike {site : Site} {first second : Target} {files others : FileTree}
    {started twinStarted : World State} (fresh : declared.name ∉ session.ledger.generated)
    (twinFresh : declared.name ∉ other.ledger.generated)
    (settings : other.ledger.settings = session.ledger.settings)
    (index : other.ledger.index = session.ledger.index)
    (policy : other.world.own.policy = session.world.own.policy) (proper : declared.Proper)
    (here : target? = some site.target)
    (begun : Begun session.ledger.settings site (asked declared session) (asked declared other)
      first second files others)
    (same : started.own.policy = session.world.own.policy)
    (twinSame : twinStarted.own.policy = other.world.own.policy)
    (paired : Paired first second files others started twinStarted)
    (start : generator.startClass session.ledger.settings declared (.outside directory)
      (asked declared session) = .ok true started)
    (twinStart : generator.startClass other.ledger.settings declared (.outside directory)
      (asked declared other) = .ok true twinStarted) :
    Alike (Visited declared target? session other) Failure.Aligned
      (visitClass generator (.outside directory) declared session)
      (visitClass generator (.outside directory) declared other) := by
  have rest : Alike (Beside session.ledger other.ledger (Parted first second files others))
      (Both (Stops session.ledger.settings first files))
      (remainder generator directory declared session.ledger.index session.world.own.policy
        ⟨session.ledger, started⟩)
      (remainder generator directory declared session.ledger.index session.world.own.policy
        ⟨other.ledger, twinStarted⟩) :=
    remainder_alike generator_agrees rfl settings _ _ proper (fun _ _ => parted_of_paired)
      (fun _ _ _ => endClass_alike begun.fellows) paired
  have ended := visitClass_begun fresh start
  have twinEnded := visitClass_begun twinFresh twinStart
  rw [show generator.policy started.own = session.world.own.policy from same] at ended
  rw [show generator.policy twinStarted.own = session.world.own.policy from twinSame.trans policy,
    index] at twinEnded
  rcases ended with ⟨failure, last, failed, visited⟩ | ⟨last, log, done, visited⟩
  · rcases twinEnded with ⟨counterpart, twinLast, twinFailed, twinVisited⟩ | ⟨_, _, twinDone, -⟩
    · rw [failed, twinFailed] at rest
      rw [visited, twinVisited]
      cases rest with
      | error both beside =>
        have spent := leave_parted begun here beside.world
        exact .error (aligned_of_both begun.isolated both)
          ⟨.inl ⟨rfl, rfl⟩, ⟨spent.own, spent.counterpart, spent.files⟩⟩
    · rw [failed, twinDone] at rest
      cases rest
  · rcases twinEnded with ⟨_, _, twinFailed, -⟩ | ⟨twinLast, twinLog, twinDone, twinVisited⟩
    · rw [done, twinFailed] at rest
      cases rest
    · rw [done, twinDone] at rest
      rw [visited, twinVisited, ← policy]
      cases rest with
      | ok value beside =>
        have spent := leave_parted begun here beside.world
        exact Alike.ok _ ⟨.inr ⟨by rw [policy], rfl⟩,
          ⟨spent.own, spent.counterpart, spent.files⟩⟩

/-- A class whose starts end alike ends alike. -/
theorem started_alike {result twinResult : EStateM.Result Failure (World State) Bool}
    (fresh : declared.name ∉ session.ledger.generated)
    (twinFresh : declared.name ∉ other.ledger.generated)
    (settings : other.ledger.settings = session.ledger.settings)
    (index : other.ledger.index = session.ledger.index)
    (policy : other.world.own.policy = session.world.own.policy) (proper : declared.Proper)
    (start : generator.startClass session.ledger.settings declared (.outside directory)
      (asked declared session) = result)
    (twinStart : generator.startClass other.ledger.settings declared (.outside directory)
      (asked declared other) = twinResult)
    (starts : StartsAlike session.ledger.settings target? (asked declared session)
      (asked declared other) result twinResult) :
    Alike (Visited declared target? session other) Failure.Aligned
      (visitClass generator (.outside directory) declared session)
      (visitClass generator (.outside directory) declared other) := by
  cases starts with
  | declined spent =>
    obtain ⟨message, visited⟩ := visitClass_declined fresh start
    obtain ⟨twinMessage, twinVisited⟩ := visitClass_declined twinFresh twinStart
    rw [visited, twinVisited]
    exact Alike.ok _ ⟨.inl ⟨rfl, rfl⟩, ⟨spent.own, spent.counterpart, spent.files⟩⟩
  | refused aligned spent =>
    rw [visitClass_refused fresh start, visitClass_refused twinFresh twinStart]
    exact .error aligned ⟨.inl ⟨rfl, rfl⟩, ⟨spent.own, spent.counterpart, spent.files⟩⟩
  | begun here begun same twinSame paired =>
    exact begun_alike fresh twinFresh settings index policy proper here begun same twinSame paired
      start twinStart

/-- **The visit of one class in two runs.** In runs in which a class has the same
prospects its visits end alike: both times it is generated, or passed over, or fails for
the same reason, and the same becomes of the files. -/
theorem visitClass_alike (fresh : declared.name ∉ session.ledger.generated)
    (twinFresh : declared.name ∉ other.ledger.generated)
    (settings : other.ledger.settings = session.ledger.settings)
    (index : other.ledger.index = session.ledger.index) (proper : declared.Proper)
    (prospects : Prospects directory session.ledger.settings declared target? session.world
      other.world) :
    Alike (Visited declared target? session other) Failure.Aligned
      (visitClass generator (.outside directory) declared session)
      (visitClass generator (.outside directory) declared other) := by
  have policy : other.world.own.policy = session.world.own.policy := by
    obtain ⟨released, own⟩ := prospects.own
    rw [own]
  have askedProspects : Prospects directory session.ledger.settings declared target?
      (asked declared session) (asked declared other) :=
    ⟨prospects.own, prospects.way, prospects.template⟩
  have starts := startClass_alike askedProspects
  apply started_alike fresh twinFresh settings index policy proper rfl rfl
  rw [settings]
  exact starts

end Delegate

end DelegateClasses
