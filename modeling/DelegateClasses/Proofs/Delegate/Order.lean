import DelegateClasses.Proofs.Delegate.Overlong
import DelegateClasses.Proofs.Delegate.Places
import Mathlib.Data.List.Nodup

/-! The order of the classes of a run. If their files do not get in each other's way, each
class does what it does by itself, whatever was generated before it: the same failure, the
same file. Main statement: the classes can be given in any order. -/
namespace DelegateClasses

namespace Delegate
open FileTree Steps Processing

variable {text : String} {place : List String} {start session : Session State}
variable {classes done others : List ClassDecl} {declared : ClassDecl} {world : World State}
variable {result : RoundResult} {targets : List (List String)}

/-! ## Classes that do not get in each other's way -/

/-- Classes whose files do not get in each other's way, at the start of a run. -/
structure Independent (classes : List ClassDecl) (text : String) (place : List String)
    (start : Session State) : Prop where
  names : (classes.map (·.name)).Nodup
  proper : ∀ declared ∈ classes, declared.Proper
  nameable : ∀ declared ∈ classes, '\x00' ∉ declared.name.toList
  suffix : '/' ∉ start.world.own.suffix.toList ∧ '\x00' ∉ start.world.own.suffix.toList
  directory : '\x00' ∉ text.toList
  rooted : start.world.files.Rooted
  /-- The output directory is there, or can be made. -/
  aims : Aims start.world.files (.ofText text) place
  /-- No file of a class is that of another class or above it. -/
  apart : (classes.filterMap (filePlace place start.world.own)).Pairwise fun target other =>
    ¬ target <+: other ∧ ¬ other <+: target
  /-- Superclasses are folded at most. -/
  folding : start.world.own.policy.action = .fold
  fresh : start.ledger.generated = []
  idle : start.ledger.pending = []
  template : start.world.own.templateName ≠ "" →
    let path := (start.ledger.settings.resource start.world.own.templateName).text
    '\x00' ∉ path.toList ∧
    Undisturbed start.world.files (classes.filterMap (filePlace place start.world.own)) path ∧
    ∀ bytes, start.world.files.read path = .ok bytes → ∃ text, Text.decode bytes = .text text

theorem independent_perm (independent : Independent classes text place start)
    (perm : classes.Perm others) : Independent others text place start where
  names := (perm.map _).nodup_iff.1 independent.names
  proper := fun declared member => independent.proper declared (perm.mem_iff.2 member)
  nameable := fun declared member => independent.nameable declared (perm.mem_iff.2 member)
  suffix := independent.suffix
  directory := independent.directory
  rooted := independent.rooted
  aims := independent.aims
  apart := by
    refine ((perm.filterMap _).pairwise_iff ?_).1 independent.apart
    rintro target other ⟨below, above⟩
    exact ⟨above, below⟩
  folding := independent.folding
  fresh := independent.fresh
  idle := independent.idle
  template := by
    intro given
    obtain ⟨nameable, undisturbed, decodes⟩ := independent.template given
    have same : ∀ target, target ∈ others.filterMap (filePlace place start.world.own) ↔
        target ∈ classes.filterMap (filePlace place start.world.own) :=
      fun target => ((perm.filterMap _).mem_iff).symm
    refine ⟨nameable, ⟨fun here content leads member => ?_, ?_⟩, decodes⟩
    · exact undisturbed.file here content leads ((same here).1 member)
    · intro front name rest above parts reached missing target member
      exact undisturbed.missing front name rest above parts reached missing target
        ((same target).1 member)

/-- What was made for other classes does not change the prospects of a class. -/
theorem prospects_of_independent (independent : Independent classes text place start)
    (member : declared ∈ classes)
    (grown : Grown targets start.world.files world.files)
    (own : ∃ released, world.own = { start.world.own with released })
    (within : targets ⊆ classes.filterMap (filePlace place start.world.own))
    (apart : ∀ target, filePlace place start.world.own declared = some target →
      ∀ other ∈ targets, ¬ other <+: target ∧ ¬ target <+: other) :
    Prospects (.ofText text) start.ledger.settings declared
      (filePlace place start.world.own declared) start.world world where
  own := own
  way := by
    intro package owned
    obtain ⟨site, target, path, leads⟩ :=
      exists_site independent.aims independent.suffix.1 owned
    have nameable := outputPath_nameable independent.directory
      (independent.nameable declared member) independent.suffix.2 owned
    rw [path] at nameable
    exact ⟨site, target, sameWay_of_grown independent.rooted leads nameable grown
      (apart site.target target), path⟩
  template := by
    intro given patch files counterpart ends made again
    obtain ⟨nameable, undisturbed, decodes⟩ := independent.template given
    have itself : (filePlace place start.world.own declared).toList ⊆
        classes.filterMap (filePlace place start.world.own) := by
      intro target inside
      exact List.mem_filterMap.2 ⟨declared, member, by simpa using inside⟩
    have grownFiles := grown_mono (grown_patched (grown_refl _) made ends)
      (List.append_subset.2 ⟨List.nil_subset _, itself⟩)
    have grownCounterpart := grown_mono (grown_patched grown again ends)
      (List.append_subset.2 ⟨within, itself⟩)
    have same := read_undisturbed independent.rooted undisturbed grownFiles
    have likewise := read_undisturbed independent.rooted undisturbed grownCounterpart
    refine ⟨likewise.trans same.symm, fun error refused => read_nameable nameable refused, ?_⟩
    intro bytes read
    exact decodes bytes (same.symm.trans read)

/-! ## The turn of a class -/

/-- What a class does by itself, at the start of a run. -/
def alone (directory : Path) (start : Session State) (declared : ClassDecl) :
    EStateM.Result Failure (Session State) Unit :=
  visitClass generator (.outside directory) declared start

/-- Whether a class is generated by itself. -/
def completes (directory : Path) (start : Session State) (declared : ClassDecl) : Bool :=
  (left (alone directory start declared)).ledger.generated.contains declared.name

/-- Whether a class fails by itself. -/
def fails (directory : Path) (start : Session State) (declared : ClassDecl) : Bool :=
  (failure? (alone directory start declared)).isSome

/-- Some classes had their turn, and each did what it does by itself. -/
structure Reached (text : String) (place : List String) (start : Session State)
    (done : List ClassDecl) (result : RoundResult) (session : Session State) : Prop where
  settings : session.ledger.settings = start.ledger.settings
  index : session.ledger.index = start.ledger.index
  idle : session.ledger.pending = []
  own : ∃ released, session.world.own = { start.world.own with released }
  generated : session.ledger.generated =
    (done.filter (completes (.ofText text) start)).map (·.name)
  reported : result.generated = session.ledger.generated
  failed : result.failures.map Prod.fst = (done.filter (fails (.ofText text) start)).map (·.name)
  likened : ∀ name failure, (name, failure) ∈ result.failures → ∃ declared ∈ done,
    declared.name = name ∧ ∃ reason, failure? (alone (.ofText text) start declared) = some reason ∧
      reason.Likened failure
  grown : Grown (done.filterMap (filePlace place start.world.own)) start.world.files
    session.world.files
  overlaid : Overlaid (done.map fun declared =>
    (left (alone (.ofText text) start declared)).world.files) start.world.files session.world.files

/-- By itself a class has the prospects that it has at the start of the run. -/
theorem alone_patched (independent : Independent classes text place start)
    (member : declared ∈ classes) : ∃ patch : Patch,
      patch.Ends (filePlace place start.world.own declared) ∧
      Patched patch start.world.files (left (alone (.ofText text) start declared)).world.files := by
  have prospects := prospects_of_independent independent member (grown_refl start.world.files)
    ⟨start.world.own.released, rfl⟩ (List.nil_subset _) fun _ _ _ outside => (by cases outside)
  have fresh : declared.name ∉ start.ledger.generated := by
    rw [independent.fresh]
    exact List.not_mem_nil
  have visited := (visitClass_alike fresh fresh rfl rfl (independent.proper declared member)
    prospects).left
  obtain ⟨patch, ends, made, -⟩ := visited.spent.files
  exact ⟨patch, ends, made⟩

section Turn

variable {rest : List ClassDecl} (independent : Independent classes text place start)
variable (parts : done ++ declared :: rest = classes)

include independent parts

private theorem name_not_done : declared.name ∉ done.map (·.name) := by
  have names := independent.names
  rw [← parts, List.map_append, List.map_cons, List.nodup_append] at names
  intro earlier
  exact names.2.2 _ earlier _ List.mem_cons_self rfl

private theorem name_not_generated (reached : Reached text place start done result session) :
    declared.name ∉ session.ledger.generated := by
  rw [reached.generated]
  intro listed
  obtain ⟨other, among, same⟩ := List.mem_map.1 listed
  apply name_not_done independent parts
  rw [← same]
  exact List.mem_map_of_mem (List.mem_of_mem_filter among)

private theorem name_not_failed (reached : Reached text place start done result session) :
    result.failed declared.name = false := by
  rw [Bool.eq_false_iff]
  intro failed
  obtain ⟨⟨name, failure⟩, among, same⟩ := List.any_eq_true.1 failed
  have listed := List.mem_map_of_mem (f := Prod.fst) among
  rw [reached.failed] at listed
  obtain ⟨other, earlier, named⟩ := List.mem_map.1 listed
  apply name_not_done independent parts
  rw [← eq_of_beq same, ← named]
  exact List.mem_map_of_mem (List.mem_of_mem_filter earlier)

/-- The file of a class is apart from those of the classes before it. -/
private theorem apart_of_done {other : ClassDecl} (earlier : other ∈ done) :
    Patch.Apart (filePlace place start.world.own other)
      (filePlace place start.world.own declared) := by
  have files := independent.apart
  rw [← parts, List.filterMap_append, List.pairwise_append] at files
  intro target last there here
  exact files.2.2 target (List.mem_filterMap.2 ⟨other, earlier, there⟩) last
    (List.mem_filterMap.2 ⟨declared, List.mem_cons_self, here⟩)

/-- A class that has its turn does what it does by itself. -/
theorem turn_alike (reached : Reached text place start done result session) :
    Alike (Visited declared (filePlace place start.world.own declared) start
        (noted ("Processing " ++ declared.name) session)) Failure.Aligned
      (alone (.ofText text) start declared)
      (visitClass generator (.outside (.ofText text)) declared
        (noted ("Processing " ++ declared.name) session)) := by
  have member : declared ∈ classes := by
    rw [← parts]
    simp
  have prospects : Prospects (.ofText text) start.ledger.settings declared
      (filePlace place start.world.own declared) start.world session.world := by
    apply prospects_of_independent independent member reached.grown reached.own
    · intro target inside
      rw [← parts, List.filterMap_append]
      exact List.mem_append_left _ inside
    · intro target here other earlier
      obtain ⟨before, among, there⟩ := List.mem_filterMap.1 earlier
      exact apart_of_done independent parts among other target there here
  apply visitClass_alike
  · rw [independent.fresh]
    exact List.not_mem_nil
  · rw [noted_ledger]
    exact name_not_generated independent parts reached
  · exact reached.settings
  · exact reached.index
  · exact independent.proper declared member
  · exact ⟨prospects.own, prospects.way, prospects.template⟩

end Turn

/-- The books are kept as they are for the class by itself. -/
private theorem visited_books {target? : Option (List String)} {other after later : Session State}
    (folding : start.world.own.policy.action = .fold)
    (same : other.world.own.policy = start.world.own.policy)
    (visited : Visited declared target? start other after later) :
    after.ledger = start.ledger ∧ later.ledger = other.ledger ∨
      after.ledger = start.ledger.complete declared.name ∧
        later.ledger = other.ledger.complete declared.name := by
  have books := visited.books
  rw [same, completedLedger_folding folding, completedLedger_folding folding] at books
  exact books

/-- Whether its name is entered is told by the class by itself. -/
private theorem entered_of_books {directory : Path} {later : Session State}
    (fresh : start.ledger.generated = []) (new : declared.name ∉ session.ledger.generated)
    (books : (left (alone directory start declared)).ledger = start.ledger ∧
        later.ledger = session.ledger ∨
      (left (alone directory start declared)).ledger = start.ledger.complete declared.name ∧
        later.ledger = session.ledger.complete declared.name) :
    later.ledger.generated = session.ledger.generated ++
      ([declared].filter (completes directory start)).map (·.name) := by
  rcases books with ⟨itself, now⟩ | ⟨itself, now⟩
  · have passed : completes directory start declared = false := by
      rw [completes, itself, fresh]
      rfl
    rw [now]
    simp [passed]
  · have done : completes directory start declared = true := by
      rw [completes, itself, generated_complete (by rw [fresh]; exact List.not_mem_nil)]
      simp
    rw [now, generated_complete new]
    simp [done]

section Failing

variable {directory : Path} {visit : EStateM.Result Failure (Session State) Unit}
variable (outcome : Option.Rel Failure.Aligned (failure? (alone directory start declared))
  (failure? visit))

include outcome

/-- Whether it fails is told by the class by itself. -/
private theorem failed_of_outcome :
    ((failure? visit).toList.map fun failure => (declared.name, failure)).map Prod.fst =
      ([declared].filter (fails directory start)).map (·.name) := by
  rw [List.filter_singleton, fails]
  revert outcome
  generalize failure? visit = now
  generalize failure? (alone directory start declared) = before
  rintro (_ | _) <;> rfl

/-- What it fails with is told by the class by itself. -/
private theorem likened_of_outcome {name : String} {failure : Failure}
    (member : (name, failure) ∈ (failure? visit).toList.map fun failure =>
      (declared.name, failure)) :
    declared.name = name ∧ ∃ reason, failure? (alone directory start declared) = some reason ∧
      reason.Likened failure := by
  obtain ⟨same, now, named⟩ := List.mem_map.1 member
  cases named
  rw [Option.mem_toList.1 now] at outcome
  obtain ⟨reason, failed, aligned⟩ := failure_of_rel outcome
  exact ⟨rfl, reason, failed, aligned.likened⟩

end Failing

/-- A class that did what it does by itself joins the classes before it. -/
theorem reached_concat {rest : List ClassDecl} (independent : Independent classes text place start)
    (parts : done ++ declared :: rest = classes)
    (reached : Reached text place start done result session)
    {visit : EStateM.Result Failure (Session State) Unit}
    (visited : Visited declared (filePlace place start.world.own declared) start
      (noted ("Processing " ++ declared.name) session)
      (left (alone (.ofText text) start declared)) (left visit))
    (outcome : Option.Rel Failure.Aligned (failure? (alone (.ofText text) start declared))
      (failure? visit)) (log : Log) :
    Reached text place start (done ++ [declared])
      ⟨result.generated ++ (left visit).ledger.generated.drop session.ledger.generated.length,
        result.failures ++ (failure? visit).toList.map fun failure => (declared.name, failure)⟩
      ⟨(left visit).ledger, { (left visit).world with log }⟩ := by
  obtain ⟨released, own⟩ := reached.own
  have books := visited_books independent.folding (by rw [noted_own, own]) visited
  rw [noted_ledger] at books
  have entered := entered_of_books independent.fresh
    (name_not_generated independent parts reached) books
  obtain ⟨patch, ends, itself, made⟩ := visited.spent.files
  rw [noted_files] at made
  have entries : (left visit).ledger.settings = session.ledger.settings ∧
      (left visit).ledger.index = session.ledger.index ∧
      (left visit).ledger.pending = session.ledger.pending := by
    rcases books with ⟨-, now⟩ | ⟨-, now⟩
    · rw [now]
      exact ⟨rfl, rfl, rfl⟩
    · rw [now]
      exact ⟨settings_complete _ _, index_complete _ _, pending_complete _ _⟩
  constructor
  case settings => exact entries.1.trans reached.settings
  case index => exact entries.2.1.trans reached.index
  case idle => exact entries.2.2.trans reached.idle
  case own =>
    obtain ⟨more, later⟩ := visited.spent.counterpart
    refine ⟨more, later.trans ?_⟩
    rw [noted_own, own]
  case generated => rw [entered, reached.generated, List.filter_append, List.map_append]
  case reported =>
    change result.generated ++ List.drop _ (left visit).ledger.generated =
      (left visit).ledger.generated
    rw [entered, List.drop_left, reached.reported]
  case failed =>
    rw [List.map_append, reached.failed, failed_of_outcome outcome, List.filter_append,
      List.map_append]
  case likened =>
    intro name failure member
    rcases List.mem_append.1 member with earlier | last
    · obtain ⟨other, among, itself⟩ := reached.likened name failure earlier
      exact ⟨other, List.mem_append_left _ among, itself⟩
    · exact ⟨declared, List.mem_append_right _ (List.mem_singleton.2 rfl),
        likened_of_outcome outcome last⟩
  case grown =>
    apply grown_mono (grown_patched reached.grown made ends)
    rw [List.filterMap_append]
    apply List.append_subset.2 ⟨List.subset_append_left _ _, ?_⟩
    intro target inside
    apply List.mem_append_right
    exact List.mem_filterMap.2 ⟨declared, List.mem_singleton.2 rfl, Option.mem_toList.1 inside⟩
  case overlaid =>
    rw [List.map_append]
    apply overlaid_concat reached.overlaid itself made
    intro tree inside
    obtain ⟨other, earlier, rfl⟩ := List.mem_map.1 inside
    obtain ⟨counterpart, leads, changed⟩ := alone_patched independent
      (parts ▸ List.mem_append_left _ earlier)
    refine ⟨counterpart, changed, Patch.compatible_of_apart ends leads ?_⟩
    intro target last here there
    exact (apart_of_done independent parts earlier last target there here).symm

/-- After the turn of a class all classes so far have done what they do by themselves. -/
theorem reached_turn {rest : List ClassDecl} (independent : Independent classes text place start)
    (parts : done ++ declared :: rest = classes)
    (reached : Reached text place start done result session) :
    ∃ next after, processWithSuperclasses generator (.outside (.ofText text)) result declared
        session = .ok next after ∧ Reached text place start (done ++ [declared]) next after := by
  have alike := turn_alike independent parts reached
  have spared := name_not_failed independent parts reached
  have outcome := alike.failure?
  obtain ⟨log, ran⟩ := processClass_eq spared rfl fun failure failed => by
    rw [Option.mem_def.1 failed] at outcome
    obtain ⟨reason, -, aligned⟩ := failure_of_rel outcome
    exact aligned.counterpart
  have still := reached_concat independent parts reached alike.left outcome log
  refine ⟨_, _, ?_, still⟩
  rw [processWithSuperclasses, bind_of_ok ran, get_bind, drain_idle _ _ still.idle]

theorem reached_start (independent : Independent classes text place start) :
    Reached text place start [] .empty start where
  settings := rfl
  index := rfl
  idle := independent.idle
  own := ⟨_, rfl⟩
  generated := independent.fresh
  reported := independent.fresh.symm
  failed := rfl
  likened := fun _ _ member => (by cases member)
  grown := grown_refl _
  overlaid := overlaid_nil _

/-- A round comes to its end, and each class did what it does by itself. -/
theorem process_reached (independent : Independent classes text place start) :
    ∃ result after, process generator classes (.ofText text) start = .ok result after ∧
      Reached text place start classes result after := by
  suffices run : ∀ rest done result session, done ++ rest = classes →
      Reached text place start done result session →
      ∃ last after, rest.foldlM (processWithSuperclasses generator (.outside (.ofText text))) result
        session = .ok last after ∧ Reached text place start classes last after from
    run classes [] .empty start rfl (reached_start independent)
  intro rest
  induction rest with
  | nil =>
    intro done result session parts reached
    rw [List.append_nil] at parts
    subst parts
    exact ⟨result, session, rfl, reached⟩
  | cons declared rest ih =>
    intro done result session parts reached
    obtain ⟨next, after, ran, turned⟩ := reached_turn independent parts reached
    obtain ⟨last, final, others, ended⟩ := ih (done ++ [declared]) next after (by simp [parts]) turned
    rw [List.foldlM_cons, bind_of_ok ran]
    exact ⟨last, final, others, ended⟩

/-! ## The order of a run -/

theorem likened_symm {failure counterpart : Failure} (likened : failure.Likened counterpart) :
    counterpart.Likened failure := by
  cases likened with
  | same => exact .same _
  | longName path first second => exact .longName path second first

theorem likened_trans {failure middle counterpart : Failure} (first : failure.Likened middle)
    (second : middle.Likened counterpart) : failure.Likened counterpart := by
  cases first with
  | same => exact second
  | longName path before between =>
    cases second with
    | same => exact .longName _ _ _
    | longName path between after => exact .longName _ _ _

/-- **The order does not matter.** Independent classes can be given in any order: the same
ones are generated, the same ones fail, for the same reasons, and the files are the same.
Only the directory that is named in an error about a name that is too long may differ. -/
theorem classes_generated_in_any_order (classes others : List ClassDecl) (text : String)
    (place : List String) (start : Session State)
    (independent : Independent classes text place start) (perm : classes.Perm others) :
    ∃ result after other later,
      process generator classes (.ofText text) start = .ok result after ∧
      process generator others (.ofText text) start = .ok other later ∧
      result.generated.Perm other.generated ∧
      (result.failures.map Prod.fst).Perm (other.failures.map Prod.fst) ∧
      (∀ name failure counterpart, (name, failure) ∈ result.failures →
        (name, counterpart) ∈ other.failures → failure.Likened counterpart) ∧
      ∀ place, after.world.files.node? place = later.world.files.node? place := by
  obtain ⟨result, after, ran, reached⟩ := process_reached independent
  obtain ⟨other, later, again, counterpart⟩ :=
    process_reached (independent_perm independent perm)
  refine ⟨result, after, other, later, ran, again, ?_, ?_, ?_, ?_⟩
  · rw [reached.reported, counterpart.reported, reached.generated, counterpart.generated]
    exact (perm.filter _).map _
  · rw [reached.failed, counterpart.failed]
    exact (perm.filter _).map _
  · intro name failure matching failed likewise
    obtain ⟨declared, member, named, reason, itself, first⟩ :=
      reached.likened name failure failed
    obtain ⟨twin, among, same, cause, alike, second⟩ :=
      counterpart.likened name matching likewise
    obtain rfl : declared = twin := by
      apply List.inj_on_of_nodup_map independent.names member (perm.mem_iff.2 among)
      rw [named, same]
    cases itself.symm.trans alike
    exact likened_trans (likened_symm first) second
  · intro place
    apply overlaid_unique reached.overlaid counterpart.overlaid
    exact fun tree => (perm.map _).mem_iff

/-- A class that is generated and one that fails, in either order. -/
theorem box_and_bag_in_either_order :
    let get : MethodDecl := { name := "get", returns := ⟨"java.util.List"⟩ }
    let bad : MethodDecl := { name := "get", returns := ⟨"List<"⟩ }
    let box : ClassDecl := ⟨"a.Box", .ordinary, none, ["public"], [.method get]⟩
    let bag : ClassDecl := ⟨"a.Bag", .ordinary, none, ["public"], [.method bad]⟩
    let start : Session State :=
      ⟨.start .empty, ⟨⟨[], [(["out"], .directory)]⟩, .empty, .start defaultSuffix .never⟩⟩
    Independent [box, bag] "out" ["out"] start ∧ [box, bag].Perm [bag, box] ∧
    ∃ result after other later,
      process generator [box, bag] (.ofText "out") start = .ok result after ∧
      process generator [bag, box] (.ofText "out") start = .ok other later ∧
      result.generated.Perm other.generated ∧
      (result.failures.map Prod.fst).Perm (other.failures.map Prod.fst) ∧
      (∀ name failure counterpart, (name, failure) ∈ result.failures →
        (name, counterpart) ∈ other.failures → failure.Likened counterpart) ∧
      ∀ place, after.world.files.node? place = later.world.files.node? place := by
  intro get bad box bag start
  have independent : Independent [box, bag] "out" ["out"] start := by
    constructor
    case names => decide
    case proper => simp [ClassDecl.Proper, box, bag]
    case nameable => decide
    case suffix => decide
    case directory => decide
    case rooted =>
      intro place name node stands
      have inner : place ++ [name] ≠ [] := by simp
      rw [FileTree.node?, if_neg inner] at stands
      by_cases key : place ++ [name] = ["out"]
      · rcases List.append_eq_singleton_iff.1 key with ⟨rfl, -⟩ | ⟨-, none⟩
        · rfl
        · cases none
      · have apart : (place ++ [name] == ["out"]) = false := by simpa using key
        simp [start, List.lookup_cons, apart] at stands
    case aims => exact ⟨["out"], [], ["out"], by decide, by simp [Downward], rfl, rfl⟩
    case apart => decide +kernel
    case folding => rfl
    case fresh => rfl
    case idle => rfl
    case template => exact fun given => absurd rfl given
  have perm : [box, bag].Perm [bag, box] := List.Perm.swap bag box []
  exact ⟨independent, perm,
    classes_generated_in_any_order [box, bag] [bag, box] "out" ["out"] start independent perm⟩

/-- Without these conditions the order decides. A template that is missing is reported as
a directory once one was made there for a class, and two classes whose paths lead to one
file leave what the last of them wrote. A null character in the suffix aborts the run. A name
that is too long is reported with the directory at which it was met, and that is another one
if what is above the name was made for a class before. -/
theorem runs_that_depend_on_order :
    let plain (name : String) : ClassDecl := ⟨name, .ordinary, none, ["public"], []⟩
    let start (suffix template : String) : Session State :=
      ⟨.start .empty, ⟨⟨["w"], [(["w"], .directory), (["w", "out"], .directory)]⟩, .empty,
        { State.start suffix .never with templateName := template }⟩⟩
    let messages (names : List String) (suffix template : String) :
        Option (List (String × String)) :=
      match process generator (names.map plain) (.ofText "out") (start suffix template) with
      | .ok result _ => some (result.failures.map fun entry => (entry.1, entry.2.message))
      | .error _ _ => none
    let written (names : List String) (place : List String) : Option (Option Nat) :=
      match process generator (names.map plain) (.ofText "out") (start defaultSuffix "") with
      | .ok _ after => some ((after.world.files.file? place).map ByteArray.size)
      | .error _ _ => none
    (filePlace ["w", "out"] (start defaultSuffix "out/a").world.own (plain "a.A") =
        some ["w", "out", "a", "AWrapper.java"] ∧
      filePlace ["w", "out"] (start defaultSuffix "out/a").world.own (plain "b.B") =
        some ["w", "out", "b", "BWrapper.java"] ∧
      ((start defaultSuffix "out/a").world.files.resolve "out/a").toOption.isNone ∧
      messages ["a.A", "b.B"] defaultSuffix "out/a" = some
        [("a.A", "Could not open template 'out/a': [Errno 21] Is a directory: 'out/a'"),
          ("b.B", "Could not open template 'out/a': [Errno 21] Is a directory: 'out/a'")] ∧
      messages ["b.B", "a.A"] defaultSuffix "out/a" = some
        [("b.B", "Could not open template 'out/a': [Errno 2] No such file or directory: 'out/a'"),
          ("a.A", "Could not open template 'out/a': [Errno 21] Is a directory: 'out/a'")]) ∧
    (outputPath (.ofText "out") "a" "AWrapper" ≠ outputPath (.ofText "out") ".w.out.a" "AWrapper" ∧
      written ["a.A", ".w.out.a.A"] ["w", "out", "a", "AWrapper.java"] = some (some 0) ∧
      written [".w.out.a.A", "a.A"] ["w", "out", "a", "AWrapper.java"] = some (some 131)) ∧
    messages ["a.A"] "\x00" "" = none ∧
    (let long := String.ofList (List.replicate 256 'l')
      let deep (inner : String) : String := DottedName.member ("x." ++ long ++ "." ++ inner) "A"
      let refusal (inner blamed : String) : String :=
        "Could not create output file '" ++
          ("out/x/" ++ long ++ "/" ++ inner ++ "/AWrapper.java") ++
          "': " ++ ("[Errno 36] File name too long: " ++ ("'" ++ blamed ++ "'"))
      messages [deep "p", deep "q"] defaultSuffix "" = some
        [(deep "p", refusal "p" ("out/x/" ++ long)),
          (deep "q", refusal "q" ("out/x/" ++ long ++ "/" ++ "q"))] ∧
      messages [deep "q", deep "p"] defaultSuffix "" = some
        [(deep "q", refusal "q" ("out/x/" ++ long)),
          (deep "p", refusal "p" ("out/x/" ++ long ++ "/" ++ "p"))]) := by
  intro plain start messages written
  refine ⟨⟨?_, ?_, ?_, ?_, ?_⟩, ⟨?_, ?_, ?_⟩, ?_, ?longName⟩
  case longName =>
    intro long deep refusal
    have letters : ∀ c ∈ long.toList, c = 'l' := by
      intro c member
      rw [String.toList_ofList] at member
      exact List.eq_of_mem_replicate member
    have size : long.utf8ByteSize = 256 := by decide +kernel
    -- The letters and their number are all that is used of the name.
    clear_value long
    have word : Word long := by
      refine ⟨?_, fun c member => by rw [letters c member]; rfl⟩
      rintro rfl
      cases size
    have bare : Bare (start defaultSuffix "") :=
      ⟨rfl, rfl, rfl, rfl, rfl, file?_of_directories (by simp [start])⟩
    have told (one other : String) (first : Word one) (second : Word other) (apart : one ≠ other)
        (least : one.utf8ByteSize ≤ 1000) (less : other.utf8ByteSize ≤ 1000) :
        messages [deep one, deep other] defaultSuffix "" = some
          [(deep one, refusal one ("out/x/" ++ long)),
            (deep other, refusal other ("out/x/" ++ long ++ "/" ++ other))] := by
      obtain ⟨result, after, ran, said⟩ := process_buried word first second apart
        (by rw [size]; decide) (by rw [size]; decide) least less bare rfl
      have classes : [deep one, deep other].map plain = [buried long one, buried long other] := rfl
      simp only [messages, classes, ran, said]
      rfl
    have p : Word "p" := ⟨by decide, List.forall_mem_singleton.2 rfl⟩
    have q : Word "q" := ⟨by decide, List.forall_mem_singleton.2 rfl⟩
    exact ⟨told "p" "q" p q (by decide) (by decide) (by decide),
      told "q" "p" q p (by decide) (by decide) (by decide)⟩
  all_goals decide +kernel

end Delegate

end DelegateClasses
