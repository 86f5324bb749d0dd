import DelegateClasses.Proofs.Processing.Accounting

/-! The waiting list of a round. It never holds more than one class, since every
class that waits has its turn before another can be put there, and only a class
that is completed puts one there. Main statement: the waiting list runs empty, and
the fate of every superclass that a completed class asked for is known then. -/
namespace DelegateClasses.Processing
open Steps

variable {σ : Type} {generator : Generator σ} {directory : Path}
variable {declared found : ClassDecl} {result next : RoundResult}
variable {before : List String} {classes : List ClassDecl}
variable {session after : Session (Watched σ)} {stage later : Stage (Watched σ)}

/-! ## Rounds with and without observation -/

/-- A round in progress, without what was observed. -/
def Stage.plain (stage : Stage (Watched σ)) : Stage σ :=
  ⟨stage.input, stage.result, stage.session.plain⟩

private theorem step_plain (step : Step generator.watched directory stage later) :
    Step generator directory stage.plain later.plain := by
  cases step with
  | waiting pending ran =>
    exact .waiting pending (ran_plain (processClass_mirrors _ _ _) ran)
  | input none ran => exact .input none (ran_plain (processClass_mirrors _ _ _) ran)

private theorem reaches_plain (reached : Reaches generator.watched directory stage later) :
    Reaches generator directory stage.plain later.plain := by
  induction reached with
  | refl => exact .refl
  | tail _ step ih => exact ih.tail (step_plain step)

/-- A turn that is taken can be taken under observation. -/
theorem step_watched {plain : Stage σ} (step : Step generator directory stage.plain plain) :
    ∃ later, Step generator.watched directory stage later ∧ later.plain = plain := by
  obtain ⟨input, result, session⟩ := stage
  cases step with
  | @waiting _ others _ _ _ _ _ pending ran =>
    obtain ⟨after, watched, rfl⟩ := ran_watched (processClass_mirrors _ _ _)
      ⟨{ session.ledger with pending := others }, session.world⟩ ran
    exact ⟨⟨_, _, after⟩, .waiting pending watched, rfl⟩
  | input none ran =>
    obtain ⟨after, watched, rfl⟩ := ran_watched (processClass_mirrors _ _ _) session ran
    exact ⟨⟨_, _, after⟩, .input none watched, rfl⟩

private theorem reaches_watched {plain : Stage σ}
    (reached : Reaches generator directory stage.plain plain) :
    ∃ later, Reaches generator.watched directory stage later ∧ later.plain = plain := by
  induction reached with
  | refl => exact ⟨stage, .refl, rfl⟩
  | tail _ step ih =>
    obtain ⟨middle, reached, rfl⟩ := ih
    obtain ⟨later, more, same⟩ := step_watched step
    exact ⟨later, reached.tail more, same⟩

/-! ## What waits -/

/-- A turn takes nothing off the waiting list. -/
theorem turn_keeps_waiting (turn : Turn declared result session next after)
    (member : found ∈ session.ledger.pending) : found ∈ after.ledger.pending := by
  rcases turn_ledger turn with same | ⟨policy, -, completed⟩
  · rwa [same]
  · rw [completed, pending_completedLedger]
    exact List.mem_append_left _ member

private theorem turn_length (turn : Turn declared result session next after) :
    after.ledger.pending.length ≤ session.ledger.pending.length + 1 := by
  rcases turn_ledger turn with same | ⟨policy, -, completed⟩
  · rw [same]
    exact Nat.le_succ _
  · have more := length_queued_le (session.ledger.complete declared.name) policy declared
    rw [completed, pending_completedLedger, List.length_append]
    exact Nat.add_le_add_left more _

/-- A turn that completes no class puts none on the waiting list. -/
theorem turn_idle (turn : Turn declared result session next after)
    (none : after.ledger.generated = session.ledger.generated) :
    after.ledger.pending = session.ledger.pending := by
  rcases turn_ledger turn with same | ⟨policy, fresh, completed⟩
  · rw [same]
  · have entered : after.ledger.generated = session.ledger.generated ++ [declared.name] := by
      rw [completed, generated_completedLedger _ fresh]
    rw [none] at entered
    exact absurd (congrArg List.length entered) (by simp)

/-- The superclass of a completed class waits, unless it is generated already. -/
private theorem mem_queued {ledger : Ledger} {policy : SuperclassPolicy} {superclass : TypeRef}
    (chosen : policy.separated declared.superclass = some superclass)
    (looked : ledger.index.lookup superclass = some found) :
    found.name ∈ ledger.generated ∨ found ∈ queued ledger policy declared := by
  rw [queued, chosen]
  simp only [waiting, looked]
  cases done : ledger.generated.contains found.name with
  | true => exact .inl (by simpa using done)
  | false => exact .inr List.mem_cons_self

/-- The superclasses that completed classes have generated on their own are not
lost: each has its fate, or it waits. -/
def Lossless (stage : Stage (Watched σ)) : Prop :=
  ∀ start ∈ stage.session.starts, start.answer = .granted → start.name ∈ stage.result.generated →
    ∀ superclass found, start.policy.separated start.declared.superclass = some superclass →
      stage.session.ledger.index.lookup superclass = some found →
      Settled stage.session.ledger.generated stage.result stage.session.starts found.name ∨
        found ∈ stage.session.ledger.pending

/-- A class that waits has its turn, or waits still. -/
private theorem waiting_taken (taken : Taken declared stage later)
    (member : found ∈ stage.session.ledger.pending) :
    Settled later.session.ledger.generated later.result later.session.starts found.name ∨
      found ∈ later.session.ledger.pending := by
  rcases taken.next with ⟨first, -⟩ | ⟨none, -⟩
  · obtain ⟨others, pending⟩ := List.head?_eq_some_iff.1 first
    have rest : (popped stage.session).ledger.pending = others := by
      change stage.session.ledger.pending.tail = others
      rw [pending, List.tail_cons]
    rw [pending] at member
    rcases List.mem_cons.1 member with rfl | later
    · exact .inl (turn_settles taken.turn)
    · exact .inr (turn_keeps_waiting taken.turn (rest ▸ later))
  · rw [none] at member
    cases member

/-- What is known of the superclasses of a class stays known with every turn. -/
private theorem fate_taken (taken : Taken declared stage later)
    (fate : Settled stage.session.ledger.generated stage.result stage.session.starts found.name ∨
      found ∈ stage.session.ledger.pending) :
    Settled later.session.ledger.generated later.result later.session.starts found.name ∨
      found ∈ later.session.ledger.pending := by
  rcases fate with settled | waits
  · exact .inl (turn_keeps_settled taken.turn settled)
  · exact waiting_taken taken waits

/-- A class that counts as completed after a turn was so before, or this was its turn. -/
theorem turn_completes {start : Start} (turn : Turn declared result session next after)
    (accounted : Accounted before session.ledger.generated result session.starts)
    (member : start ∈ after.starts) (granted : start.answer = .granted)
    (reported : start.name ∈ next.generated) :
    start ∈ session.starts ∧ start.name ∈ result.generated ∨
      start.declared = declared ∧
        after.ledger = completedLedger session.ledger start.policy declared := by
  cases turn with
  | passed known unmoved => exact .inl ⟨unmoved.starts ▸ member, reported⟩
  | declined asked answer ledger =>
    rw [asked.starts] at member
    rcases List.mem_append.1 member with earlier | last
    · exact .inl ⟨earlier, reported⟩
    · rw [List.mem_singleton.1 last, answer] at granted
      cases granted
  | failed asked answer ledger =>
    rw [asked.starts] at member
    rcases List.mem_append.1 member with earlier | last
    · exact .inl ⟨earlier, reported⟩
    · rw [List.mem_singleton.1 last, Start.name, asked.about] at reported
      refine absurd ?_ asked.fresh
      rw [accounted.added]
      exact List.mem_append_right _ reported
  | completed asked answer ledger =>
    rw [asked.starts] at member
    rcases List.mem_append.1 member with earlier | last
    · refine .inl ⟨earlier, ?_⟩
      rcases List.mem_append.1 reported with listed | now
      · exact listed
      · -- The generator was asked for the class before, and the class was pursued.
        refine absurd ?_ (not_pursued accounted asked.spared asked.fresh)
        rw [← List.mem_singleton.1 now]
        exact List.mem_map.2 ⟨start, List.mem_filter.2 ⟨earlier, by simp [granted]⟩, rfl⟩
    · obtain rfl := List.mem_singleton.1 last
      exact .inr ⟨asked.about, ledger⟩

private theorem taken_lossless (taken : Taken declared stage later)
    (accounted : StageAccounted before classes stage) (lossless : Lossless stage) :
    Lossless later := by
  intro start member granted reported superclass found chosen looked
  have index : later.session.ledger.index = stage.session.ledger.index := (turn_index taken.turn :)
  rw [index] at looked
  rcases turn_completes taken.turn accounted.accounts member granted reported with
    ⟨among, listed⟩ | ⟨rfl, ledger⟩
  · exact fate_taken taken (lossless start among granted listed superclass found chosen looked)
  · have still : ((popped stage.session).ledger.complete start.declared.name).index.lookup
        superclass = some found := by
      rw [index_complete]
      exact looked
    rw [ledger]
    rcases mem_queued chosen still with done | waits
    · exact .inl (.inl done)
    · exact .inr (List.mem_append_right _ waits)

/-! ## The whole round -/

/-- What a round has ahead. A class of the input counts twice, since it can put
another on the waiting list without being declared. -/
def weight (stage : Stage σ) : Nat :=
  2 * stage.input.length + ahead stage.session.ledger

/-- Every turn makes the weight of a round smaller. -/
theorem taken_weight (sound : Sound stage) (taken : Taken declared stage later) :
    weight later < weight stage := by
  obtain ⟨more, declaredMore⟩ := turn_ahead taken.turn
  rcases taken.next with ⟨first, same⟩ | ⟨none, input⟩
  · obtain ⟨others, pending⟩ := List.head?_eq_some_iff.1 first
    have member := sound.listed declared (by rw [pending]; exact List.mem_cons_self)
    have less := declaredMore member
    have fewer : ahead (popped stage.session).ledger + 1 = ahead stage.session.ledger := by
      change stage.session.ledger.pending.tail.length + _ + 1 = _
      rw [ahead, pending, List.tail_cons, List.length_cons]
      simp only [popped, outstanding]
      omega
    rw [weight, weight, same]
    omega
  · have same : ahead (popped stage.session).ledger = ahead stage.session.ledger := by
      change stage.session.ledger.pending.tail.length + _ = _
      rw [ahead, none, List.tail_nil]
      rfl
    rw [weight, weight, input, List.length_cons]
    omega

/-- The waiting list of a round holds at most one class, and completed classes have
lost none of their superclasses. -/
structure StageWaiting (before : List String) (classes : List ClassDecl)
    (stage : Stage (Watched σ)) : Prop where
  accounted : StageAccounted before classes stage
  lossless : Lossless stage
  single : stage.session.ledger.pending.length ≤ 1

private theorem popped_idle (single : session.ledger.pending.length ≤ 1) :
    (popped session).ledger.pending = [] := by
  rw [← List.length_eq_zero_iff]
  change session.ledger.pending.tail.length = 0
  rw [List.length_tail]
  omega

private theorem taken_waiting (taken : Taken declared stage later)
    (waits : StageWaiting before classes stage) : StageWaiting before classes later where
  accounted := taken_accounted taken waits.accounted
  lossless := taken_lossless taken waits.accounted waits.lossless
  single := by
    have length := turn_length taken.turn
    rwa [popped_idle waits.single] at length

theorem waiting_start {session : Session σ} (idle : session.ledger.pending = []) :
    StageWaiting session.ledger.generated classes ⟨classes, .empty, session.watched []⟩ := by
  refine ⟨accounted_start, fun start member => ?_, ?_⟩
  · cases member
  · change session.ledger.pending.length ≤ 1
    rw [idle]
    exact Nat.zero_le 1

/-- A round that starts with an empty waiting list returns, and the list is empty
again. Turn after turn leads to the end of the round, and each makes its weight
smaller. At most one class waits at any time, and a turn that completes no class
leaves none waiting. Every superclass that a completed class has generated on its
own, and that is declared, is generated, failed, or was declined. -/
theorem waiting_list_drained (generator : Generator σ) (isolates : generator.Isolates)
    (classes : List ClassDecl) (directory : Path) (session : Session σ)
    (idle : session.ledger.pending = []) (proper : AllProper session.ledger)
    (given : ∀ declared ∈ classes, declared.Proper) :
    ∃ result after,
      process generator classes directory session = .ok result (Session.plain after) ∧
      process generator.watched classes directory (session.watched []) = .ok result after ∧
      Reaches generator directory ⟨classes, .empty, session⟩ ⟨[], result, after.plain⟩ ∧
      after.ledger.pending = [] ∧
      (∀ stage, Reaches generator directory ⟨classes, .empty, session⟩ stage →
        stage.session.ledger.pending.length ≤ 1 ∧
        ∀ later, Step generator directory stage later →
          weight later < weight stage ∧
          (later.session.ledger.generated = stage.session.ledger.generated →
            later.session.ledger.pending = [])) ∧
      ∀ start ∈ after.starts, start.answer = .granted → start.name ∈ result.generated →
        ∀ superclass found,
          start.policy.separated start.declared.superclass = some superclass →
          session.ledger.index.lookup superclass = some found →
          Settled after.ledger.generated result after.starts found.name := by
  obtain ⟨result, after, ran, none, index, reached⟩ :=
    process_reaches isolates classes directory (session.watched []) idle proper given
  have sound : Sound ⟨classes, .empty, session.watched []⟩ := sound_start idle proper given
  have keeps : ∀ stage, Reaches generator.watched directory
      ⟨classes, .empty, session.watched []⟩ stage →
      Sound stage ∧ StageWaiting session.ledger.generated classes stage := fun stage =>
    reaches_keeps isolates (fun _ _ _ _ taken held => taken_waiting taken held) sound
      (waiting_start idle)
  refine ⟨result, after, ran_plain (process_mirrors classes directory) ran, ran,
    reaches_plain reached, none, fun stage plain => ?_, ?_⟩
  · have watchable : Reaches generator directory
        (Stage.plain ⟨classes, .empty, session.watched []⟩) stage := plain
    obtain ⟨watched, reached, rfl⟩ := reaches_watched watchable
    obtain ⟨sound, waits⟩ := keeps watched reached
    refine ⟨waits.single, fun later step => ?_⟩
    obtain ⟨next, watchedStep, rfl⟩ := step_watched step
    obtain ⟨declared, taken⟩ := taken_of_step isolates sound watchedStep
    refine ⟨taken_weight sound taken, fun same => ?_⟩
    exact (turn_idle taken.turn same).trans (popped_idle waits.single)
  · intro start member granted reported superclass found chosen looked
    obtain ⟨-, waits⟩ := keeps _ reached
    have fate := waits.lossless start member granted reported superclass found chosen
      (by rw [index]; exact looked)
    rcases fate with settled | waiting
    · exact settled
    · rw [none] at waiting
      cases waiting

/-- Classes that extend each other, and one that extends itself, do not keep a
round from its end. -/
theorem circular_superclasses_drained :
    let generator : Generator Unit := { Generator.idle with
      policy := fun _ => .startingWith "a" .separate
      startClass := fun _ _ _ => return true }
    let item : ClassDecl := ⟨"a.Item", .ordinary, some ⟨"a.Loop<a.Item>"⟩, [], []⟩
    let loop : ClassDecl := ⟨"a.Loop", .ordinary, some ⟨"a.Item"⟩, [], []⟩
    let self : ClassDecl := ⟨"a.Self", .ordinary, some ⟨"a.Self"⟩, [], []⟩
    let session : Session Unit :=
      ⟨.start (ClassIndex.empty.addAll [item, loop, self]).1, ⟨⟨[], []⟩, .empty, ()⟩⟩
    ∃ result after, process generator [item, self] (.ofText "out") session = .ok result after ∧
      result.generated = ["a.Item", "a.Loop", "a.Self"] ∧ after.ledger.pending = [] := by
  intro generator item loop self session
  have isolates : generator.Isolates := by
    refine ⟨?_, ?_, ?_, ?_, ?_⟩ <;>
    · intro _ _ _ world failure after failed
      cases failed
  have bare : ∀ declared ∈ [item, loop, self], declared.Proper := by
    intro declared member label
    have none : declared.members = [] := by
      simp only [List.mem_cons, List.not_mem_nil, or_false] at member
      rcases member with rfl | rfl | rfl <;> rfl
    rw [none]
    exact List.not_mem_nil
  obtain ⟨result, after, ran, -, -, none, -, -⟩ :=
    waiting_list_drained generator isolates [item, self] (.ofText "out") session rfl bare
      fun declared member => bare declared (by
        simp only [List.mem_cons, List.not_mem_nil, or_false] at member ⊢
        rcases member with rfl | rfl <;> simp)
  have reported : (match process generator [item, self] (.ofText "out") session with
      | .ok result _ => result.generated
      | .error _ _ => []) = ["a.Item", "a.Loop", "a.Self"] := by
    decide +kernel
  rw [ran] at reported
  exact ⟨result, after.plain, ran, reported, none⟩

end DelegateClasses.Processing
