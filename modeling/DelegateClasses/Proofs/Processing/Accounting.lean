import DelegateClasses.Proofs.Processing.Rounds

/-! The accounts of a round. The names that it reports as generated are those that
it added to the books of the run, each once and in the order of their completion;
the others that it asked the generator for either failed or were declined. Main
statement: the accounts are right after every round of a run, whatever the
generator answers. -/
namespace DelegateClasses.Processing
open Steps

variable {σ : Type} {generator : Generator σ} {directory : Path}
variable {declared : ClassDecl} {result next : RoundResult} {start : Start} {starts : List Start}
variable {before generated : List String} {name : String}
variable {session after : Session (Watched σ)} {stage later : Stage (Watched σ)}

/-- The names of the classes that the generator was asked for and did not decline. -/
def pursued (starts : List Start) : List String :=
  (starts.filter (·.answer ≠ .declined)).map Start.name

private theorem pursued_declined (declined : start.answer = .declined) :
    pursued (starts ++ [start]) = pursued starts := by
  simp [pursued, declined]

private theorem pursued_more (more : start.answer ≠ .declined) :
    pursued (starts ++ [start]) = pursued starts ++ [start.name] := by
  simp [pursued, more]

private theorem failed_withGenerated (result : RoundResult) (first : String) :
    (withGenerated result first).failed = result.failed := rfl

/-- A failure changes nothing for the names that are not that of the class. -/
private theorem filter_withFailure {names : List String} {first : String} (free : first ∉ names)
    (result : RoundResult) (failure : Failure) :
    names.filter (withFailure result first failure).failed = names.filter result.failed ∧
      (names.filter fun name => !(withFailure result first failure).failed name) =
        names.filter fun name => !result.failed name := by
  have same : ∀ name ∈ names,
      (withFailure result first failure).failed name = result.failed name := by
    intro name member
    have different : (first == name) = false := by
      simpa using fun same : first = name => free (same ▸ member)
    rw [failed_withFailure, different, Bool.or_false]
  exact ⟨List.filter_congr same, List.filter_congr fun name member => by rw [same name member]⟩

/-- The accounts of a round: what it reports, next to what was generated before it
and since, and the starts that the generator was asked for. -/
structure Accounted (before generated : List String) (result : RoundResult)
    (starts : List Start) : Prop where
  /-- The round reports what it adds, in the order of completion. -/
  added : generated = before ++ result.generated
  /-- Nothing is generated twice, neither in the round nor again. -/
  distinct : result.generated.Nodup
  apart : ∀ name ∈ result.generated, name ∉ before
  /-- Of the classes that were pursued, generated are those that did not fail, -/
  completed : result.generated = (pursued starts).filter fun name => !result.failed name
  /-- and the failures are those of the others. -/
  failed : result.failures.map Prod.fst = (pursued starts).filter result.failed
  /-- No class is asked for that was generated before the round. -/
  new : ∀ start ∈ starts, start.name ∉ before
  /-- No class is asked for again that was pursued before. -/
  once : starts.Pairwise fun earlier later =>
    earlier.name = later.name → earlier.answer = .declined

/-- A class whose fate is open was not pursued. -/
theorem not_pursued (accounted : Accounted before generated result starts)
    (spared : result.failed name = false) (fresh : name ∉ generated) : name ∉ pursued starts := by
  intro member
  have listed : name ∈ result.generated := by
    rw [accounted.completed]
    exact List.mem_filter.2 ⟨member, by simp [spared]⟩
  exact fresh (by rw [accounted.added]; exact List.mem_append_right _ listed)

/-- A start for a class whose fate is open respects the starts before it. -/
theorem start_once (accounted : Accounted before generated result starts)
    (spared : result.failed start.name = false) (fresh : start.name ∉ generated) :
    (starts ++ [start]).Pairwise fun earlier later =>
      earlier.name = later.name → earlier.answer = .declined := by
  refine List.pairwise_append.2 ⟨accounted.once, List.pairwise_singleton _ _, ?_⟩
  intro earlier member last single same
  obtain rfl := List.mem_singleton.1 single
  by_contra pursuit
  refine not_pursued accounted spared fresh (List.mem_map.2 ⟨earlier, ?_, same⟩)
  exact List.mem_filter.2 ⟨member, by simpa using pursuit⟩

private theorem start_new (accounted : Accounted before generated result starts)
    (fresh : start.name ∉ generated) : ∀ other ∈ starts ++ [start], other.name ∉ before := by
  intro other member
  rcases List.mem_append.1 member with earlier | last
  · exact accounted.new other earlier
  · obtain rfl := List.mem_singleton.1 last
    rw [accounted.added] at fresh
    exact fun there => fresh (List.mem_append_left _ there)

/-- The accounts stay right with every turn. -/
theorem turn_accounted (turn : Turn declared result session next after)
    (accounted : Accounted before session.ledger.generated result session.starts) :
    Accounted before after.ledger.generated next after.starts := by
  cases turn with
  | passed known unmoved => rwa [unmoved.ledger, unmoved.starts]
  | @declined start _ asked answer ledger =>
    obtain ⟨spared, fresh, rfl, starts⟩ := asked
    rw [ledger, starts]
    refine ⟨accounted.added, accounted.distinct, accounted.apart, ?_, ?_, start_new accounted fresh,
      start_once accounted spared fresh⟩
    · rw [pursued_declined answer]
      exact accounted.completed
    · rw [pursued_declined answer]
      exact accounted.failed
  | @failed start failure _ asked answer ledger =>
    obtain ⟨spared, fresh, rfl, starts⟩ := asked
    have free : start.name ∉ pursued session.starts := not_pursued accounted spared fresh
    obtain ⟨kept, others⟩ := filter_withFailure free result failure
    have lost : (withFailure result start.name failure).failed start.name = true := by
      rw [failed_withFailure, beq_self_eq_true, Bool.or_true]
    rw [ledger, starts]
    refine ⟨accounted.added, accounted.distinct, accounted.apart, ?_, ?_, start_new accounted fresh,
      start_once accounted spared fresh⟩
    · rw [← Start.name, pursued_more answer, List.filter_append, others, ← accounted.completed]
      simp [lost]
    · rw [← Start.name, pursued_more answer, List.filter_append, kept, ← accounted.failed]
      simp [lost]
  | @completed start _ asked answer ledger =>
    obtain ⟨spared, fresh, rfl, starts⟩ := asked
    have granted : start.answer ≠ .declined := by
      rw [answer]
      decide
    have entered : after.ledger.generated = session.ledger.generated ++ [start.name] := by
      rw [ledger, generated_completedLedger _ fresh, Start.name]
    rw [entered, starts]
    refine ⟨?_, ?_, ?_, ?_, ?_, start_new accounted fresh, start_once accounted spared fresh⟩
    · rw [accounted.added, List.append_assoc]
      rfl
    · refine List.nodup_append.2 ⟨accounted.distinct, List.pairwise_singleton _ _, ?_⟩
      rintro name member other single rfl
      rw [List.mem_singleton.1 single] at member
      exact fresh (accounted.added ▸ List.mem_append_right _ member)
    · intro name member
      rcases List.mem_append.1 member with earlier | last
      · exact accounted.apart name earlier
      · rw [List.mem_singleton.1 last]
        exact fun there => fresh (accounted.added ▸ List.mem_append_left _ there)
    · rw [failed_withGenerated, pursued_more granted, List.filter_append, ← accounted.completed]
      simp [Start.name, spared]
    · rw [failed_withGenerated, pursued_more granted, List.filter_append, ← accounted.failed]
      simp [Start.name, spared]

/-! ## The fate of a class -/

/-- The fate of a class is known: it is generated, failed, or was declined. -/
def Settled (generated : List String) (result : RoundResult) (starts : List Start)
    (name : String) : Prop :=
  name ∈ generated ∨ result.failed name = true ∨
    ∃ start ∈ starts, start.name = name ∧ start.answer = .declined

/-- The fate of a class is known after its turn. -/
theorem turn_settles (turn : Turn declared result session next after) :
    Settled after.ledger.generated next after.starts declared.name := by
  cases turn with
  | passed known unmoved =>
    rcases known with failed | done
    · exact .inr (.inl failed)
    · rw [unmoved.ledger]
      exact .inl done
  | @declined start _ asked answer ledger =>
    obtain ⟨-, -, rfl, starts⟩ := asked
    rw [starts]
    exact .inr (.inr ⟨start, List.mem_append_right _ List.mem_cons_self, rfl, answer⟩)
  | failed asked answer ledger =>
    exact .inr (.inl (by rw [failed_withFailure, beq_self_eq_true, Bool.or_true]))
  | completed asked answer ledger =>
    rw [ledger, generated_completedLedger _ asked.fresh]
    exact .inl (List.mem_append_right _ List.mem_cons_self)

theorem settled_mono {more : List String} {moreStarts : List Start}
    (settled : Settled generated result starts name)
    (grown : ∀ name ∈ generated, name ∈ more)
    (failed : result.failed name = true → next.failed name = true)
    (asked : ∀ start ∈ starts, start ∈ moreStarts) : Settled more next moreStarts name := by
  rcases settled with done | lost | ⟨start, member, declined⟩
  · exact .inl (grown name done)
  · exact .inr (.inl (failed lost))
  · exact .inr (.inr ⟨start, asked start member, declined⟩)

/-- A known fate stays known. -/
theorem turn_keeps_settled (turn : Turn declared result session next after)
    (settled : Settled session.ledger.generated result session.starts name) :
    Settled after.ledger.generated next after.starts name := by
  cases turn with
  | passed known unmoved => rwa [unmoved.ledger, unmoved.starts]
  | declined asked answer ledger =>
    rw [ledger, asked.starts]
    exact settled_mono settled (fun _ member => member) id fun _ => List.mem_append_left _
  | failed asked answer ledger =>
    rw [ledger, asked.starts]
    refine settled_mono settled (fun _ member => member) (fun lost => ?_)
      fun _ => List.mem_append_left _
    rw [failed_withFailure, lost, Bool.true_or]
  | completed asked answer ledger =>
    rw [ledger, generated_completedLedger _ asked.fresh, asked.starts]
    exact settled_mono settled (fun _ => List.mem_append_left _) id fun _ => List.mem_append_left _

/-- The accounts of a stage: they are right, and the fate of the classes of the
input is known, unless their turn is still to come. -/
structure StageAccounted (before : List String) (classes : List ClassDecl)
    (stage : Stage (Watched σ)) : Prop where
  accounts : Accounted before stage.session.ledger.generated stage.result stage.session.starts
  settled : ∀ declared ∈ classes, declared ∈ stage.input ∨
    Settled stage.session.ledger.generated stage.result stage.session.starts declared.name

theorem taken_accounted {classes : List ClassDecl} (taken : Taken declared stage later)
    (accounted : StageAccounted before classes stage) : StageAccounted before classes later where
  accounts := turn_accounted taken.turn accounted.accounts
  settled := by
    intro other member
    rcases accounted.settled other member with waits | settled
    · rcases taken.next with ⟨-, same⟩ | ⟨-, input⟩
      · exact .inl (same ▸ waits)
      · rw [input] at waits
        rcases List.mem_cons.1 waits with rfl | still
        · exact .inr (turn_settles taken.turn)
        · exact .inl still
    · exact .inr (turn_keeps_settled taken.turn settled)

theorem accounted_start {classes : List ClassDecl} {session : Session σ} :
    StageAccounted session.ledger.generated classes
      ⟨classes, .empty, session.watched []⟩ := by
  refine ⟨⟨(List.append_nil _).symm, .nil, ?_, rfl, rfl, ?_, .nil⟩, fun declared member =>
    .inl member⟩
  · intro name member
    cases member
  · intro start member
    cases member

/-- Nothing is generated twice in a run if nothing was before. -/
theorem nodup_of_accounted (accounted : Accounted before generated result starts)
    (distinct : before.Nodup) : generated.Nodup := by
  rw [accounted.added]
  refine List.nodup_append.2 ⟨distinct, accounted.distinct, ?_⟩
  rintro name earlier other member rfl
  exact accounted.apart name member earlier

/-! ## A run of several rounds -/

/-- Rounds that were run one after the other, with their results. -/
inductive Rounds (generator : Generator σ) (first : Session σ) :
    List RoundResult → Session σ → Prop where
  | start : Rounds generator first [] first
  | next {results : List RoundResult} {result : RoundResult} {session later : Session σ}
      {classes : List ClassDecl} {directory : Path} (rounds : Rounds generator first results session)
      (given : ∀ declared ∈ classes, declared.Proper)
      (ran : process generator classes directory session = .ok result later) :
      Rounds generator first (results ++ [result]) later

/-- One round under observation, from a session in which nothing waits. -/
theorem round_accounted (isolates : generator.Isolates) (classes : List ClassDecl)
    (directory : Path) (session : Session σ) (idle : session.ledger.pending = [])
    (proper : AllProper session.ledger) (given : ∀ declared ∈ classes, declared.Proper) :
    ∃ result after, process generator classes directory session = .ok result (Session.plain after) ∧
      process generator.watched classes directory (session.watched []) = .ok result after ∧
      after.ledger.pending = [] ∧ after.ledger.index = session.ledger.index ∧
      StageAccounted session.ledger.generated classes ⟨[], result, after⟩ := by
  obtain ⟨result, after, ran, none, index, reached⟩ :=
    process_reaches isolates classes directory (session.watched []) idle proper given
  obtain ⟨-, accounted⟩ := reaches_keeps isolates
    (fun _ _ _ _ taken held => taken_accounted taken held)
    (sound_start idle proper given) accounted_start reached
  exact ⟨result, after, ran_plain (process_mirrors classes directory) ran, ran, none, index,
    accounted⟩

/-- Between the rounds of a run nothing waits, and the results tell what is generated. -/
theorem rounds_accounted (isolates : generator.Isolates) {first before : Session σ}
    {results : List RoundResult} (fresh : first.ledger.generated = [])
    (idle : first.ledger.pending = []) (proper : AllProper first.ledger)
    (rounds : Rounds generator first results before) :
    before.ledger.pending = [] ∧ before.ledger.index = first.ledger.index ∧
      before.ledger.generated = results.flatMap (·.generated) ∧ before.ledger.generated.Nodup := by
  induction rounds with
  | start =>
    rw [fresh]
    exact ⟨idle, rfl, rfl, .nil⟩
  | next rounds given ran ih =>
    obtain ⟨none, index, all, distinct⟩ := ih
    obtain ⟨result, after, again, -, still, same, accounts, -⟩ :=
      round_accounted isolates _ _ _ none (by rw [AllProper, index]; exact proper) given
    rw [ran] at again
    cases again
    refine ⟨still, same.trans index, ?_, nodup_of_accounted accounts distinct⟩
    rw [List.flatMap_append, ← all]
    simpa using accounts.added

/-- Every class is completed at most once in a run of rounds, and accounted for
exactly once in each of them. A round returns, whatever the generator answers.
What it reports as generated is what it adds to the books, in this order and
apart from the failures. The generator is asked to start a class only as long as
its fate is open, and the fate of every class of the input is known at the end. -/
theorem classes_accounted_once (generator : Generator σ) (isolates : generator.Isolates)
    {first before : Session σ} {results : List RoundResult} (fresh : first.ledger.generated = [])
    (idle : first.ledger.pending = []) (proper : AllProper first.ledger)
    (rounds : Rounds generator first results before) (classes : List ClassDecl)
    (given : ∀ declared ∈ classes, declared.Proper) (directory : Path) :
    ∃ result after, process generator classes directory before = .ok result (Session.plain after) ∧
      process generator.watched classes directory (before.watched []) = .ok result after ∧
      Accounted before.ledger.generated after.ledger.generated result after.starts ∧
      (∀ name ∈ result.generated, result.failed name = false) ∧
      (∀ declared ∈ classes,
        Settled after.ledger.generated result after.starts declared.name) ∧
      after.ledger.generated = (results ++ [result]).flatMap (·.generated) ∧
      after.ledger.generated.Nodup := by
  obtain ⟨none, index, all, distinct⟩ := rounds_accounted isolates fresh idle proper rounds
  obtain ⟨result, after, ran, watched, -, -, accounts, settled⟩ :=
    round_accounted isolates classes directory before none (by rw [AllProper, index]; exact proper)
      given
  refine ⟨result, after, ran, watched, accounts, fun name member => ?_, fun declared member => ?_,
    ?_, nodup_of_accounted accounts distinct⟩
  · rw [accounts.completed] at member
    simpa using (List.mem_filter.1 member).2
  · rcases settled declared member with waits | settled
    · cases waits
    · exact settled
  · rw [List.flatMap_append, ← all]
    simpa using accounts.added

/-- A generator that fails for one class and declines another, in a round that
names classes twice and meets a superclass of its own. -/
theorem mixed_round_accounted :
    let generator : Generator Unit := { Generator.idle with
      policy := fun _ => .startingWith "a" .separate
      startClass := fun _ declared _ =>
        if declared.name = "a.Broken" then throw (.noPackage declared.name)
        else return declared.name != "a.Skipped" }
    let base : ClassDecl := ⟨"a.Base", .ordinary, none, [], []⟩
    let item : ClassDecl := ⟨"a.Item", .ordinary, some ⟨"a.Base"⟩, [], []⟩
    let broken : ClassDecl := ⟨"a.Broken", .ordinary, some ⟨"a.Base"⟩, [], []⟩
    let skipped : ClassDecl := ⟨"a.Skipped", .ordinary, some ⟨"a.Base"⟩, [], []⟩
    let session : Session Unit :=
      ⟨.start (ClassIndex.empty.addAll [base]).1, ⟨⟨[], []⟩, .empty, ()⟩⟩
    let classes := [broken, item, skipped, base, broken, item, skipped]
    ∃ result after, process generator classes (.ofText "out") session = .ok result after ∧
      result.generated = ["a.Item", "a.Base"] ∧ result.failures.map Prod.fst = ["a.Broken"] ∧
      after.ledger.generated = result.generated ∧ result.generated.Nodup := by
  intro generator base item broken skipped session classes
  have isolates : generator.Isolates := by
    refine ⟨fun _ declared _ world failure after failed => ?_, ?_, ?_, ?_, ?_⟩
    · simp only [generator] at failed
      split at failed
      · cases failed
        rfl
      · cases failed
    all_goals
      intro _ _ _ world failure after failed
      cases failed
  have proper : AllProper session.ledger := by
    intro declared member label
    obtain rfl : declared = base := List.mem_singleton.1 member
    exact List.not_mem_nil
  have given : ∀ declared ∈ classes, declared.Proper := by
    intro declared member label
    have bare : declared.members = [] := by
      simp only [classes, List.mem_cons, List.not_mem_nil, or_false] at member
      rcases member with rfl | rfl | rfl | rfl | rfl | rfl | rfl <;> rfl
    rw [bare]
    exact List.not_mem_nil
  obtain ⟨result, after, ran, -, accounts, -, -, all, -⟩ :=
    classes_accounted_once generator isolates rfl rfl proper .start classes given (.ofText "out")
  have reported : (match process generator classes (.ofText "out") session with
      | .ok result _ => (result.generated, result.failures.map Prod.fst)
      | .error _ _ => ([], [])) = (["a.Item", "a.Base"], ["a.Broken"]) := by
    decide +kernel
  rw [ran] at reported
  obtain ⟨generated, failures⟩ := Prod.mk.inj reported
  refine ⟨result, after.plain, ran, generated, failures, ?_, accounts.distinct⟩
  simpa using all

end DelegateClasses.Processing
