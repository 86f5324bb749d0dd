import DelegateClasses.Proofs.Processing.Visits

/-! What a round keeps, for any generator. A round is made of turns: of the classes
that are given, and of those that wait. Main statement: what the turn of one class
keeps is kept by the whole round, however many turns it takes. -/
namespace DelegateClasses.Processing
open Steps

variable {σ : Type} {generator : Generator σ} {position : Position} {declared : ClassDecl}
variable {result next : RoundResult} {session after : Session σ}

private theorem isolate_eq_ok {step : Processing σ Unit} {outcome : Option Failure}
    (ran : isolate step session = .ok outcome after) : left (step session) = after := by
  simp only [isolate] at ran
  split at ran
  · next worked =>
    cases ran
    rw [worked, left]
  · next failed =>
    rw [failed, left]
    split at ran
    · cases ran
      rfl
    · cases ran

/-- A class whose fate is open is visited, and the names that are added to the books
are reported. Nothing happens to a class that failed before. -/
theorem processClass_visits
    (ran : processClass generator position declared result session = .ok next after) :
    (next = result ∧ after = session) ∨
    ∃ visited,
      left (visitClass generator position declared
        (noted ("Processing " ++ declared.name) session)) = visited ∧
      after.ledger = visited.ledger ∧ after.world.own = visited.world.own ∧
      after.world.files = visited.world.files ∧ next.generated =
        result.generated ++ visited.ledger.generated.drop session.ledger.generated.length := by
  rw [processClass] at ran
  split at ran
  · cases ran
    exact .inl ⟨rfl, rfl⟩
  · rw [note_bind, get_bind] at ran
    obtain ⟨outcome, visited, isolated, rest⟩ := bind_eq_ok ran
    rw [get_bind] at rest
    refine .inr ⟨visited, isolate_eq_ok isolated, ?_⟩
    cases outcome with
    | none =>
      cases rest
      exact ⟨rfl, rfl, rfl, rfl⟩
    | some failure =>
      obtain ⟨⟨⟩, reported, said, rest⟩ := bind_eq_ok rest
      cases said
      cases rest
      exact ⟨rfl, rfl, rfl, rfl⟩

variable {holds : RoundResult → Session σ → Prop}

/-- What every turn of a class keeps, the waiting list keeps. -/
theorem drain_keeps
    (waits : ∀ result session others, holds result session →
      holds result ⟨{ session.ledger with pending := others }, session.world⟩)
    (turn : ∀ declared result session next after, holds result session →
      processClass generator position declared result session = .ok next after → holds next after)
    (fuel : Nat) (start : holds result session)
    (ran : drain generator position fuel result session = .ok next after) : holds next after := by
  induction fuel generalizing result session with
  | zero =>
    cases ran
    exact start
  | succ fuel ih =>
    rw [drain, get_bind] at ran
    cases pending : session.ledger.pending with
    | nil =>
      simp only [pending] at ran
      cases ran
      exact start
    | cons declared others =>
      simp only [pending, record_bind] at ran
      obtain ⟨middle, between, first, rest⟩ := bind_eq_ok ran
      exact ih (turn _ _ _ _ _ (waits result session others start) first) rest

/-- **Invariants of a round.** What every turn of a class keeps, a whole round keeps. -/
theorem process_keeps {classes : List ClassDecl} {directory : Path}
    (holds : RoundResult → Session σ → Prop)
    (waits : ∀ result session others, holds result session →
      holds result ⟨{ session.ledger with pending := others }, session.world⟩)
    (turn : ∀ declared result session next after, holds result session →
      processClass generator (.outside directory) declared result session = .ok next after →
        holds next after)
    (start : holds .empty session)
    (ran : process generator classes directory session = .ok result after) :
    holds result after := by
  rw [process] at ran
  revert start
  generalize RoundResult.empty = initial at ran
  intro start
  induction classes generalizing initial session with
  | nil =>
    cases ran
    exact start
  | cons declared classes ih =>
    rw [List.foldlM_cons] at ran
    obtain ⟨middle, between, first, rest⟩ := bind_eq_ok ran
    obtain ⟨passed, visited, own, waited⟩ := bind_eq_ok first
    rw [get_bind] at waited
    exact ih middle rest (drain_keeps waits turn _ (turn _ _ _ _ _ start own) waited)

end DelegateClasses.Processing
