import DelegateClasses.Proofs.Draft.Operations
import Mathlib.Data.List.Induction

/-! The life of a generated class: it is filled, finished, and its sink is closed, with
whatever else is tried in between. Main statement: whatever is done to a class, its text is
written at most once, namely when the class is finished in a package and with an open sink;
from then on the text stays as it is, and every change is refused. -/
namespace DelegateClasses.ClassDraft
open Steps

variable {className : String} {available : List String} {before later : List Operation}
variable {operation : Operation} {draft : ClassDraft} {writes : List String} {closes : Nat}

/-- A class that is finished behind these operations is written: it was put into a
package, and its sink was not closed. -/
def Writable (before : List Operation) : Prop :=
  (∃ operation ∈ before, operation.package? ≠ none) ∧ .close ∉ before

/-- A class that is not finished, told by the operations on it. -/
structure Begun (className : String) (before : List Operation) (draft : ClassDraft) : Prop where
  named : draft.className = className
  unfinished : draft.ended = false
  packaged : draft.package = before.findSome? Operation.package?
  /-- Nothing is written, and the sink is closed once if ever. -/
  sink : ∃ closes, draft.sink = some ⟨[], closes⟩ ∧ closes ≤ 1 ∧ (closes = 1 ↔ .close ∈ before)

private theorem close_of_sink (held : draft.sink = some ⟨writes, closes⟩) (once : closes ≤ 1) :
    draft.close = { draft with sink := some ⟨writes, 1⟩ } := by
  obtain ⟨className, available, imports, package, line, fields, constructors, methods, ended,
    sink⟩ := draft
  subst held
  match closes, once with
  | 0, _ => rfl
  | 1, _ => rfl

private theorem begun_after (begun : Begun className before draft) (more : operation ≠ .finish) :
    Begun className (before ++ [operation]) (operation.after draft) := by
  obtain ⟨closes, held, once, closed⟩ := begun.sink
  have package : (before ++ [operation]).findSome? Operation.package? =
      draft.package.or operation.package? := by
    rw [List.findSome?_append, List.findSome?_singleton, begun.packaged]
  by_cases used : operation = .close
  · subst used
    change Begun className (before ++ [.close]) draft.close
    rw [close_of_sink held once]
    refine ⟨begun.named, begun.unfinished, ?_, 1, rfl, Nat.le_refl 1, by simp⟩
    rw [package]
    exact (Option.or_none).symm
  · have filled := after_fills begun.unfinished more used
    refine ⟨filled.named.trans begun.named, filled.ended.trans begun.unfinished, ?_, closes,
      filled.sink.trans held, once, ?_⟩
    · rw [package]
      exact filled.packaged
    · rw [closed]
      simp [Ne.symm used]

private theorem begun_performAll (unfinished : .finish ∉ before) :
    Begun className before (performAll before (.new className (some .fresh) available)) := by
  induction before using List.reverseRecOn with
  | nil => exact ⟨rfl, rfl, rfl, 0, rfl, Nat.zero_le 1, by simp⟩
  | append_singleton before operation ih =>
    rw [performAll_append]
    refine begun_after (ih fun member => unfinished (List.mem_append_left _ member)) ?_
    rintro rfl
    exact unfinished (List.mem_append_right _ (List.mem_singleton.2 rfl))

/-- A class that was finished behind the first operations, told by all operations on it. It
was written at that moment or never. -/
structure Ended (className : String) (before operations : List Operation) (text : String)
    (draft : ClassDraft) : Prop where
  named : draft.className = className
  ended : draft.ended = true
  source : draft.source = text
  sink : ∃ writes closes, draft.sink = some ⟨writes, closes⟩ ∧ closes ≤ 1 ∧
    (closes = 1 ↔ .close ∈ operations) ∧ (Writable before → writes = [text]) ∧
    (¬ Writable before → writes = [])

theorem writable_iff (begun : Begun className before draft)
    (held : draft.sink = some ⟨[], closes⟩) :
    Writable before ↔ draft.package ≠ none ∧ closes ≠ 1 := by
  obtain ⟨others, same, -, closed⟩ := begun.sink
  obtain rfl : others = closes := by
    rw [held] at same
    cases same
    rfl
  rw [Writable, begun.packaged, Ne, List.findSome?_eq_none_iff, Ne, closed]
  simp

/-- A class that is finished in a package writes its text, unless its sink is closed. -/
theorem after_finish (unfinished : draft.ended = false)
    (held : draft.sink = some ⟨writes, closes⟩) :
    Operation.finish.after draft = { draft with
      ended := true
      sink := some ⟨writes ++ if draft.package ≠ none ∧ closes = 0 then [draft.source] else [],
        closes⟩ } := by
  rw [Operation.after, Operation.perform, finish, bind_of_ok (requireOpen_of_open unfinished),
    modify_run, left]
  obtain ⟨className, available, imports, package, line, fields, constructors, methods, ended,
    sink⟩ := draft
  subst held
  cases package with
  | none => simp
  | some package => cases closes <;> simp

private theorem ended_finish (begun : Begun className before draft) :
    Ended className before (before ++ [.finish]) draft.source (Operation.finish.after draft) := by
  obtain ⟨closes, held, once, closed⟩ := begun.sink
  have written := writable_iff begun held
  have still : closes ≠ 1 ↔ closes = 0 := by omega
  rw [after_finish begun.unfinished held]
  refine ⟨begun.named, rfl, source_outside draft true _, _, closes, rfl, once, ?_, ?_, ?_⟩
  · rw [closed]
    simp
  · intro writable
    obtain ⟨packaged, unclosed⟩ := written.1 writable
    rw [if_pos ⟨packaged, still.1 unclosed⟩, List.nil_append]
  · intro never
    rw [if_neg fun both => never (written.2 ⟨both.1, still.2 both.2⟩), List.append_nil]

/-- A finished class changes in nothing but that its sink is closed. -/
theorem ended_after {operations : List Operation} {text : String}
    (account : Ended className before operations text draft) :
    Ended className before (operations ++ [operation]) text (operation.after draft) := by
  obtain ⟨writes, closes, held, once, closed, written, never⟩ := account.sink
  by_cases used : operation = .close
  · subst used
    change Ended className before (operations ++ [.close]) text draft.close
    rw [close_of_sink held once]
    exact ⟨account.named, account.ended, (source_outside draft draft.ended _).trans account.source,
      writes, 1, rfl, Nat.le_refl 1, by simp, written, never⟩
  · rw [after_of_ended account.ended used]
    refine ⟨account.named, account.ended, account.source, writes, closes, held, once, ?_, written,
      never⟩
    rw [closed]
    simp [Ne.symm used]

private theorem ended_performAll (unfinished : .finish ∉ before) (later : List Operation) :
    let start := new className (some .fresh) available
    Ended className before (before ++ .finish :: later) (performAll before start).source
      (performAll (before ++ .finish :: later) start) := by
  intro start
  induction later using List.reverseRecOn with
  | nil =>
    rw [performAll_append]
    exact ended_finish (begun_performAll unfinished)
  | append_singleton later operation ih =>
    rw [← List.cons_append, ← List.append_assoc, performAll_append]
    exact ended_after ih

/-! ## Operations that are refused -/

private theorem startPackage_refused {name : String} {failure : Failure} {after : ClassDraft}
    (refused : startPackage name draft = .error failure after) : after = draft := by
  cases ended : draft.ended with
  | true =>
    rw [startPackage, bind_of_error (requireOpen_of_ended ended)] at refused
    cases refused
    rfl
  | false =>
    rw [startPackage, bind_of_ok (requireOpen_of_open ended), get_bind] at refused
    cases owned : draft.package with
    | none =>
      rw [owned] at refused
      cases refused
    | some package =>
      rw [owned] at refused
      dsimp only at refused
      split at refused
      · cases refused
        rfl
      · cases refused

/-- A name that is not imported changes nothing. -/
theorem registerImport_refused {name : String} (refused : ∀ after,
    registerImport name draft ≠ .ok true after) : left (registerImport name draft) = draft := by
  cases ended : draft.ended with
  | true =>
    rw [registerImport, bind_of_error (requireOpen_of_ended ended)]
    rfl
  | false =>
    rw [registerImport, bind_of_ok (requireOpen_of_open ended), get_bind] at refused ⊢
    split
    · next needed =>
      rw [if_pos needed] at refused
      have denied : (draft.imports.register name).1 = false :=
        eq_false_of_ne_true fun granted => refused _ (congrArg (EStateM.Result.ok · _) granted)
      change { draft with imports := (draft.imports.register name).2 } = draft
      rw [Imports.Registry.register, Imports.Registry.claim_refused denied]
    · rfl

private theorem renderType_refused {type : TypeRef} {fault : Malformed}
    (malformed : type.parse = .error fault) : left (renderType type draft) = draft := by
  rw [renderType, malformed]
  cases ended : draft.ended with
  | true =>
    rw [bind_of_error (requireOpen_of_ended ended)]
    rfl
  | false =>
    rw [bind_of_ok (requireOpen_of_open ended)]
    rfl

/-- Whatever is done to a new class, its text is written at most once: when the class is
finished, if it was put into a package and its sink was not closed before. From then on the
text is the same, and every change is refused and changes nothing. The sink is closed once,
or never. Refused packages, refused imports and malformed types change nothing either. -/
theorem written_once_and_frozen (className : String) (available : List String)
    (operations : List Operation) :
    let start := new className (some .fresh) available
    let draft := performAll operations start
    ∃ writes closes, draft.sink = some ⟨writes, closes⟩ ∧
      closes ≤ 1 ∧ (closes = 1 ↔ .close ∈ operations) ∧
      (writes = [] ∨ writes = [draft.source]) ∧
      (writes ≠ [] ↔ ∃ before later, operations = before ++ .finish :: later ∧
        .finish ∉ before ∧ Writable before) ∧
      (∀ before later, operations = before ++ .finish :: later → .finish ∉ before →
        draft.source = (performAll before start).source ∧
        ∀ operation : Operation, operation ≠ .source → operation ≠ .close →
          operation.perform draft = .error (operation.refusal className) draft) ∧
      (∀ name failure after, startPackage name draft = .error failure after → after = draft) ∧
      (∀ name, (∀ after, registerImport name draft ≠ .ok true after) →
        left (registerImport name draft) = draft) ∧
      (∀ (type : TypeRef) fault, type.parse = .error fault →
        left (renderType type draft) = draft) := by
  intro start draft
  have frozen (before later : List Operation) (parts : operations = before ++ .finish :: later)
      (unfinished : .finish ∉ before) : Ended className before operations
        (performAll before start).source draft := by
    subst parts
    exact ended_performAll unfinished later
  have refusals (before later : List Operation) (parts : operations = before ++ .finish :: later)
      (unfinished : .finish ∉ before) : draft.source = (performAll before start).source ∧
        ∀ operation : Operation, operation ≠ .source → operation ≠ .close →
          operation.perform draft = .error (operation.refusal className) draft := by
    have account := frozen before later parts unfinished
    refine ⟨account.source, fun operation more used => ?_⟩
    rw [← account.named]
    exact perform_of_ended account.ended more used
  by_cases finished : .finish ∈ operations
  · obtain ⟨before, later, parts, unfinished⟩ := List.eq_append_cons_of_mem finished
    have account := frozen before later parts unfinished
    obtain ⟨writes, closes, held, once, closed, written, never⟩ := account.sink
    refine ⟨writes, closes, held, once, closed, ?_, ⟨?_, ?_⟩, refusals,
      fun _ _ _ => startPackage_refused, fun _ => registerImport_refused,
      fun _ _ => renderType_refused⟩
    · rw [account.source]
      exact (Classical.em (Writable before)).elim (fun yes => .inr (written yes))
        fun no => .inl (never no)
    · intro some
      exact ⟨before, later, parts, unfinished, not_not.1 fun no => some (never no)⟩
    · rintro ⟨front, rest, other, first, writable⟩
      obtain ⟨others, more, also, -, -, wrote, -⟩ := (frozen front rest other first).sink
      rw [held] at also
      cases also
      rw [wrote writable]
      exact List.cons_ne_nil _ _
  · obtain ⟨closes, held, once, closed⟩ := (begun_performAll finished).sink
    refine ⟨[], closes, held, once, closed, .inl rfl, ?_, refusals,
      fun _ _ _ => startPackage_refused, fun _ => registerImport_refused,
      fun _ _ => renderType_refused⟩
    refine ⟨fun none => absurd rfl none, ?_⟩
    rintro ⟨before, later, rfl, -⟩
    exact absurd (List.mem_append_right _ List.mem_cons_self) finished

end DelegateClasses.ClassDraft
