import DelegateClasses.Declaration.Index
import DelegateClasses.Processing.Generator

/-! The bookkeeping of a run: the options, the declared classes, which classes
are generated and which superclasses wait for being generated. -/
namespace DelegateClasses

/-- What is known in the course of a run. -/
structure Ledger where
  settings : Settings
  /-- All declared classes. -/
  index : ClassIndex
  /-- The names of the generated classes, each once, in the order of their
  completion. -/
  generated : List String
  /-- Superclasses that are still to be generated, the next one first. -/
  pending : List ClassDecl

/-- The ledger at the start of a run. -/
def Ledger.start (index : ClassIndex) : Ledger :=
  ⟨.default, index, [], []⟩

/-- Enters the name of a class that was generated. -/
def Ledger.complete (ledger : Ledger) (name : String) : Ledger :=
  if ledger.generated.contains name then ledger
  else { ledger with generated := ledger.generated ++ [name] }

/-- A run in progress. -/
structure Session (σ : Type) where
  ledger : Ledger
  world : World σ

/-- A step of a run. A step that fails keeps what it did before. -/
abbrev Processing (σ : Type) := EStateM Failure (Session σ)

namespace Processing

variable {σ : Type}

/-- Carries out a step of the generator. -/
def hook {α : Type} (step : Settings → Hook σ α) : Processing σ α := fun session =>
  match step session.ledger.settings session.world with
  | .ok value world => .ok value { session with world }
  | .error failure world => .error failure { session with world }

/-- Changes the ledger. -/
def record (change : Ledger → Ledger) : Processing σ Unit :=
  modify fun session => { session with ledger := change session.ledger }

/-- Goes on with a value, or fails. -/
def liftExcept {α : Type} : Except Failure α → Processing σ α
  | .ok value => return value
  | .error failure => throw failure

/-- Reports something. -/
def report (level : Level) (topic : Topic) (message : String) : Processing σ Unit :=
  hook fun _ => .report level topic message

/-- Reports the progress of the run. -/
def note (message : String) : Processing σ Unit :=
  hook fun settings => .note settings message

/-- Carries out a step, and something after it in any case. -/
def closing {α : Type} (step : Processing σ α) (after : World σ → World σ) :
    Processing σ α := fun session =>
  match step session with
  | .ok value session => .ok value { session with world := after session.world }
  | .error failure session => .error failure { session with world := after session.world }

/-- Carries out a step. A failure that concerns one class only is the answer,
any other failure goes on. -/
def isolate (step : Processing σ Unit) : Processing σ (Option Failure) := fun session =>
  match step session with
  | .ok _ session => .ok none session
  | .error failure session =>
    if failure.isIsolated then .ok (some failure) session else .error failure session

/-- Reports a superclass that is not declared. -/
def reportUndeclared (superclass : TypeRef) (className : String) : Processing σ Unit :=
  report .warning .superclass ("Superclass '" ++ superclass.descriptor ++ "' of '" ++ className ++
    "' is not declared in the class model.")

/-- Reports names that are declared again. -/
def reportRepeated (names : List String) : Processing σ Unit :=
  names.forM fun name => report .warning .model
    ("Class '" ++ name ++ "' is declared more than once, keeping the last declaration.")

/-- Enters classes into the index. -/
def declare (classes : List ClassDecl) : Processing σ Unit := do
  let (index, repeated) := (← get).ledger.index.addAll classes
  record fun ledger => { ledger with index }
  reportRepeated repeated

end Processing

end DelegateClasses
