import DelegateClasses.Processing.Visit

/-! A round: classes are generated one after the other, each followed by the
superclasses that it put on the waiting list. A class that fails does not keep
the others from being generated, and is not tried again in the same round. -/
namespace DelegateClasses

/-- What became of the classes of a round. -/
structure RoundResult where
  /-- The names of the generated classes, in the order of their completion. -/
  generated : List String
  /-- The names of the classes that failed, with the reason. -/
  failures : List (String × Failure)

namespace RoundResult

/-- The result of a round without classes. -/
def empty : RoundResult := ⟨[], []⟩

/-- Whether a class failed. -/
def failed (result : RoundResult) (name : String) : Bool :=
  result.failures.any (·.1 == name)

/-- Whether no class failed. -/
def ok (result : RoundResult) : Bool :=
  result.failures.isEmpty

end RoundResult

/-- The option that names the directory of the templates. -/
def resourcePathOption : String := "resourcePath"

/-- The option that switches the notes on. -/
def debugOption : String := "debug"

namespace Processing

variable {σ : Type}

/-- Takes one option. What the run does not know itself goes to the generator. -/
def applyOption (generator : Generator σ) (name value : String) : Processing σ Unit := do
  report .info .processing ("Option: " ++ name ++ "=" ++ value)
  if name = resourcePathOption then
    record fun ledger =>
      { ledger with settings := { ledger.settings with resourcePath := some value } }
  else if name = debugOption then
    record fun ledger =>
      { ledger with settings := { ledger.settings with debug := value == "true" } }
  else hook fun _ => generator.option name value

/-- Takes the options of a run. -/
def applyOptions (generator : Generator σ) (options : List (String × String)) :
    Processing σ Unit :=
  options.forM fun option => applyOption generator option.1 option.2

/-- Generates one class, unless it failed before in this round. The names of
completed classes are only added to, so those of this class are at their end. -/
def processClass (generator : Generator σ) (position : Position) (declared : ClassDecl)
    (result : RoundResult) : Processing σ RoundResult := do
  if result.failed declared.name then return result
  else
    note ("Processing " ++ declared.name)
    let before := (← get).ledger.generated
    let outcome ← isolate (visitClass generator position declared)
    let completed := (← get).ledger.generated.drop before.length
    match outcome with
    | none => return { result with generated := result.generated ++ completed }
    | some failure =>
      report .error .processing
        ("Generation of '" ++ declared.name ++ "' failed: " ++ failure.message)
      return ⟨result.generated ++ completed, result.failures ++ [(declared.name, failure)]⟩

/-- Generates the classes on the waiting list, at most as many as the fuel says. -/
def drain (generator : Generator σ) (position : Position) :
    Nat → RoundResult → Processing σ RoundResult
  | 0, result => return result
  | fuel + 1, result => do
    match (← get).ledger.pending with
    | [] => return result
    | next :: others =>
      record fun ledger => { ledger with pending := others }
      drain generator position fuel (← processClass generator position next result)

/-- Enough for the waiting list: only a class that is completed can add another,
and every class is completed once. -/
def drainFuel (ledger : Ledger) : Nat :=
  2 * ledger.pending.length + ledger.index.size

/-- Generates a class and the superclasses that it puts on the waiting list. -/
def processWithSuperclasses (generator : Generator σ) (position : Position)
    (result : RoundResult) (declared : ClassDecl) : Processing σ RoundResult := do
  let result ← processClass generator position declared result
  drain generator position (drainFuel (← get).ledger) result

/-- Generates classes into a directory. -/
def process (generator : Generator σ) (classes : List ClassDecl) (outputDirectory : Path) :
    Processing σ RoundResult :=
  classes.foldlM (processWithSuperclasses generator (.outside outputDirectory)) .empty

/-- Tells the generator that no class follows. -/
def finish (generator : Generator σ) : Processing σ Unit :=
  hook fun _ => generator.finish

end Processing

end DelegateClasses
