import DelegateClasses.CommandLine.Arguments
import DelegateClasses.CommandLine.Selection
import DelegateClasses.Delegate.Generator
import DelegateClasses.Processing.Round

/-! The program as a whole. Every model is loaded before the first class is
generated, so that superclasses are found across models. Generated classes go
to the output directory, or to the directory of their model. -/
namespace DelegateClasses.CommandLine

/-- A step of the program. -/
abbrev Running := Processing Delegate.State

/-- A model that was loaded. -/
structure LoadedModel where
  path : String
  classes : List ClassDecl

/-- Loads the classes of a model. -/
def readModel (path : String) : Running (List ClassDecl) := do
  match Document.load (← get).world.files path with
  | .error failure => throw failure
  | .ok classes =>
    Processing.report .debug .model
      ("Loaded " ++ toString classes.length ++ " class(es) from '" ++ path ++ "'.")
    return classes

/-- Loads a model and enters its classes into the index. A model that cannot be
used is reported. -/
def loadModel (path : String) : Running (Option LoadedModel) := fun session =>
  match readModel path session with
  | .ok classes session => (do
      Processing.declare classes
      return some ⟨path, classes⟩ : Running (Option LoadedModel)) session
  | .error failure session =>
    if failure.isIsolated then (do
      Processing.report .error .run failure.message
      return none : Running (Option LoadedModel)) session
    else .error failure session

/-- The directory for the classes of a model. -/
def outputDirectoryFor (arguments : Arguments) (root path : String) : String :=
  let directory := arguments.outputDirectory.getD ""
  if directory = "" then Path.directoryText path else Path.joinText root directory

/-- Generates the classes of a model, and gives the number of those that failed. -/
def generateModel (arguments : Arguments) (root : String) (model : LoadedModel) :
    Running Nat := do
  let directory := outputDirectoryFor arguments root model.path
  let result ← Processing.process Delegate.generator model.classes (Path.ofText directory)
  Processing.report .info .run
    ("Generated " ++ toString result.generated.length ++ " class(es) from '" ++ model.path ++
      "' into '" ++ directory ++ "'.")
  return result.failures.length

/-- The paths of the models that the arguments select. -/
def selectedModels (files : FileTree) (root : String) (arguments : Arguments) :
    Running (List String) :=
  let selected :=
    modelPaths files root arguments.paths arguments.excludes arguments.recursive
  Processing.liftExcept (selected.mapError fun error => .unnameable error.path)

/-- Runs the generator on the selected models, and gives the number of models
and classes that failed. -/
def run (arguments : Arguments) (root : String) : Running Nat := do
  let files := (← get).world.files
  let paths ← selectedModels files root arguments
  if paths.isEmpty then
    Processing.report .warning .run
      ("No class models found for " ++ Text.quotedList arguments.paths ++ ".")
  let outcomes ← paths.mapM loadModel
  let models := outcomes.filterMap id
  let options ← Processing.liftExcept arguments.collected
  Processing.applyOptions Delegate.generator options
  let failed ← models.mapM (generateModel arguments root)
  Processing.finish Delegate.generator
  return failed.foldl (· + ·) (paths.length - models.length)

/-- Whether the arguments ask for all reports. -/
def Arguments.verbose (arguments : Arguments) : Bool :=
  arguments.debug || arguments.options.contains (some (debugOption, "true"))

/-- How the program ended. -/
inductive Ending where
  /-- With an exit status. -/
  | exited (status : Nat)
  /-- With the help text. -/
  | helped
  /-- Because of wrong arguments. -/
  | refused (message : String)
  /-- Because of a failure that no class or model accounts for. -/
  | failed (failure : Failure)

/-- What the program leaves behind. -/
structure Outcome where
  ending : Ending
  files : FileTree
  log : List LogEntry

/-- The directory from which the program is started. -/
def rootOf (files : FileTree) : String :=
  "/" ++ "/".intercalate files.workingDirectory

/-- The session at the start of the program. -/
def startSession (files : FileTree) : Session Delegate.State :=
  ⟨.start .empty, ⟨files, .empty, .start Delegate.defaultSuffix .never⟩⟩

/-- The exit status for a number of failures, reported when there are any. -/
def conclude (failures : Nat) : Running Nat :=
  if failures = 0 then return 0
  else do
    Processing.report .error .outcome
      ("Generation failed for " ++ toString failures ++ " model(s) or class(es).")
    return 1

/-- The program, from the arguments and the files at its start. -/
def execute (arguments : List String) (files : FileTree) : Outcome :=
  let root := rootOf files
  let started : LogEntry := ⟨.info, .start, "Working from root directory: " ++ root⟩
  match parse arguments with
  | .error .help => ⟨.helped, files, [started]⟩
  | .error (.refused message) => ⟨.refused message, files, [started]⟩
  | .ok asked =>
    let threshold : Level := if asked.verbose then .debug else .info
    let shown (log : Log) := started :: LogEntry.atLeast threshold log.entries
    match (do conclude (← run asked root) : Running Nat) (startSession files) with
    | .ok status session => ⟨.exited status, session.world.files, shown session.world.log⟩
    | .error failure session => ⟨.failed failure, session.world.files, shown session.world.log⟩

end DelegateClasses.CommandLine
