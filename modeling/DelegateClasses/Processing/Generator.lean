import DelegateClasses.Failure
import DelegateClasses.Processing.Log
import DelegateClasses.Processing.Policy
import DelegateClasses.Declaration.Element
import DelegateClasses.Storage.Tree

/-! What a generator has to provide. A run hands it the options, the classes
and their members one by one. A generator changes files, reports, and a state
of its own, but not the bookkeeping of the run. -/
namespace DelegateClasses

/-- The options of a run that every generator can consult. -/
structure Settings where
  /-- The directory from which templates are taken. -/
  resourcePath : Option String
  /-- Whether notes on the progress are of interest. -/
  debug : Bool

namespace Settings

/-- The settings of a run without options. -/
def default : Settings := ⟨none, false⟩

/-- The path of a resource, seen from the resource directory if there is one. -/
def resource (settings : Settings) (name : String) : Path :=
  match settings.resourcePath with
  | none => .ofText name
  | some directory =>
    if directory = "" then .ofText name else (Path.ofText directory).child name

/-- The importance of a note on the progress. -/
def noteLevel (settings : Settings) : Level :=
  if settings.debug then .info else .debug

end Settings

/-- Where the traversal of the declarations stands. -/
structure Position where
  /-- The directory that the generated packages go to. -/
  outputDirectory : Path
  /-- The name of the class being generated, empty outside of one. -/
  className : String
  /-- How many classes enclose the current element. -/
  depth : Int

/-- The position outside of all classes. -/
def Position.outside (outputDirectory : Path) : Position :=
  ⟨outputDirectory, "", 0⟩

/-- What a generator can change: the files, the reports, and its own state. -/
structure World (σ : Type) where
  files : FileTree
  log : Log
  own : σ

/-- A step of a generator. A step that fails keeps what it did before. -/
abbrev Hook (σ : Type) := EStateM Failure (World σ)

namespace Hook

variable {σ : Type}

/-- Reports something. -/
def report (level : Level) (topic : Topic) (message : String) : Hook σ Unit :=
  modify fun world => { world with log := world.log.add ⟨level, topic, message⟩ }

/-- Reports the progress of the run. -/
def note (settings : Settings) (message : String) : Hook σ Unit :=
  report settings.noteLevel .progress message

end Hook

/-- The steps of a generator. -/
structure Generator (σ : Type) where
  /-- How superclasses are treated. -/
  policy : σ → SuperclassPolicy
  /-- Takes an option that the run itself does not know. -/
  option : String → String → Hook σ Unit
  /-- Starts a class. The answer tells whether the class is generated. -/
  startClass : Settings → ClassDecl → Position → Hook σ Bool
  /-- Gives up what a started class holds, after its end and after a failure. -/
  leaveClass : ClassDecl → World σ → World σ
  /-- Takes a method that the class declares. -/
  method : Settings → MethodDecl → Position → Hook σ Unit
  /-- Takes a method of a superclass that is folded into the class. -/
  inheritedMethod : Settings → MethodDecl → Position → Hook σ Unit
  /-- Takes a field that the class declares. -/
  field : Settings → FieldDecl → Position → Hook σ Unit
  /-- Ends a class whose members were all taken. -/
  endClass : Settings → ClassDecl → Position → Hook σ Unit
  /-- Ends the run. -/
  finish : Hook σ Unit

namespace Generator

/-- Reports that an option is not known. -/
def ignoreOption {σ : Type} (name : String) : Hook σ Unit :=
  .report .warning .processing ("Ignoring unknown option '" ++ name ++ "'.")

/-- The generator that knows no options and generates nothing. -/
def idle : Generator Unit where
  policy := fun _ => .never
  option := fun name _ => ignoreOption name
  startClass := fun _ _ _ => return false
  leaveClass := fun _ world => world
  method := fun _ _ _ => return ()
  inheritedMethod := fun _ _ _ => return ()
  field := fun _ _ _ => return ()
  endClass := fun _ _ _ => return ()
  finish := return ()

end Generator

end DelegateClasses
