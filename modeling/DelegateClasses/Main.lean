import DelegateClasses.CommandLine.Run

/-! The program. It takes the working directory in, lets the library decide
what to do, and puts the new files and directories in place. -/
namespace DelegateClasses.Program

/-- The word for a level in a report. -/
def levelWord : Level → String
  | .debug => "DEBUG"
  | .info => "INFO"
  | .warning => "WARNING"
  | .error => "ERROR"

/-- The word for a topic in a report. -/
def topicWord : Topic → String
  | .start => "start"
  | .run => "run"
  | .model => "model"
  | .progress => "progress"
  | .superclass => "superclass"
  | .processing => "processing"
  | .delegate => "delegate"
  | .outcome => "outcome"

/-- A report as a line. -/
def reportLine (entry : LogEntry) : String :=
  levelWord entry.level ++ ":" ++ topicWord entry.topic ++ ":" ++ entry.message

/-- The help text. -/
def helpText : String :=
  "options: " ++ ", ".intercalate
    (CommandLine.Switch.all.map fun switch => "/".intercalate switch.spellings)

/-- A directory entry and everything below it. Links are left out. -/
partial def takeIn (place : List String) (entry : IO.FS.DirEntry) :
    IO (List (List String × Node)) := do
  let here := place ++ [entry.fileName]
  match (← entry.path.symlinkMetadata).type with
  | .dir =>
    let below ← (← entry.path.readDir).toList.mapM (takeIn here)
    return (here, .directory) :: below.flatten
  | .file => return [(here, .file (← IO.FS.readBinFile entry.path))]
  | _ => return []

/-- The working directory and everything below it. -/
def takeInAll : IO FileTree := do
  let home ← IO.currentDir
  let place := Path.components home.toString
  let above := (List.range place.length).map fun count => (place.take (count + 1), Node.directory)
  let below ← (← home.readDir).toList.mapM (takeIn place)
  return ⟨place, above ++ below.flatten⟩

/-- Puts in place what the tree has and an earlier state of it had not. -/
def putOut (tree before : FileTree) : IO Unit := do
  let pathOf (place : List String) := "/" ++ "/".intercalate place
  for (place, node) in tree.entries do
    if node.isDirectory && (before.node? place).isNone then
      IO.FS.createDirAll (pathOf place)
  for (place, content) in tree.changedSince before do
    IO.FS.writeBinFile (pathOf place) content

/-- Tells how the program ended, and gives the exit status. -/
def conclude : CommandLine.Ending → IO UInt32
  | .exited status => return status.toUInt32
  | .helped => do
    IO.println helpText
    return 0
  | .refused message => do
    IO.eprintln ("error: " ++ message)
    return 2
  | .failed failure => do
    IO.eprintln failure.message
    return 1

end DelegateClasses.Program

/-- Generates delegating classes for the models that the arguments select. -/
def main (arguments : List String) : IO UInt32 := do
  let before ← DelegateClasses.Program.takeInAll
  let outcome := DelegateClasses.CommandLine.execute arguments before
  for entry in outcome.log do
    IO.eprintln (DelegateClasses.Program.reportLine entry)
  DelegateClasses.Program.putOut outcome.files before
  DelegateClasses.Program.conclude outcome.ending
