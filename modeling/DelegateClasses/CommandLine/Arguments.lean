import DelegateClasses.Processing.Round
import DelegateClasses.Text.Digit
import DelegateClasses.Text.Quoted

/-! The arguments of the program. Long switches may be shortened as long as one
switch alone is meant; single-letter switches without a value can be written
together, and a value can be attached to a switch. -/
namespace DelegateClasses.CommandLine

/-- The switches of the program. -/
inductive Switch where
  | help
  | paths
  | excludes
  | outputDirectory
  | option
  | resourcePath
  | debug
  | recursive
deriving DecidableEq, Repr

/-- How many values a switch takes. -/
inductive Arity where
  | none
  | one
  | some
deriving DecidableEq, Repr

namespace Switch

/-- All switches, in the order in which they are listed. -/
def all : List Switch :=
  [help, paths, excludes, outputDirectory, option, resourcePath, debug, recursive]

/-- The ways to write a switch. -/
def spellings : Switch → List String
  | help => ["-h", "--help"]
  | paths => ["-p", "--paths"]
  | excludes => ["-e", "--excludes"]
  | outputDirectory => ["-o", "--output-dir"]
  | option => ["-A", "--option"]
  | resourcePath => ["--resource-path"]
  | debug => ["--debug"]
  | recursive => ["-r", "--recursive"]

/-- How many values the switch takes. -/
def arity : Switch → Arity
  | help | debug | recursive => .none
  | outputDirectory | option | resourcePath => .one
  | paths | excludes => .some

/-- Every spelling with the switch it stands for. -/
def table : List (String × Switch) :=
  all.flatMap fun switch => switch.spellings.map (·, switch)

/-- The switch that a spelling stands for. -/
def ofSpelling? (spelling : String) : Option Switch :=
  table.lookup spelling

/-- A complaint about the use of the switch. -/
def complaint (switch : Switch) (text : String) : String :=
  "argument " ++ "/".intercalate switch.spellings ++ ": " ++ text

end Switch

/-- What the arguments ask for. A single value, or the option of a switch, is
`none` when the switch was given and no value was left for it. -/
structure Arguments where
  paths : List String
  excludes : List String
  outputDirectory : Option String
  options : List (Option (String × String))
  resourcePath : Option String
  debug : Bool
  recursive : Bool

/-- What is done when nothing is asked for. -/
def Arguments.default : Arguments :=
  ⟨["**/*.model.json"], [], some "", [], some "", false, false⟩

/-- Why the arguments lead to no run. -/
inductive Stop where
  /-- The help text is wanted. -/
  | help
  /-- The arguments are wrong. -/
  | refused (message : String)

/-- One argument, by its role. -/
inductive Token where
  | value (text : String)
  | separator
  | switch (switch : Switch) (long : Bool) (attached : Option (List Char))
  | unknown (text : String)

/-- Cuts a text at its first equals sign. -/
def splitAtEquals (text : List Char) : Option (List Char × List Char) :=
  match text.dropWhile (· != '=') with
  | [] => none
  | _ :: value => some (text.takeWhile (· != '='), value)

/-- Splits an option into its name and its value. -/
def parseOption (text : String) : Except String (String × String) :=
  match splitAtEquals text.toList with
  | some (c :: name, value) => .ok (String.ofList (c :: name), String.ofList value)
  | _ => .error ("expected an option of the form name=value, got '" ++ text ++ "'")

/-- Whether a text is a fraction: a dot and digits after it. -/
def isFraction : List Char → Bool
  | '.' :: digits => !digits.isEmpty && digits.all Text.isDecimalDigit
  | _ => false

/-- Whether a text is a negative number; a line feed may follow it. -/
def isNegativeNumber (text : List Char) : Bool :=
  let body := if text.getLast? = some '\n' then text.dropLast else text
  match body with
  | '-' :: digits =>
    (!digits.isEmpty && digits.all Text.isDecimalDigit) ||
      isFraction (digits.dropWhile Text.isDecimalDigit)
  | _ => false

/-- The spellings that a text may be short for, with what is attached. -/
def candidates (text : List Char) : List (String × Switch × Option (List Char)) :=
  match text with
  | '-' :: '-' :: _ =>
    let stem := text.takeWhile (· != '=')
    let attached := (splitAtEquals text).map (·.2)
    (Switch.table.filter fun entry => stem.isPrefixOf entry.1.toList).map
      fun entry => (entry.1, entry.2, attached)
  | _ =>
    (Switch.table.filter fun entry => entry.1.toList == text.take 2).map
      fun entry => (entry.1, entry.2, some (text.drop 2))

/-- Whether a spelling is that of a long switch. -/
def isLong (spelling : List Char) : Bool :=
  spelling.take 2 == ['-', '-']

/-- The role of an argument. -/
def classify (argument : String) : Except String Token :=
  let text := argument.toList
  if text.head? ≠ some '-' ∨ text.length = 1 then .ok (.value argument)
  else match Switch.ofSpelling? argument with
    | some switch => .ok (.switch switch (isLong text) none)
    | none =>
      let direct := (splitAtEquals text).bind fun (stem, value) =>
        (Switch.ofSpelling? (String.ofList stem)).map
          (Token.switch · (isLong stem) (some value))
      match direct with
      | some token => .ok token
      | none => match candidates text with
        | [(_, switch, attached)] => .ok (.switch switch (isLong text) attached)
        | [] =>
          if isNegativeNumber text || text.contains ' ' then .ok (.value argument)
          else .ok (.unknown argument)
        | several => .error ("ambiguous option: " ++ argument ++ " could match " ++
            ", ".intercalate (several.map (·.1)))

/-- The roles of all arguments. Behind a double hyphen everything is a value. -/
def tokens : List String → Except String (List Token)
  | [] => .ok []
  | argument :: rest =>
    if argument = "--" then .ok (.separator :: rest.map .value)
    else do
      let token ← classify argument
      return token :: (← tokens rest)

/-- Switches that are written as one argument: those without a value, and the
last one with the text attached to it. -/
structure Group where
  flags : List Switch
  last : Switch
  attached : Option String

/-- The complaint about text attached to a switch that cannot take it. -/
def Switch.ignoring (switch : Switch) (text : List Char) : String :=
  switch.complaint ("ignored explicit argument " ++ Text.quoted (String.ofList text))

/-- The group of a switch with attached text. The text behind a single-letter
switch without a value names further switches; elsewhere it is the value. -/
def Group.ofAttached (switch : Switch) (long : Bool) (text : List Char) : Except String Group :=
  if switch.arity ≠ .none then .ok ⟨[], switch, some (String.ofList text)⟩
  else if long then .error (switch.ignoring text)
  else match text with
    | [] => .error (switch.ignoring [])
    | letter :: rest =>
      match Switch.ofSpelling? (String.ofList ['-', letter]) with
      | none => .error (switch.ignoring (letter :: rest))
      | some next =>
        if rest.isEmpty then .ok ⟨[switch], next, none⟩
        else (ofAttached next false rest).map fun group =>
          { group with flags := switch :: group.flags }

/-- The group that a switch stands for, with or without attached text. -/
def Group.of (switch : Switch) (long : Bool) : Option (List Char) → Except String Group
  | none => .ok ⟨[], switch, none⟩
  | some text => ofAttached switch long text

/-- The value of a switch of which the text is attached. A double hyphen only
marks that values follow, and none do. -/
def attachedValues (text : String) : List String :=
  if text = "--" then [] else [text]

/-- Carries out a switch with its values. -/
def Arguments.apply (arguments : Arguments) (switch : Switch) (values : List String) :
    Except Stop Arguments :=
  match switch with
  | .help => .error .help
  | .paths => .ok { arguments with paths := values }
  | .excludes => .ok { arguments with excludes := values }
  | .outputDirectory => .ok { arguments with outputDirectory := values.head? }
  | .option => match values.head?.mapM parseOption with
    | .ok option => .ok { arguments with options := arguments.options ++ [option] }
    | .error reason => .error (.refused (switch.complaint reason))
  | .resourcePath => .ok { arguments with resourcePath := values.head? }
  | .debug => .ok { arguments with debug := true }
  | .recursive => .ok { arguments with recursive := true }

/-- The values at the start of the tokens. -/
def leadingValues : List Token → List String
  | .value text :: rest => text :: leadingValues rest
  | _ => []

/-- The values that a switch takes from the tokens behind it. -/
def takeValues (switch : Switch) (following : List Token) : Except Stop (List String) :=
  match switch.arity, leadingValues following with
  | .none, _ => .ok []
  | .one, value :: _ => .ok [value]
  | .one, [] => .error (.refused (switch.complaint "expected one argument"))
  | .some, value :: values => .ok (value :: values)
  | .some, [] => .error (.refused (switch.complaint "expected at least one argument"))

/-- Carries out the tokens from left to right. `extras` are the arguments so far
that mean nothing, and `skip` of the next tokens are values already taken. -/
def interpret (arguments : Arguments) (extras : List String) (skip : Nat) :
    List Token → Except Stop (Arguments × List String)
  | [] => .ok (arguments, extras)
  | token :: rest =>
    match skip, token with
    | taken + 1, _ => interpret arguments extras taken rest
    | 0, .value text => interpret arguments (extras ++ [text]) 0 rest
    | 0, .separator => interpret arguments (extras ++ ["--"]) 0 rest
    | 0, .unknown text => interpret arguments (extras ++ [text]) 0 rest
    | 0, .switch switch long attached => do
      let group ← (Group.of switch long attached).mapError .refused
      let (values, taken) ← match group.attached with
        | some text => .ok (attachedValues text, 0)
        | none => (takeValues group.last rest).map fun values => (values, values.length)
      let arguments ← group.flags.foldlM (fun arguments flag => arguments.apply flag []) arguments
      interpret (← arguments.apply group.last values) extras taken rest

/-- Reads the arguments of the program. -/
def parse (arguments : List String) : Except Stop Arguments := do
  let tokens ← (tokens arguments).mapError .refused
  let (asked, extras) ← interpret .default [] 0 tokens
  if extras.isEmpty then return asked
  else throw (.refused ("unrecognized arguments: " ++ " ".intercalate extras))

/-- Gives an option a value. An option that is given again keeps its place. -/
def setOption (options : List (String × String)) (name value : String) :
    List (String × String) :=
  if (options.lookup name).isSome then
    options.map fun entry => if entry.1 = name then (name, value) else entry
  else options ++ [(name, value)]

/-- Options of which each name is given once, with its last value. -/
def mergeOptions (options : List (String × String)) : List (String × String) :=
  options.foldl (fun merged (name, value) => setOption merged name value) []

/-- The options of a run, from the option switches and the switches that stand
for one. -/
def Arguments.collected (arguments : Arguments) : Except Failure (List (String × String)) := do
  let given ← arguments.options.mapM fun option => match option with
    | some pair => .ok pair
    | none => .error .emptyOption
  let options := mergeOptions given
  let path := arguments.resourcePath.getD ""
  let options := if path = "" then options else setOption options resourcePathOption path
  return if arguments.debug then setOption options debugOption "true" else options

end DelegateClasses.CommandLine
