import DelegateClasses.Delegate.Method
import DelegateClasses.Draft.Placed
import DelegateClasses.Processing.Generator
import DelegateClasses.Template

/-! The generator of delegating classes. For every class it writes one that
wraps an instance of it, with a method for each public method that is not
static. A template can add text in front of these methods and after them. -/
namespace DelegateClasses.Delegate

/-- What the generator keeps in the course of a run. -/
structure State where
  /-- What the name of a generated class has behind the name of its source. -/
  suffix : String
  /-- The template, empty when there is none. -/
  templateName : String
  policy : SuperclassPolicy
  /-- The classes being generated, the innermost first. -/
  current : List PlacedDraft
  /-- The classes that were given up, in order. -/
  released : List PlacedDraft

/-- The suffix unless another is asked for. -/
def defaultSuffix : String := "Wrapper"

/-- The state at the start of a run. -/
def State.start (suffix : String) (policy : SuperclassPolicy) : State :=
  ⟨suffix, "", policy, [], []⟩

/-- The simple name of the class generated for a source class. -/
def State.generatedName (state : State) (declared : ClassDecl) : String :=
  declared.simpleName ++ state.suffix

/-- Takes an option: the suffix, the template, or the start of the names of the
superclasses to fold. -/
def takeOption (name value : String) : Hook State Unit :=
  let change (adjust : State → State) : Hook State Unit :=
    modify fun world => { world with own := adjust world.own }
  if name = "wrapperSuffix" then change fun state => { state with suffix := value }
  else if name = "template" then change fun state => { state with templateName := value }
  else if name = "superclassPrefix" then
    change fun state => { state with policy := .startingWith value .fold }
  else Generator.ignoreOption name

/-- Works on the innermost class. -/
def drafting {α : Type} (work : Drafting α) : Hook State α := fun world =>
  match world.own.current with
  | [] => .error .noOpenClass world
  | placed :: outer =>
    let store (draft : ClassDraft) : World State :=
      { world with own := { world.own with current := { placed with draft } :: outer } }
    match work placed.draft with
    | .ok value draft => .ok value (store draft)
    | .error failure draft => .error failure (store draft)

/-- Begins a class by making its file. -/
def begin (path : Path) (className : String) : Hook State Unit := fun world =>
  match PlacedDraft.create world.files path className with
  | (.error failure, files) => .error failure { world with files }
  | (.ok placed, files) =>
    .ok () { world with files, own := { world.own with current := placed :: world.own.current } }

/-- Gives up the innermost class: its text goes to its file. -/
def leave (world : World State) : World State :=
  match world.own.current with
  | [] => world
  | placed :: outer =>
    let (closed, files) := placed.release world.files
    { world with
      files
      own := { world.own with current := outer, released := world.own.released ++ [closed] } }

/-- Adds the text of a section as a method, unless it is empty. -/
def addSection (lines : List String) : Hook State Unit :=
  let text := Template.sectionText lines
  if text = "" then return () else drafting (ClassDraft.addMethod text)

/-- Reads from a template. -/
def reading {α : Type} (settings : Settings) (name : String) (work : TemplateReading α) :
    Hook State α := fun world =>
  match Template.openFrom world.files (settings.resource name) with
  | .error failure => .error failure world
  | .ok template => match work template with
    | .ok value _ => .ok value world
    | .error failure _ => .error failure world

/-- Adds the text before the first marker of the template, if there is one. -/
def addFirstSection (settings : Settings) : Hook State Unit := do
  let name := (← get).own.templateName
  if name = "" then return ()
  else
    let (lines, _) ← reading settings name Template.readSection
    addSection lines

/-- Adds the texts behind the first marker of the template, if there is one. -/
def addOtherSections (settings : Settings) : Hook State Unit := do
  let name := (← get).own.templateName
  if name = "" then return ()
  else
    let sections ← reading settings name do
      let _ ← Template.readSection
      Template.readSections
    sections.forM addSection

/-- The first part of a generated class: its field, its constructor and the text
before the first marker of the template. -/
def startDraft (settings : Settings) (declared : ClassDecl) : Hook State Unit := do
  drafting (ClassDraft.startWrapping declared.type Fragment.wrappedName)
  addFirstSection settings

/-- The file of the class generated for a source class. -/
def outputPath (directory : Path) (package className : String) : Path :=
  (directory.child (DottedName.directory package)).child (className ++ PlacedDraft.suffix)

/-- Starts the class for a source class. Nothing is generated for an enum. -/
def startClass (settings : Settings) (declared : ClassDecl) (position : Position) :
    Hook State Bool := do
  if declared.kind = .enum then
    Hook.note settings ("Not wrapping enum: " ++ declared.name)
    return false
  else match declared.package? with
    | none => throw (.noPackage declared.type.qualifiedName)
    | some package =>
      let className := (← get).own.generatedName declared
      let path := outputPath position.outputDirectory package className
      begin path className
      fun world => match startDraft settings declared world with
        | .ok _ world => .ok () world
        | .error failure world => .error failure (leave world)
      Hook.report .debug .delegate
        ("Generating '" ++ path.text ++ "' for '" ++ declared.name ++ "'.")
      return true

/-- Whether calls of a method are passed on. -/
def isDelegated (method : MethodDecl) : Bool :=
  method.isPublic && !method.isStatic

/-- Adds the method that passes on the calls of a method of the source class. -/
def addMethod (method : MethodDecl) : Hook State Unit :=
  if isDelegated method then drafting do ClassDraft.addMethod (← definition method)
  else return ()

/-- Adds a method that passes on the calls of a method of a superclass, unless
the class has the same one. -/
def addInherited (settings : Settings) (method : MethodDecl) : Hook State Unit :=
  if isDelegated method then do
    let text ← drafting (definition method)
    let methods ← drafting (return (← get).methods)
    if methods.contains text then
      Hook.note settings ("Skipping overridden method: " ++ method.name)
    else drafting (ClassDraft.addMethod text)
  else return ()

/-- Ends a class: the rest of the template is added, and the class is finished. -/
def endClass (settings : Settings) : Hook State Unit := do
  addOtherSections settings
  drafting ClassDraft.finish

/-- The generator of delegating classes. -/
def generator : Generator State where
  policy := State.policy
  option := takeOption
  startClass := startClass
  leaveClass := fun _ => leave
  method := fun _ method _ => addMethod method
  inheritedMethod := fun settings method _ => addInherited settings method
  field := fun _ _ _ => return ()
  endClass := fun settings _ _ => endClass settings
  finish := return ()

end DelegateClasses.Delegate
