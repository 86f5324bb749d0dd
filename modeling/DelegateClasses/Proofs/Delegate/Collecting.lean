import DelegateClasses.Delegate.Generator
import DelegateClasses.Proofs.Draft.Rendering
import DelegateClasses.Proofs.Imports.Eligibility
import DelegateClasses.Proofs.Template.Sections

/-! A delegating class while it is generated. What it has used of names depends
only on the methods that the generator was handed so far: whether a method is
taken, or left out because the class has the same one, makes no difference.
Main statement: every step of the generator keeps this account of the class. -/
namespace DelegateClasses.Delegate
open ClassDraft Imports Steps

/-- A class that is generated, and the state of the generator before it was begun. -/
structure Target where
  before : State
  path : Path
  place : List String
  package : String
  className : String
  /-- The qualified name of the wrapped class. -/
  source : String

namespace Target

variable (target : Target)

/-- The place from which the class names types. -/
def scope : Scope :=
  ⟨target.package, defaultAvailable⟩

/-- The names that the class uses, in order: its own, that of the wrapped class,
and those in the methods that calls are passed on to. -/
def used (handed : List MethodDecl) : List String :=
  DottedName.member target.package target.className :: target.source ::
    (handed.filter isDelegated).flatMap methodNames

end Target

/-- The account of a class that was handed some methods. -/
structure Collected (target : Target) (handed : List MethodDecl) (draft : ClassDraft) : Prop where
  named : draft.className = target.className
  reach : draft.scope = target.scope
  packaged : draft.package = some target.package
  line : draft.classLine = some (Fragment.classLine target.className "public")
  unfinished : draft.ended = false
  writable : draft.sink = some .fresh
  imports : draft.imports = target.scope.useAll (target.used handed) .empty
  /-- The field and the constructor name the wrapped class by the owners of names. -/
  wrapped : ∀ owner?, Keeps draft.imports owner? →
    draft.fields = [wrappedField (shortened owner? target.source) Fragment.wrappedName] ∧
    draft.constructors = [wrappingConstructor target.className (shortened owner? target.source)
      Fragment.wrappedName]
  /-- Every call is passed on by a method that is spelled by the owners of names. -/
  delegates : ∀ method ∈ handed, isDelegated method = true → ∀ owner?,
    Keeps draft.imports owner? → spelledDefinition method (shortened owner?) ∈ draft.methods

variable {target : Target} {handed : List MethodDecl} {draft : ClassDraft} {method : MethodDecl}

/-- Texts that are added as methods take nothing back. -/
theorem collected_texts (collected : Collected target handed draft) (texts : List String) :
    Collected target handed { draft with methods := draft.methods ++ texts } where
  named := collected.named
  reach := collected.reach
  packaged := collected.packaged
  line := collected.line
  unfinished := collected.unfinished
  writable := collected.writable
  imports := collected.imports
  wrapped := collected.wrapped
  delegates := fun method member delegated owner? keeps =>
    List.mem_append_left _ (collected.delegates method member delegated owner? keeps)

/-- A method that no call is passed on to leaves no trace. -/
theorem collected_ignored (collected : Collected target handed draft)
    (ignored : isDelegated method = false) : Collected target (handed ++ [method]) draft where
  named := collected.named
  reach := collected.reach
  packaged := collected.packaged
  line := collected.line
  unfinished := collected.unfinished
  writable := collected.writable
  imports := by
    rw [collected.imports]
    simp [Target.used, ignored]
  wrapped := collected.wrapped
  delegates := by
    intro other member delegated owner? keeps
    rcases List.mem_append.1 member with earlier | last
    · exact collected.delegates other earlier delegated owner? keeps
    · rw [List.mem_singleton.1 last, ignored] at delegated
      cases delegated

theorem used_append (delegated : isDelegated method = true) :
    target.used (handed ++ [method]) = target.used handed ++ methodNames method := by
  simp [Target.used, delegated]

/-- A method whose definition was written, whether or not it was there before. -/
theorem collected_definition (collected : Collected target handed draft)
    (delegated : isDelegated method = true) {after : ClassDraft} {text : String}
    (written : definition method draft = .ok text after) {methods : List String}
    (kept : ∀ other ∈ draft.methods, other ∈ methods) (among : text ∈ methods) :
    Collected target (handed ++ [method]) { after with methods } := by
  obtain ⟨rfl, spelled⟩ := definition_renders method draft text after written
  have used : draft.scope.useAll (methodNames method) draft.imports =
      target.scope.useAll (target.used (handed ++ [method])) .empty := by
    rw [used_append delegated, Scope.useAll_append, collected.reach, collected.imports]
  refine ⟨collected.named, collected.reach, collected.packaged, collected.line,
    collected.unfinished, collected.writable, used,
    fun owner? keeps => collected.wrapped owner? (keeps_of_useAll keeps), ?_⟩
  intro other member passed owner? keeps
  rcases List.mem_append.1 member with earlier | last
  · exact kept _ (collected.delegates other earlier passed owner? (keeps_of_useAll keeps))
  · rw [List.mem_singleton.1 last, ← spelled owner? keeps]
    exact among

/-! ## The start of a class -/

/-- The class's own name is never imported. -/
theorem requires_own (plain : DottedName.isQualified target.className = false) :
    target.scope.requires (DottedName.member target.package target.className) = false := by
  rw [← Bool.not_eq_true, Target.scope, requires_iff, DottedName.package?_member plain]
  simp

/-- Changes that are only made to an open class. -/
theorem change_eq_ok {change : ClassDraft → ClassDraft} {after : ClassDraft}
    (ran : (requireOpen >>= fun _ => modify change : Drafting PUnit) draft = .ok ⟨⟩ after) :
    after = change draft := by
  obtain ⟨⟨⟩, middle, opened, rest⟩ := bind_eq_ok ran
  obtain ⟨-, rfl⟩ := requireOpen_eq_ok opened
  cases rest
  rfl

/-- A name that was read is itself read as a type with this name only. -/
theorem parse_of_name (parsed : TypeTree.parse descriptor = .ok (TypeTree.named full given 0)) :
    TypeRef.parse ⟨full⟩ = .ok (TypeTree.named full [] 0) ∧ TypeTree.Name full.toList := by
  have wellFormed := TypeTree.wellFormed_of_parse parsed
  obtain ⟨name, ordinary⟩ := TypeTree.name_of_mem_names wellFormed full <| by
    rw [TypeTree.names_named]
    exact List.mem_cons_self
  exact ⟨TypeTree.parse_name name ordinary, name⟩

theorem names_of_name (parsed : TypeRef.parse ⟨full⟩ = .ok (TypeTree.named full [] 0)) :
    TypeRef.names ⟨full⟩ = [full] := by
  rw [TypeRef.names, parsed]
  exact TypeTree.names_named

private theorem spelled_of_name (parsed : TypeRef.parse ⟨full⟩ = .ok (TypeTree.named full [] 0))
    (name : TypeTree.Name (spelling full).toList) :
    TypeRef.spelled ⟨full⟩ spelling = spelling full := by
  rw [TypeRef.spelled, parsed]
  simp only [TypeTree.rename_named]
  rw [TypeTree.text_named name]
  simp [TypeTree.applied, TypeTree.suffixes]

/-- What was used when a class is started: its own name, and that of the class
that it wraps. -/
theorem startWrapping_collected {source : TypeRef} {after : ClassDraft}
    (parsed : source.parse = .ok (TypeTree.named target.source given 0))
    (owned : DottedName.package? target.source = some target.package)
    (plain : DottedName.isQualified target.className = false)
    (ran : startWrapping source Fragment.wrappedName
      (.new target.className (some .fresh) defaultAvailable) = .ok ⟨⟩ after) :
    Collected target [] after := by
  have full : source.qualifiedName = target.source := TypeTree.withoutArguments_of_parse parsed
  have package : source.package? = some target.package := by rw [TypeRef.package?, full, owned]
  obtain ⟨read, name⟩ := parse_of_name parsed
  rw [startWrapping, package, full] at ran
  obtain ⟨⟨⟩, placed, put, rest⟩ := bind_eq_ok ran
  cases put
  obtain ⟨current, same, got, rest⟩ := bind_eq_ok rest
  cases got
  obtain ⟨⟨⟩, titled, started, rest⟩ := bind_eq_ok rest
  cases started
  obtain ⟨⟨⟩, bound, taken, rest⟩ := bind_eq_ok rest
  cases taken
  obtain ⟨type, rendered, written, rest⟩ := bind_eq_ok rest
  obtain ⟨rfl, spelled⟩ := renderType_renders _ _ _ _ written
  obtain ⟨⟨⟩, fielded, added, rest⟩ := bind_eq_ok rest
  obtain rfl := change_eq_ok added
  obtain rfl := change_eq_ok rest
  refine ⟨rfl, rfl, rfl, rfl, rfl, rfl, ?_, ?_, by simp⟩
  · have own : target.scope.use (DottedName.member target.package target.className) .empty =
        Registry.empty.bind (DottedName.member target.package target.className) := by
      rw [Scope.use_eq, requires_own plain]
      rfl
    simp only [Target.used, List.filter_nil, List.flatMap_nil, names_of_name read,
      Scope.useAll_cons, own]
    rfl
  · intro owner? keeps
    have short := spelled owner? keeps
    rw [spelled_of_name read (name_shortened name)] at short
    rw [short]
    exact ⟨rfl, rfl⟩

/-- A class that is put into a package changes in nothing else. -/
theorem startPackage_placed {after : ClassDraft} {name : String}
    (ran : startPackage name draft = .ok ⟨⟩ after) :
    (∃ package, after.package = some package) ∧ after.sink = draft.sink ∧
      after.methods = draft.methods := by
  obtain ⟨⟨⟩, current, opened, rest⟩ := bind_eq_ok ran
  obtain ⟨-, rfl⟩ := requireOpen_eq_ok opened
  obtain ⟨looked, same, got, rest⟩ := bind_eq_ok rest
  cases got
  cases owned : current.package with
  | none =>
    rw [owned] at rest
    cases rest
    exact ⟨⟨name, rfl⟩, rfl, rfl⟩
  | some other =>
    rw [owned] at rest
    simp only at rest
    split at rest
    · cases rest
    · cases rest
      exact ⟨⟨other, owned⟩, rfl, rfl⟩

/-- The start puts a class into a package, and adds no methods. -/
theorem startWrapping_placed {source : TypeRef} {after : ClassDraft}
    (ran : startWrapping source name draft = .ok ⟨⟩ after) :
    (∃ package, after.package = some package) ∧ after.sink = draft.sink ∧
      after.methods = draft.methods := by
  rw [startWrapping] at ran
  cases owned : source.package? with
  | none =>
    rw [owned] at ran
    cases ran
  | some package =>
    rw [owned] at ran
    obtain ⟨⟨⟩, placed, put, rest⟩ := bind_eq_ok ran
    obtain ⟨within, sink, methods⟩ := startPackage_placed put
    obtain ⟨current, same, got, rest⟩ := bind_eq_ok rest
    cases got
    obtain ⟨⟨⟩, titled, started, rest⟩ := bind_eq_ok rest
    obtain rfl := change_eq_ok started
    obtain ⟨⟨⟩, bound, taken, rest⟩ := bind_eq_ok rest
    cases taken
    obtain ⟨type, rendered, written, rest⟩ := bind_eq_ok rest
    obtain ⟨rfl, -⟩ := renderType_renders _ _ _ _ written
    obtain ⟨⟨⟩, fielded, added, rest⟩ := bind_eq_ok rest
    obtain rfl := change_eq_ok added
    obtain rfl := change_eq_ok rest
    exact ⟨within, sink, methods⟩

/-! ## Steps of the generator -/

/-- The class is the innermost one of the generator, in the given state. -/
def At (target : Target) (draft : ClassDraft) (world : World State) : Prop :=
  world.own = { target.before with
    current := ⟨target.path, target.place, draft⟩ :: target.before.current }

/-- The generator works on the class, which was handed some methods. -/
def Working (target : Target) (handed : List MethodDecl) (world : World State) : Prop :=
  ∃ draft, At target draft world ∧ Collected target handed draft

variable {world after : World State}

/-- Work on the innermost class changes nothing else of the generator. -/
theorem drafting_at {work : Drafting α} (here : At target draft world)
    (ran : drafting work world = .ok value after) :
    ∃ next, work draft = .ok value next ∧ At target next after := by
  rw [At] at here
  simp only [drafting, here] at ran
  split at ran
  · next worked =>
    cases ran
    exact ⟨_, worked, rfl⟩
  · cases ran

theorem report_working (working : Working target handed world)
    (ran : Hook.report level topic message world = .ok ⟨⟩ after) : Working target handed after := by
  cases ran
  exact working

/-- The method that passes a call on is added, if calls of it are passed on. -/
theorem addMethod_at (here : At target draft world)
    (ran : addMethod method world = .ok ⟨⟩ after) :
    (isDelegated method = true ∧ ∃ text written, definition method draft = .ok text written ∧
      At target { written with methods := draft.methods ++ [text] } after) ∨
    (isDelegated method = false ∧ At target draft after) := by
  rw [addMethod] at ran
  split at ran
  · next delegated =>
    obtain ⟨next, worked, there⟩ := drafting_at here ran
    obtain ⟨text, written, defined, added⟩ := bind_eq_ok worked
    obtain rfl := change_eq_ok added
    obtain ⟨rfl, -⟩ := definition_renders method draft text written defined
    exact .inl ⟨delegated, text, _, defined, there⟩
  · next ignored =>
    cases ran
    exact .inr ⟨by simpa using ignored, here⟩

/-- A method of a superclass is added in the same way, unless its definition is
there already. Its types are spelled in any case. -/
theorem addInherited_at (here : At target draft world)
    (ran : addInherited settings method world = .ok ⟨⟩ after) :
    (isDelegated method = true ∧ ∃ text written, definition method draft = .ok text written ∧
      At target { written with
        methods := if text ∈ draft.methods then draft.methods else draft.methods ++ [text] }
        after) ∨
    (isDelegated method = false ∧ At target draft after) := by
  rw [addInherited] at ran
  split at ran
  · next delegated =>
    obtain ⟨text, middle, drafted, rest⟩ := bind_eq_ok ran
    obtain ⟨written, defined, between⟩ := drafting_at here drafted
    obtain ⟨methods, same, looked, rest⟩ := bind_eq_ok rest
    obtain ⟨current, got, still⟩ := drafting_at between looked
    cases got
    refine .inl ⟨delegated, text, written, defined, ?_⟩
    obtain ⟨rfl, -⟩ := definition_renders method draft text written defined
    split at rest
    · next there =>
      cases rest
      rw [if_pos (by simpa using there)]
      exact still
    · next absent =>
      obtain ⟨final, worked, there⟩ := drafting_at still rest
      obtain rfl := change_eq_ok worked
      rw [if_neg (by simpa using absent)]
      exact there
  · next ignored =>
    cases ran
    exact .inr ⟨by simpa using ignored, here⟩

theorem addMethod_working (working : Working target handed world)
    (ran : addMethod method world = .ok ⟨⟩ after) : Working target (handed ++ [method]) after := by
  obtain ⟨draft, here, collected⟩ := working
  rcases addMethod_at here ran with ⟨delegated, text, written, defined, there⟩ | ⟨ignored, there⟩
  · exact ⟨_, there, collected_definition collected delegated defined
      (fun _ => List.mem_append_left _) (List.mem_append_right _ (List.mem_singleton.2 rfl))⟩
  · exact ⟨draft, there, collected_ignored collected ignored⟩

/-- A method of a superclass uses its names also where it is left out. -/
theorem addInherited_working (working : Working target handed world)
    (ran : addInherited settings method world = .ok ⟨⟩ after) :
    Working target (handed ++ [method]) after := by
  obtain ⟨draft, here, collected⟩ := working
  rcases addInherited_at here ran with ⟨delegated, text, written, defined, there⟩ | ⟨ignored, there⟩
  · refine ⟨_, there, collected_definition collected delegated defined (fun other member => ?_) ?_⟩
    · split
      · exact member
      · exact List.mem_append_left _ member
    · split
      · next among => exact among
      · exact List.mem_append_right _ (List.mem_singleton.2 rfl)
  · exact ⟨draft, there, collected_ignored collected ignored⟩

/-- Work on the innermost class changes nothing else, also if it fails. -/
theorem left_drafting (here : At target draft world) (work : Drafting α) :
    (left (drafting work world)).files = world.files ∧
      At target (left (work draft)) (left (drafting work world)) := by
  rw [At] at here
  simp only [drafting, here]
  cases work draft with
  | ok value next => exact ⟨rfl, rfl⟩
  | error failure next => exact ⟨rfl, rfl⟩

theorem drafting_of_ok {work : Drafting α} {value : α} {next : ClassDraft}
    (here : At target draft world) (worked : work draft = .ok value next) :
    ∃ after, drafting work world = .ok value after ∧ after.files = world.files ∧
      At target next after := by
  rw [At] at here
  simp only [drafting, here, worked]
  exact ⟨_, rfl, rfl, rfl⟩

/-! ## Templates -/

/-- A class that is given no texts stays as it is. -/
theorem at_no_texts (here : At target draft world) :
    At target { draft with methods := draft.methods ++ [] } world := by
  have same : { draft with methods := draft.methods ++ [] } = draft := by rw [List.append_nil]
  rwa [same]

/-- A section of a template is added as one method, unless nothing remains of it. -/
theorem addSection_at (here : At target draft world)
    (ran : addSection lines world = .ok ⟨⟩ after) :
    At target { draft with methods := draft.methods ++ Template.entries [lines] } after := by
  simp only [addSection] at ran
  split at ran
  · next nothing =>
    cases ran
    have none : Template.entries [lines] = [] := by simp [Template.entries, nothing]
    rw [none]
    exact at_no_texts here
  · next some =>
    obtain ⟨next, worked, there⟩ := drafting_at here ran
    obtain rfl := change_eq_ok worked
    have one : Template.entries [lines] = [Template.sectionText lines] := by
      simp [Template.entries, some]
    rw [one]
    exact there

private theorem addSections_at {sections : List (List String)} (here : At target draft world)
    (ran : sections.forM addSection world = .ok ⟨⟩ after) :
    At target { draft with methods := draft.methods ++ Template.entries sections } after := by
  have all := forM_collects (fun (done : List (List String)) world =>
      At target { draft with methods := draft.methods ++ Template.entries done } world)
    (fun lines => [lines]) []
    (fun lines _ done world after before one => by
      have more := addSection_at before one
      rw [Template.entries_append, ← List.append_assoc]
      exact more) (at_no_texts here) ran
  simpa using all

/-- What is read from a template is in its file. -/
theorem reading_eq_ok {work : TemplateReading α}
    (ran : reading settings name work world = .ok value after) :
    after = world ∧ ∃ bytes template,
      world.files.read (settings.resource name).text = .ok bytes ∧
      work ⟨settings.resource name, some (Template.content bytes)⟩ = .ok value template := by
  rw [reading] at ran
  split at ran
  · cases ran
  · next opened =>
    obtain ⟨bytes, read, rfl⟩ := Template.openFrom_eq_ok opened
    split at ran
    · next worked =>
      cases ran
      exact ⟨rfl, bytes, _, read, worked⟩
    · cases ran

/-- The texts of sections that are read from a template, and none if there is no
template. -/
structure FromTemplate (settings : Settings) (name : String) (files : FileTree)
    (pick : List (List String) → List (List String)) (texts : List String) : Prop where
  none : name = "" → texts = []
  some : name ≠ "" → ∃ bytes, files.read (settings.resource name).text = .ok bytes ∧
    texts = Template.entries (pick (Template.sections (Template.content bytes).1))

/-- Nothing keeps the template from being read to its end, if there is one. -/
def ReadToEnd (settings : Settings) (name : String) (files : FileTree) : Prop :=
  name ≠ "" → ∀ bytes, files.read (settings.resource name).text = .ok bytes →
    (Template.content bytes).2 = .nothing

/-- The text before the first marker of the template is added, if there is a template. -/
theorem addFirstSection_at (here : At target draft world)
    (ran : addFirstSection settings world = .ok ⟨⟩ after) :
    ∃ texts, At target { draft with methods := draft.methods ++ texts } after ∧
      FromTemplate settings target.before.templateName world.files (List.take 1) texts := by
  have name : world.own.templateName = target.before.templateName := by rw [here]
  obtain ⟨current, same, got, rest⟩ := bind_eq_ok ran
  cases got
  simp only [name] at rest
  split at rest
  · next bare =>
    cases rest
    exact ⟨[], at_no_texts here, fun _ => rfl, fun given => absurd bare given⟩
  · next given =>
    obtain ⟨⟨lines, found⟩, middle, reads, added⟩ := bind_eq_ok rest
    obtain ⟨rfl, bytes, template, read, worked⟩ := reading_eq_ok reads
    exact ⟨_, addSection_at here added, fun bare => absurd bare given,
      fun _ => ⟨bytes, read, Template.entries_first rfl worked⟩⟩

/-- The texts behind it are added in the same way, and the template is read to its end. -/
theorem addOtherSections_at (here : At target draft world)
    (ran : addOtherSections settings world = .ok ⟨⟩ after) :
    ∃ texts, At target { draft with methods := draft.methods ++ texts } after ∧
      FromTemplate settings target.before.templateName world.files (List.drop 1) texts ∧
      ReadToEnd settings target.before.templateName world.files := by
  have name : world.own.templateName = target.before.templateName := by rw [here]
  obtain ⟨current, same, got, rest⟩ := bind_eq_ok ran
  cases got
  simp only [name] at rest
  split at rest
  · next bare =>
    cases rest
    exact ⟨[], at_no_texts here, ⟨fun _ => rfl, fun given => absurd bare given⟩,
      fun given => absurd bare given⟩
  · next given =>
    obtain ⟨sections, middle, reads, added⟩ := bind_eq_ok rest
    obtain ⟨rfl, bytes, template, read, worked⟩ := reading_eq_ok reads
    obtain ⟨entries, complete⟩ := Template.entries_others rfl worked
    refine ⟨_, addSections_at here added, ⟨fun bare => absurd bare given,
      fun _ => ⟨bytes, read, entries⟩⟩, fun _ other again => ?_⟩
    cases read.symm.trans again
    exact complete

end DelegateClasses.Delegate
