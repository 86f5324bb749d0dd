import DelegateClasses.Proofs.Delegate.Filing
import DelegateClasses.Proofs.Processing.Beside

/-! The generation of one class in two runs. From its start on, a class meets its own
draft and the template, and nothing else of the run. If both runs read the same from the
template, both do the same to the class, and if it fails, a malformed type or the template
is the reason. Main statements: the steps of the generator agree, and so does the first
part of a class. -/
namespace DelegateClasses

namespace Template
open Steps

/-- The reading fails only because the template is not UTF-8. -/
def Decodes {α : Type} (work : TemplateReading α) : Prop :=
  ∀ template lines remainder failure after, template.rest = some (lines, remainder) →
    work template = .error failure after → failure = .undecodable ∧ remainder ≠ .nothing

private theorem readSection_decodes : Decodes readSection := by
  intro template lines remainder failure after opened failed
  rw [readSection, get_bind] at failed
  simp only [opened] at failed
  split at failed
  · cases failed
  · next incomplete =>
    cases failed
    refine ⟨rfl, fun complete => incomplete ?_⟩
    simp [complete]

/-- What is read behind a section fails for the same reason. -/
theorem decodes_behind {α : Type} {next : List String × Bool → TemplateReading α}
    (rest : ∀ value, Decodes (next value)) : Decodes (readSection >>= next) := by
  intro template lines remainder failure after opened failed
  cases first : readSection template with
  | error stopped middle =>
    cases (bind_of_error first).symm.trans failed
    exact readSection_decodes template lines remainder _ _ opened first
  | ok value middle =>
    rw [bind_of_ok first] at failed
    obtain ⟨others, -, still, -⟩ := readSection_eq_ok opened first
    exact rest value middle others remainder failure after still failed

private theorem return_decodes {α : Type} (value : α) : Decodes (return value) := by
  intro template lines remainder failure after opened failed
  cases failed

private theorem sectionsFrom_decodes (fuel : Nat) : Decodes (sectionsFrom fuel) := by
  induction fuel with
  | zero => exact return_decodes _
  | succ fuel ih =>
    rw [sectionsFrom]
    apply decodes_behind
    rintro ⟨taken, found⟩
    cases found with
    | false => exact return_decodes _
    | true =>
      intro template lines remainder failure after opened failed
      cases others : sectionsFrom fuel template with
      | error stopped middle =>
        cases (bind_of_error others).symm.trans failed
        exact ih template lines remainder _ _ opened others
      | ok more middle => cases (bind_of_ok others).symm.trans failed

private theorem readSections_decodes : Decodes readSections := by
  intro template lines remainder failure after opened failed
  exact sectionsFrom_decodes _ template lines remainder failure after opened failed

end Template

namespace Delegate
open ClassDraft Steps Processing

variable {α : Type} {first second : Target} {files others : FileTree} {settings : Settings}
variable {allowed : Failure → Prop} {world twin : World State} {declared : ClassDecl}

/-- The class is being generated in two worlds, in the same state. Nothing is written yet,
and no file was touched since its own was made. -/
def Paired (first second : Target) (files others : FileTree) (world twin : World State) : Prop :=
  world.files = files ∧ twin.files = others ∧ ∃ draft, Unwritten (some first.package) draft ∧
    At first draft world ∧ At second draft twin

/-- Two runs in which a class goes into the same package, and the template reads alike. -/
structure Fellows (settings : Settings) (first second : Target) (files others : FileTree) :
    Prop where
  template : second.before.templateName = first.before.templateName
  read : first.before.templateName ≠ "" →
    others.read (settings.resource first.before.templateName).text =
      files.read (settings.resource first.before.templateName).text

/-- What can stop a class after its file was made: a malformed type, or what is read from
the template, if there is one. -/
inductive Stops (settings : Settings) (target : Target) (files : FileTree) : Failure → Prop where
  | malformedType (fault : Malformed) : Stops settings target files (.malformedType fault)
  | unopened (given : target.before.templateName ≠ "") (error : FileError)
      (refused : files.read (settings.resource target.before.templateName).text = .error error) :
      Stops settings target files
        (.ofAccess (.templateUnavailable (settings.resource target.before.templateName)) error)
  | undecodable (given : target.before.templateName ≠ "") (bytes : ByteArray)
      (read : files.read (settings.resource target.before.templateName).text = .ok bytes)
      (wrong : ∀ text, Text.decode bytes ≠ .text text) : Stops settings target files .undecodable

/-- Work that is harmless does the same to the same class in both worlds. -/
theorem drafting_alike {work : Drafting α} {draft : ClassDraft}
    (here : At first draft world) (there : At second draft twin)
    (ended : Alike (Same (Unwritten (some first.package))) (Both AboutType) (work draft)
      (work draft)) :
    Alike (Paired first second world.files twin.files) (Both (Stops settings first files))
      (drafting work world) (drafting work twin) := by
  rw [At] at here there
  simp only [drafting, here, there]
  revert ended
  generalize work draft = result
  intro ended
  cases ended with
  | ok value still => exact .ok value ⟨rfl, rfl, _, still.2, rfl, rfl⟩
  | error reason still =>
    obtain ⟨-, fault, rfl⟩ := reason
    exact .error ⟨rfl, .malformedType fault⟩ ⟨rfl, rfl, _, still.2, rfl, rfl⟩

private theorem drafting_agrees {work : Drafting α}
    (harmless : Harmless (some first.package) work) :
    Agrees (Paired first second files others) (Both (Stops settings first files))
      (drafting work) (drafting work) := by
  rintro world twin ⟨rfl, rfl, draft, unwritten, here, there⟩
  exact drafting_alike here there (harmless draft draft ⟨rfl, unwritten⟩)

private theorem report_agrees (level : Level) (topic : Topic) (message : String) :
    Agrees (Paired first second files others) (Both allowed)
      (Hook.report level topic message) (Hook.report level topic message) :=
  fun _ _ paired => .ok _ paired

/-- What is read from the template is the same in both worlds. -/
theorem reading_agrees (fellows : Fellows settings first second files others)
    (given : first.before.templateName ≠ "") {work : TemplateReading α}
    (decodes : Template.Decodes work) :
    Agrees (Paired first second files others) (Both (Stops settings first files))
      (reading settings first.before.templateName work)
      (reading settings first.before.templateName work) := by
  rintro world twin ⟨rfl, rfl, state⟩
  have paired : Paired first second world.files twin.files world twin := ⟨rfl, rfl, state⟩
  simp only [reading, Template.openFrom, fellows.read given]
  cases read : world.files.read (settings.resource first.before.templateName).text with
  | error error => exact .error ⟨rfl, .unopened given error read⟩ paired
  | ok bytes =>
    simp only
    cases worked : work ⟨settings.resource first.before.templateName,
        some (Template.content bytes)⟩ with
    | ok value template => exact .ok value paired
    | error failure template =>
      obtain ⟨rfl, incomplete⟩ := decodes _ (Template.content bytes).1 (Template.content bytes).2
        _ _ rfl worked
      refine .error ⟨rfl, .undecodable given bytes read fun text decoded => incomplete ?_⟩ paired
      rw [Template.content, decoded]

private theorem addSection_agrees (lines : List String) :
    Agrees (Paired first second files others) (Both (Stops settings first files))
      (addSection lines) (addSection lines) :=
  agrees_ite (agrees_return _) (drafting_agrees (addMethod_harmless _))

private theorem templateName_paired (fellows : Fellows settings first second files others)
    (paired : Paired first second files others world twin) :
    world.own.templateName = first.before.templateName ∧
      twin.own.templateName = first.before.templateName := by
  obtain ⟨-, -, draft, -, here, there⟩ := paired
  rw [At] at here there
  rw [here, there]
  exact ⟨rfl, fellows.template⟩

private theorem addFirstSection_agrees (fellows : Fellows settings first second files others) :
    Agrees (Paired first second files others) (Both (Stops settings first files))
      (addFirstSection settings) (addFirstSection settings) := by
  apply agrees_get
  intro world twin paired
  obtain ⟨here, there⟩ := templateName_paired fellows paired
  simp only [here, there]
  by_cases bare : first.before.templateName = ""
  · simp only [if_pos bare]
    exact .ok _ paired
  · simp only [if_neg bare]
    exact alike_bind (reading_agrees fellows bare Template.readSection_decodes _ _ paired)
      fun _ => addSection_agrees _

private theorem addOtherSections_agrees (fellows : Fellows settings first second files others) :
    Agrees (Paired first second files others) (Both (Stops settings first files))
      (addOtherSections settings) (addOtherSections settings) := by
  apply agrees_get
  intro world twin paired
  obtain ⟨here, there⟩ := templateName_paired fellows paired
  simp only [here, there]
  by_cases bare : first.before.templateName = ""
  · simp only [if_pos bare]
    exact .ok _ paired
  · simp only [if_neg bare]
    have decodes := Template.decodes_behind fun _ => Template.readSections_decodes
    exact alike_bind (reading_agrees fellows bare decodes _ _ paired)
      fun _ => agrees_forM addSection_agrees _

private theorem addMethod_agrees (method : MethodDecl) :
    Agrees (Paired first second files others) (Both (Stops settings first files))
      (addMethod method) (addMethod method) := by
  refine agrees_ite (drafting_agrees ?_) (agrees_return _)
  exact agrees_bind (definition_harmless method) addMethod_harmless

private theorem addInherited_agrees (method : MethodDecl) :
    Agrees (Paired first second files others) (Both (Stops settings first files))
      (addInherited settings method) (addInherited settings method) := by
  refine agrees_ite ?_ (agrees_return _)
  refine agrees_bind (drafting_agrees (definition_harmless method)) fun text => ?_
  refine agrees_bind (drafting_agrees (agrees_same_get fun _ => agrees_return _)) fun _ => ?_
  exact agrees_ite (report_agrees _ _ _) (drafting_agrees (addMethod_harmless text))

theorem generator_agrees : generator.Agrees (Paired first second files others)
    (Both (Stops settings first files)) settings where
  report := report_agrees
  method := fun method _ => addMethod_agrees method
  inheritedMethod := fun method _ => addInherited_agrees method
  field := fun _ _ => agrees_return _

/-- The class was generated in two worlds, with the same result, and is not given up yet. -/
def Parted (first second : Target) (files others : FileTree) (world twin : World State) : Prop :=
  world.files = files ∧ twin.files = others ∧ ∃ draft writes, draft.sink = some ⟨writes, 0⟩ ∧
    At first draft world ∧ At second draft twin

theorem parted_of_paired (paired : Paired first second files others world twin) :
    Parted first second files others world twin := by
  obtain ⟨same, alike, draft, unwritten, here, there⟩ := paired
  exact ⟨same, alike, draft, [], unwritten.writable, here, there⟩

/-- The end of a class has the same result in both worlds. -/
theorem endClass_alike (fellows : Fellows settings first second files others)
    (paired : Paired first second files others world twin) :
    Alike (Parted first second files others) (Both (Stops settings first files))
      (endClass settings world) (endClass settings twin) := by
  refine alike_then (fun _ _ => parted_of_paired)
    (addOtherSections_agrees fellows _ _ paired) ?_
  rintro _ world twin ⟨rfl, rfl, draft, unwritten, here, there⟩
  obtain ⟨ended, finished, kept, still⟩ := drafting_of_ok here (finish_unwritten unwritten)
  obtain ⟨last, done, same, left⟩ := drafting_of_ok there (finish_unwritten unwritten)
  rw [finished, done]
  exact .ok _ ⟨kept, same, _, _, rfl, still, left⟩

/-- The first part of a class is the same in both worlds. -/
theorem startDraft_alike {draft : ClassDraft}
    (fellows : Fellows settings first second world.files twin.files)
    (owned : declared.package? = some first.package) (unwritten : Unwritten none draft)
    (here : At first draft world) (there : At second draft twin) :
    Alike (Paired first second world.files twin.files)
      (Both (Stops settings first world.files)) (startDraft settings declared world)
      (startDraft settings declared twin) :=
  alike_bind (drafting_alike here there (startWrapping_harmless _ owned unwritten))
    fun _ => addFirstSection_agrees fellows

end Delegate

end DelegateClasses
