import DelegateClasses.Draft.Signature
import DelegateClasses.Draft.Placed
import DelegateClasses.Proofs.Storage.Growth

/-! The file of a generated class. It is made empty when the class is begun, and
holds what the class has written once the class is closed. In between the class
writes nothing. Main statements: what making and closing a class do to a tree,
and that work on a class that is not finished writes nothing and fails only because
of a malformed type. -/
namespace DelegateClasses
open Steps

namespace PlacedDraft

variable {tree files : FileTree} {path : Path} {placed : PlacedDraft} {className : String}
variable {failure : Failure}

/-- What a class has written. -/
def written (placed : PlacedDraft) : ByteArray :=
  match placed.draft.sink with
  | none => .empty
  | some sink => (String.join sink.writes).toUTF8

/-- A class that is begun is empty, and so is its file. -/
theorem create_eq_ok (made : create tree path className = (.ok placed, files)) :
    placed.path = path ∧
    (∃ name, (className ≠ "" → name = className) ∧
      placed.draft = .new name (some .fresh) Imports.defaultAvailable) ∧
    tree.Touches [placed.place] files ∧
    files.resolve path.text = .ok (placed.place, .file .empty) := by
  rw [create] at made
  have directories := tree.ensureDirectories_touches path.parent
  split at made
  · cases made
  · next above ensured =>
    rw [ensured] at directories
    split at made
    · cases made
    · next opened =>
      cases made
      obtain ⟨touches, leads⟩ := FileTree.create_touches opened
      exact ⟨rfl, ⟨_, fun named => if_neg named, rfl⟩,
        FileTree.touches_trans directories touches, leads⟩

/-- A class whose file cannot be made leaves at most new directories. -/
theorem create_eq_error (failed : create tree path className = (.error failure, files)) :
    tree.Touches [] files := by
  rw [create] at failed
  have directories := tree.ensureDirectories_touches path.parent
  split at failed
  · next above ensured =>
    cases failed
    rwa [ensured] at directories
  · next above ensured =>
    rw [ensured] at directories
    split at failed
    · cases failed
      exact directories
    · cases failed

/-- Whatever is made for a class stands where its path leads, or one above it. -/
theorem create_changes {other : List String}
    (changed : (create tree path className).2.node? other ≠ tree.node? other) :
    (∃ parts, parts <+: path.parent.parts ∧ (create tree path className).2.resolve
      (Path.text ⟨path.root, parts⟩) = .ok (other, .directory)) ∨
    (create tree path className).2.resolve path.text = .ok (other, .file .empty) := by
  have directories (made : (tree.ensureDirectories path.parent).2.node? other ≠ tree.node? other) :
      ∃ parts, parts <+: path.parent.parts ∧ (tree.ensureDirectories path.parent).2.resolve
        (Path.text ⟨path.root, parts⟩) = .ok (other, .directory) := by
    obtain ⟨above, within, leads⟩ := FileTree.ensureUpwards_changes made
    rw [← List.reverse_prefix, List.reverse_reverse] at within
    exact ⟨above.reverse, within, leads⟩
  rw [create] at changed ⊢
  split
  · next ensured =>
    rw [ensured] at changed directories
    exact .inl (directories changed)
  · next middle ensured =>
    rw [ensured] at changed directories
    simp only at changed directories ⊢
    split
    · next refused =>
      rw [refused] at changed
      exact .inl (directories changed)
    · next place after opened =>
      rw [opened] at changed
      obtain ⟨touches, leads⟩ := FileTree.create_touches opened
      by_cases earlier : middle.node? other = tree.node? other
      · rw [← earlier] at changed
        obtain rfl := FileTree.create_changes opened changed
        exact .inr leads
      · obtain ⟨parts, within, reached⟩ := directories earlier
        exact .inl ⟨parts, within, FileTree.resolve_directory touches reached⟩

/-- What a class has written is in its file once the class is closed. -/
theorem release_touches (placed : PlacedDraft)
    (leads : tree.resolve placed.path.text = .ok (placed.place, .file .empty)) :
    tree.Touches [placed.place] (placed.release tree).2 ∧
      (placed.release tree).2.resolve placed.path.text =
        .ok (placed.place, .file placed.written) := by
  have still : tree.Touches [placed.place] tree :=
    FileTree.touches_mono (FileTree.touches_refl tree) (List.nil_subset _)
  rw [release, written]
  cases placed.draft.sink with
  | none => exact ⟨still, leads⟩
  | some sink =>
    simp only
    split
    · next nothing =>
      rw [List.isEmpty_iff.1 nothing]
      exact ⟨still, leads⟩
    · obtain ⟨touches, filled⟩ := FileTree.overwrite_touches (FileTree.file?_of_resolve leads)
        (String.join sink.writes).toUTF8
      obtain ⟨now, again, content, -⟩ := FileTree.read_touches touches leads
      obtain rfl := Option.some.inj (filled.symm.trans content)
      exact ⟨touches, again⟩

end PlacedDraft

namespace ClassDraft

/-- The class is not finished, and its sink is open and empty. -/
structure Unwritten (package : Option String) (draft : ClassDraft) : Prop where
  unfinished : draft.ended = false
  writable : draft.sink = some .fresh
  packaged : draft.package = package

variable {α β : Type} {package : Option String} {draft : ClassDraft}

theorem requireOpen_of_open (unfinished : draft.ended = false) :
    requireOpen draft = .ok ⟨⟩ draft := by
  rw [requireOpen, get_bind]
  simp only [unfinished]
  rfl

/-- The failure is about the written form of a type. -/
def AboutType (failure : Failure) : Prop :=
  ∃ fault, failure = .malformedType fault

/-- The work can be done on a class that is not finished: it writes nothing, and only a
malformed type keeps it from succeeding. -/
def Harmless (package : Option String) (work : Drafting α) : Prop :=
  Agrees (Same (Unwritten package)) (Both AboutType) work work

theorem Harmless.unwritten {work : Drafting α} (harmless : Harmless package work) :
    Preserves (Unwritten package) work :=
  preserves_of_agrees harmless

private theorem requireOpen_harmless : Harmless package requireOpen := by
  apply agrees_same
  intro draft unwritten
  rw [requireOpen_of_open unwritten.unfinished]
  exact .ok _ ⟨rfl, unwritten⟩

/-- Changes of parts of a class write nothing. -/
theorem change_harmless {change : ClassDraft → ClassDraft}
    (keeps : ∀ draft, Unwritten package draft → Unwritten package (change draft)) :
    Harmless package (requireOpen >>= fun _ => modify change : Drafting PUnit) :=
  agrees_bind requireOpen_harmless fun _ =>
    agrees_same fun draft unwritten => .ok _ ⟨rfl, keeps draft unwritten⟩

theorem addMethod_harmless (definition : String) : Harmless package (addMethod definition) :=
  change_harmless fun _ unwritten => ⟨unwritten.1, unwritten.2, unwritten.3⟩

private theorem renderTree_harmless (tree : TypeTree) : Harmless package (renderTree tree) :=
  agrees_bind requireOpen_harmless fun _ => agrees_same fun _ unwritten =>
    .ok _ ⟨rfl, unwritten.1, unwritten.2, unwritten.3⟩

private theorem renderType_harmless (type : TypeRef) : Harmless package (renderType type) := by
  apply agrees_bind requireOpen_harmless
  intro _
  cases type.parse with
  | error fault => exact agrees_throw ⟨rfl, fault, rfl⟩
  | ok tree => exact renderTree_harmless tree

theorem signature_harmless (name : String) (parameters : List ParameterDecl) (returns : TypeRef)
    (throws : List TypeRef) (modifiers : String) :
    Harmless package (signature name parameters returns throws modifiers) := by
  refine agrees_bind (renderType_harmless returns) fun _ => ?_
  refine agrees_bind (agrees_mapM (fun parameter => ?_) parameters) fun _ => ?_
  · exact agrees_bind (renderType_harmless _) fun _ => agrees_return _
  · exact agrees_bind (agrees_mapM renderType_harmless throws) fun _ => agrees_return _

/-- A class in no package can be put into any. -/
theorem startPackage_of_unwritten (unwritten : Unwritten none draft) (place : String) :
    startPackage place draft = .ok ⟨⟩ { draft with package := some place } := by
  rw [startPackage, bind_of_ok (requireOpen_of_open unwritten.unfinished), get_bind]
  simp only [unwritten.packaged]
  rfl

/-- The start of a class puts it into its package, and writes nothing. -/
theorem startWrapping_harmless {source : TypeRef} {place : String} (name : String)
    (owned : source.package? = some place) (unwritten : Unwritten none draft) :
    Alike (Same (Unwritten (some place))) (Both AboutType) (startWrapping source name draft)
      (startWrapping source name draft) := by
  rw [startWrapping, owned]
  simp only
  rw [bind_of_ok (startPackage_of_unwritten unwritten place)]
  have rest : Harmless (some place) (do
      let className := (← get).className
      startClass (Fragment.classLine className "public")
      bind (DottedName.member place className)
      let type ← renderType ⟨source.qualifiedName⟩
      addField (wrappedField type name)
      addConstructor (wrappingConstructor className type name)) := by
    refine agrees_same_get fun current => ?_
    refine agrees_bind (change_harmless fun _ held => ⟨held.1, held.2, held.3⟩) fun _ => ?_
    refine agrees_bind (agrees_same fun _ held => .ok _ ⟨rfl, held.1, held.2, held.3⟩) fun _ => ?_
    refine agrees_bind (renderType_harmless _) fun _ => ?_
    refine agrees_bind (change_harmless fun _ held => ⟨held.1, held.2, held.3⟩) fun _ => ?_
    exact change_harmless fun _ held => ⟨held.1, held.2, held.3⟩
  exact rest _ _ ⟨rfl, unwritten.unfinished, unwritten.writable, rfl⟩

/-! ## Work that succeeds -/

/-- The work succeeds on a class that is not finished, and does not finish it. -/
def Succeeds (work : Drafting α) : Prop :=
  ∀ draft, draft.ended = false → ∃ result after, work draft = .ok result after ∧
    after.ended = false

theorem succeeds_return (result : α) : Succeeds (return result) :=
  fun draft unfinished => ⟨result, draft, rfl, unfinished⟩

theorem succeeds_bind {work : Drafting α} {next : α → Drafting β} (first : Succeeds work)
    (rest : ∀ value, Succeeds (next value)) : Succeeds (work >>= next) := by
  intro draft unfinished
  obtain ⟨value, middle, ran, still⟩ := first draft unfinished
  rw [bind_of_ok ran]
  exact rest value middle still

theorem succeeds_mapM {act : α → Drafting β} {values : List α}
    (each : ∀ value ∈ values, Succeeds (act value)) : Succeeds (values.mapM act) := by
  induction values with
  | nil => exact succeeds_return []
  | cons value values ih =>
    rw [List.mapM_cons]
    refine succeeds_bind (each value List.mem_cons_self) fun _ => ?_
    exact succeeds_bind (ih fun other member => each other (List.mem_cons_of_mem _ member))
      fun _ => succeeds_return _

private theorem renderType_succeeds {type : TypeRef} (readable : ∃ tree, type.parse = .ok tree) :
    Succeeds (renderType type) := by
  intro draft unfinished
  obtain ⟨tree, read⟩ := readable
  rw [renderType, bind_of_ok (requireOpen_of_open unfinished), read]
  exact ⟨_, _, bind_of_ok (requireOpen_of_open unfinished), unfinished⟩

/-- A signature is written if all its types can be read. -/
theorem signature_succeeds {parameters : List ParameterDecl} {returns : TypeRef}
    {throws : List TypeRef} (name modifiers : String)
    (readable : ∀ type ∈ returns :: (parameters.map (·.type) ++ throws),
      ∃ tree, type.parse = .ok tree) :
    Succeeds (signature name parameters returns throws modifiers) := by
  rw [List.forall_mem_cons, List.forall_mem_append, List.forall_mem_map] at readable
  obtain ⟨returned, declared, thrown⟩ := readable
  refine succeeds_bind (renderType_succeeds returned) fun _ => ?_
  refine succeeds_bind (succeeds_mapM fun parameter member => ?_) fun _ => ?_
  · exact succeeds_bind (renderType_succeeds (declared parameter member)) fun _ =>
      succeeds_return _
  · exact succeeds_bind (succeeds_mapM fun type member => renderType_succeeds (thrown type member))
      fun _ => succeeds_return _

/-! ## The text of a finished class -/

/-- The text of a class depends neither on its sink nor on whether it is finished. -/
theorem source_outside (draft : ClassDraft) (ended : Bool) (sink : Option Sink) :
    { draft with ended, sink }.source = draft.source := by
  unfold source
  rfl

/-- A class that is finished has written its complete text, once. -/
theorem finish_unwritten {place : String} (unwritten : Unwritten (some place) draft) :
    finish draft = .ok ⟨⟩ { draft with ended := true, sink := some ⟨[draft.source], 0⟩ } := by
  rw [finish, bind_of_ok (requireOpen_of_open unwritten.unfinished)]
  simp only [modify_run, unwritten.packaged, unwritten.writable, Sink.fresh, List.nil_append]

end ClassDraft

end DelegateClasses
