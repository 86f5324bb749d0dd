import DelegateClasses.Proofs.Delegate.ClassRun
import DelegateClasses.Proofs.Draft.Files

/-! The file of a delegating class. It is made empty when the class is begun.
Whatever the class is handed afterwards, and wherever the work on it fails, the
file stays empty until the class is given up, and then it is closed. Only a class
that is finished has something to write, its complete text. Main statement: the
visit of a class opens no file, or it leaves its complete text, or it fails and
leaves an empty file. -/
namespace DelegateClasses.Delegate
open ClassDraft Steps Processing

variable {α : Type} {target : Target} {files : FileTree} {draft : ClassDraft}
variable {settings : Settings} {declared : ClassDecl} {directory : Path}
variable {world ended : World State}

/-! ## Work on a class that is begun -/

/-- The class is being generated. Nothing is written yet, and no file was touched
since its own was made. -/
def Underway (target : Target) (files : FileTree) (world : World State) : Prop :=
  world.files = files ∧ ∃ draft, Unwritten (some target.package) draft ∧ At target draft world

private theorem drafting_underway {work : Drafting α}
    (harmless : Harmless (some target.package) work) :
    Preserves (Underway target files) (drafting work) := by
  rintro world ⟨same, draft, unwritten, here⟩
  obtain ⟨still, there⟩ := left_drafting here work
  exact ⟨still.trans same, _, harmless.unwritten draft unwritten, there⟩

theorem report_underway (level : Level) (topic : Topic) (message : String) :
    Preserves (Underway target files) (Hook.report level topic message) :=
  fun _ underway => underway

private theorem left_reading {work : TemplateReading α} (settings : Settings) (name : String)
    (world : World State) : left (reading settings name work world) = world := by
  rw [reading]
  split
  · rfl
  · split <;> rfl

private theorem reading_underway {work : TemplateReading α} (settings : Settings) (name : String) :
    Preserves (Underway target files) (reading settings name work) := by
  intro world underway
  rwa [left_reading]

private theorem addSection_underway (lines : List String) :
    Preserves (Underway target files) (addSection lines) :=
  preserves_ite (preserves_return _) (drafting_underway (addMethod_harmless _))

private theorem addFirstSection_underway (settings : Settings) :
    Preserves (Underway target files) (addFirstSection settings) := by
  refine preserves_get fun world => preserves_ite (preserves_return _) ?_
  exact preserves_bind (reading_underway _ _) fun _ => addSection_underway _

private theorem addOtherSections_underway (settings : Settings) :
    Preserves (Underway target files) (addOtherSections settings) := by
  refine preserves_get fun world => preserves_ite (preserves_return _) ?_
  exact preserves_bind (reading_underway _ _) fun _ => preserves_forM addSection_underway _

theorem definition_harmless {package : Option String} (method : MethodDecl) :
    Harmless package (definition method) :=
  agrees_bind (signature_harmless _ _ _ _ _) fun _ => agrees_return _

theorem addMethod_underway (method : MethodDecl) :
    Preserves (Underway target files) (addMethod method) := by
  refine preserves_ite (drafting_underway ?_) (preserves_return _)
  exact agrees_bind (definition_harmless method) addMethod_harmless

theorem addInherited_underway (settings : Settings) (method : MethodDecl) :
    Preserves (Underway target files) (addInherited settings method) := by
  refine preserves_ite ?_ (preserves_return _)
  refine preserves_bind (drafting_underway (definition_harmless method)) fun text => ?_
  refine preserves_bind (drafting_underway (agrees_same_get fun _ => agrees_return _)) fun _ => ?_
  exact preserves_ite (report_underway _ _ _) (drafting_underway (addMethod_harmless text))

/-- The steps for the members of a class write nothing. -/
theorem generator_underway : generator.Keeps (Underway target files) where
  report := report_underway
  method := fun _ method _ => addMethod_underway method
  inheritedMethod := fun settings method _ => addInherited_underway settings method
  field := fun _ _ _ => preserves_return _

/-! ## The start of a class -/

/-- The class that is generated for a source class, in a package and a file. -/
def targetOf (own : State) (directory : Path) (declared : ClassDecl) (package : String)
    (place : List String) : Target :=
  ⟨own, outputPath directory package (own.generatedName declared), place, package,
    own.generatedName declared, declared.type.qualifiedName⟩

@[simp] theorem path_targetOf (own : State) (directory : Path) (declared : ClassDecl)
    (package : String) (place : List String) :
    (targetOf own directory declared package place).path =
      outputPath directory package (own.generatedName declared) := by
  rw [targetOf]

/-- How the start of a class ends, for the state of the generator and the files before. -/
inductive Started (directory : Path) (declared : ClassDecl) (own : State) (before : FileTree) :
    EStateM.Result Failure (World State) Bool → Prop where
  /-- Nothing is generated for the class. -/
  | declined {after : World State} (same : after.own = own) (files : after.files = before) :
      Started directory declared own before (.ok false after)
  /-- The class has no package, or its file cannot be made. -/
  | refused {failure : Failure} {after : World State} (same : after.own = own)
      (touches : before.Touches [] after.files) :
      Started directory declared own before (.error failure after)
  /-- The class is begun. -/
  | begun {package : String} {place : List String} {files : FileTree} {after : World State}
      (owned : declared.package? = some package)
      (opened : Opened (targetOf own directory declared package place) before files)
      (underway : Underway (targetOf own directory declared package place) files after) :
      Started directory declared own before (.ok true after)
  /-- The class is begun, fails at its start, and is given up. -/
  | dropped {failure : Failure} {package : String} {place : List String} {files : FileTree}
      {last : World State} (owned : declared.package? = some package)
      (opened : Opened (targetOf own directory declared package place) before files)
      (underway : Underway (targetOf own directory declared package place) files last) :
      Started directory declared own before (.error failure (leave last))

theorem startDraft_underway (settings : Settings) (owned : declared.package? = some target.package)
    (here : At target draft world) (unwritten : Unwritten none draft) :
    Underway target world.files (left (startDraft settings declared world)) := by
  refine left_bind ?_ fun _ => addFirstSection_underway settings
  obtain ⟨still, there⟩ := left_drafting here
    (ClassDraft.startWrapping declared.type Fragment.wrappedName)
  exact ⟨still, _, left_of_alike (startWrapping_harmless _ owned unwritten), there⟩

/-- A class that is begun has its file, and nothing is in it yet. -/
theorem targetOf_begun {package : String} (begun : begin (outputPath directory package
      (world.own.generatedName declared)) (world.own.generatedName declared) world =
      .ok ⟨⟩ ended) :
    ∃ place draft, Opened (targetOf world.own directory declared package place) world.files
        ended.files ∧ At (targetOf world.own directory declared package place) draft ended ∧
      Unwritten none draft := by
  obtain ⟨place, name, -, made⟩ := begin_at begun
  obtain ⟨empty, here⟩ := made package declared.type.qualifiedName
  exact ⟨place, _, empty, here, rfl, rfl, rfl⟩

/-- Every start of a class ends in one of these ways. -/
theorem startClass_ends (settings : Settings) (declared : ClassDecl) (directory : Path)
    (world : World State) : Started directory declared world.own world.files
      (startClass settings declared (.outside directory) world) := by
  have start := startClass_outside settings declared directory world
  generalize startClass settings declared (.outside directory) world = result at start ⊢
  cases start with
  | enum kind noted =>
    cases noted
    exact .declined rfl rfl
  | homeless bare => exact .refused rfl (FileTree.touches_refl _)
  | unopened owned refused =>
    obtain ⟨own, touches⟩ := begin_eq_error refused
    exact .refused own touches
  | undrafted owned begun failed =>
    obtain ⟨place, draft, empty, here, unwritten⟩ := targetOf_begun begun
    have underway := startDraft_underway settings owned here unwritten
    rw [failed] at underway
    exact .dropped owned empty underway
  | drafted owned begun worked =>
    obtain ⟨place, draft, empty, here, unwritten⟩ := targetOf_begun begun
    have underway := startDraft_underway settings owned here unwritten
    rw [worked] at underway
    exact .begun owned empty underway

/-- A class that was started has its file, and is underway. -/
theorem underway_of_started {after : World State}
    (start : generator.startClass settings declared (.outside directory) world = .ok true after) :
    ∃ package place files, declared.package? = some package ∧
      Opened (targetOf world.own directory declared package place) world.files files ∧
      Underway (targetOf world.own directory declared package place) files after := by
  have begins : Started directory declared world.own world.files
      (generator.startClass settings declared (.outside directory) world) :=
    startClass_ends settings declared directory world
  rw [start] at begins
  cases begins with
  | begun owned opened underway => exact ⟨_, _, _, owned, opened, underway⟩

/-! ## The end of a class -/

/-- A class was given up last, no other file was touched since it was begun, and
its file has the given content. -/
structure Filed (target : Target) (before : FileTree) (content : ByteArray)
    (closed : PlacedDraft) (after : World State) : Prop where
  path : closed.path = target.path
  place : closed.place = target.place
  own : after.own = { target.before with released := target.before.released ++ [closed] }
  touches : before.Touches [target.place] after.files
  holds : after.files.resolve target.path.text = .ok (target.place, .file content)

theorem Filed.read {before : FileTree} {content : ByteArray} {closed : PlacedDraft}
    (filed : Filed target before content closed world) :
    world.files.read closed.path.text = .ok content := by
  rw [FileTree.read, filed.path, filed.holds]

theorem Filed.touched {before : FileTree} {content : ByteArray} {closed : PlacedDraft}
    (filed : Filed target before content closed world) :
    before.Touches [closed.place] world.files := by
  rw [filed.place]
  exact filed.touches

/-- The file of a class is found by the package and the generated name. -/
theorem Filed.named {before : FileTree} {content : ByteArray} {closed : PlacedDraft} {own : State}
    {package : String} {place : List String}
    (filed : Filed (targetOf own directory declared package place) before content closed world) :
    closed.path = outputPath directory package (own.generatedName declared) := by
  rw [filed.path, path_targetOf]

/-- A class that is given up leaves in its file what it has written. -/
theorem leave_filed {writes : List String} {before : FileTree}
    (opened : Opened target before world.files) (here : At target draft world)
    (sink : draft.sink = some ⟨writes, 0⟩) :
    Filed target before (String.join writes).toUTF8
      ⟨target.path, target.place, { draft with sink := some ⟨writes, 1⟩ }⟩ (leave world) := by
  let placed : PlacedDraft := ⟨target.path, target.place, draft⟩
  have closed : (placed.release world.files).1 =
      ⟨target.path, target.place, { draft with sink := some ⟨writes, 1⟩ }⟩ := by
    simp only [placed, PlacedDraft.release, ClassDraft.close, sink]
    split <;> rfl
  have written : placed.written = (String.join writes).toUTF8 := by
    simp only [placed, PlacedDraft.written, sink]
  obtain ⟨touches, holds⟩ := PlacedDraft.release_touches placed opened.leads
  rw [At] at here
  have left : leave world = { world with
      files := (placed.release world.files).2
      own := { target.before with
        released := target.before.released ++ [(placed.release world.files).1] } } := by
    simp only [leave, here]
    rfl
  rw [left, closed]
  rw [written] at holds
  exact ⟨rfl, rfl, rfl, FileTree.touches_mono (FileTree.touches_trans opened.touches touches)
    (by simp [placed]), holds⟩

/-- A class that is finished leaves its complete text. -/
theorem leave_written {before : FileTree} (opened : Opened target before world.files)
    (here : At target draft world) (sink : draft.sink = some ⟨[draft.source], 0⟩) :
    ∃ closed, Filed target before closed.draft.source.toUTF8 closed (leave world) ∧
      closed.draft.sink = some ⟨[closed.draft.source], 1⟩ := by
  have text := source_outside draft draft.ended (some ⟨[draft.source], 1⟩)
  have joined : String.join [draft.source] = draft.source := String.empty_append
  have filed := leave_filed opened here sink
  rw [joined] at filed
  refine ⟨⟨target.path, target.place, { draft with sink := some ⟨[draft.source], 1⟩ }⟩, ?_, ?_⟩
  · rwa [text]
  · rw [text]

/-- Where the end of a class fails, nothing is written yet. -/
theorem underway_of_unended {failure : Failure} (underway : Underway target files world)
    (failed : endClass settings world = .error failure ended) : Underway target files ended := by
  have still := addOtherSections_underway settings world underway
  rw [endClass] at failed
  cases added : addOtherSections settings world with
  | error reason after =>
    rw [added] at still
    rw [bind_of_error added] at failed
    cases failed
    exact still
  | ok value middle =>
    rw [added] at still
    obtain ⟨same, draft, unwritten, here⟩ := still
    obtain ⟨after, finished, -⟩ := drafting_of_ok here (finish_unwritten unwritten)
    rw [bind_of_ok added] at failed
    cases finished.symm.trans failed

/-- A class that is ended has written its complete text. -/
theorem endClass_eq_ok (underway : Underway target files world)
    (ran : endClass settings world = .ok ⟨⟩ ended) :
    ended.files = files ∧ ∃ draft, At target draft ended ∧
      draft.sink = some ⟨[draft.source], 0⟩ := by
  obtain ⟨⟨⟩, middle, added, rest⟩ := bind_eq_ok ran
  have still := addOtherSections_underway settings world underway
  rw [added] at still
  obtain ⟨same, draft, unwritten, here⟩ := still
  obtain ⟨after, finished, kept, there⟩ := drafting_of_ok here (finish_unwritten unwritten)
  cases finished.symm.trans rest
  exact ⟨kept.trans same, _, there, by simp only [source_outside]⟩

/-- No other file is touched from the start of a class to its end. -/
theorem ended_touches {before : FileTree} (opened : Opened target before files)
    (underway : Underway target files world) (ran : endClass settings world = .ok ⟨⟩ ended) :
    files.Touches [target.place] (leave ended).files := by
  obtain ⟨rfl, draft, here, sink⟩ := endClass_eq_ok underway ran
  have since : Opened target ended.files ended.files :=
    ⟨FileTree.touches_mono (FileTree.touches_refl _) (List.nil_subset _), opened.leads⟩
  obtain ⟨closed, filed, -⟩ := leave_written since here sink
  exact filed.touches

/-! ## The whole class -/

/-- How the visit of a class ends, as its file tells. -/
inductive Outcome (directory : Path) (declared : ClassDecl) (session : Session State) :
    EStateM.Result Failure (Session State) Unit → Prop where
  /-- No file is opened, and none is touched. -/
  | passed {after : Session State} (ledger : after.ledger = session.ledger)
      (own : after.world.own = session.world.own)
      (files : after.world.files = session.world.files) :
      Outcome directory declared session (.ok ⟨⟩ after)
  /-- No file is opened, and none is touched, but directories may have been made. -/
  | refused {failure : Failure} {after : Session State} (ledger : after.ledger = session.ledger)
      (own : after.world.own = session.world.own)
      (touches : session.world.files.Touches [] after.world.files) :
      Outcome directory declared session (.error failure after)
  /-- The complete text is written at once, the file is closed once, and holds the text. -/
  | written {package : String} {place : List String} {closed : PlacedDraft} {after : Session State}
      (owned : declared.package? = some package)
      (filed : Filed (targetOf session.world.own directory declared package place)
        session.world.files closed.draft.source.toUTF8 closed after.world)
      (sink : closed.draft.sink = some ⟨[closed.draft.source], 1⟩)
      (fresh : declared.name ∉ session.ledger.generated)
      (generated : after.ledger.generated = session.ledger.generated ++ [declared.name]) :
      Outcome directory declared session (.ok ⟨⟩ after)
  /-- Nothing is written, the file is closed once, and is empty. -/
  | abandoned {failure : Failure} {package : String} {place : List String} {closed : PlacedDraft}
      {after : Session State} (ledger : after.ledger = session.ledger)
      (owned : declared.package? = some package)
      (filed : Filed (targetOf session.world.own directory declared package place)
        session.world.files .empty closed after.world)
      (sink : closed.draft.sink = some ⟨[], 1⟩) :
      Outcome directory declared session (.error failure after)

/-- Nothing is written until the class is ended. -/
theorem handed_underway {ledger : Ledger} {result : EStateM.Result Failure (Session State) Unit}
    (underway : Underway target files world)
    (members : handed generator directory declared ledger world = result) :
    Underway target files (left result).world := by
  rw [← members]
  exact (handMembers_holding generator_underway rfl _ _ _ ⟨ledger, world⟩ ⟨rfl, underway⟩).2

/-- A class that fails while it is underway is abandoned. -/
theorem abandoned_of_underway {session : Session State} {failure : Failure} {package : String}
    {place : List String} (owned : declared.package? = some package)
    (opened : Opened (targetOf session.world.own directory declared package place)
      session.world.files files)
    (underway : Underway (targetOf session.world.own directory declared package place) files
      world) :
    Outcome directory declared session (.error failure ⟨session.ledger, leave world⟩) := by
  obtain ⟨rfl, draft, unwritten, here⟩ := underway
  exact .abandoned rfl owned (leave_filed opened here unwritten.writable) rfl

/-- Every visit of a class ends in one of these ways. -/
theorem visitClass_outcome (declared : ClassDecl) (directory : Path) (session : Session State) :
    Outcome directory declared session
      (visitClass generator (.outside directory) declared session) := by
  have visit := visitClass_ends generator directory declared session
  have begins : Started directory declared (asked declared session).own
      (asked declared session).files (generator.startClass session.ledger.settings declared
        (.outside directory) (asked declared session)) :=
    startClass_ends session.ledger.settings declared directory (asked declared session)
  rw [asked_own, asked_files] at begins
  generalize visitClass generator (.outside directory) declared session = result at visit ⊢
  cases visit with
  | known listed message => exact .passed rfl rfl rfl
  | declined fresh start message =>
    rw [start] at begins
    cases begins with
    | declined same files => exact .passed rfl same files
  | refused fresh start =>
    rw [start] at begins
    cases begins with
    | refused same touches => exact .refused rfl same touches
    | dropped owned opened underway => exact abandoned_of_underway owned opened underway
  | abandoned fresh start members =>
    obtain ⟨package, place, files, owned, opened, underway⟩ := underway_of_started start
    exact abandoned_of_underway owned opened (handed_underway underway members)
  | unfinished fresh start members ending =>
    obtain ⟨package, place, files, owned, opened, underway⟩ := underway_of_started start
    have still := handed_underway underway members
    exact abandoned_of_underway owned opened (underway_of_unended still ending)
  | completed fresh start members ending log =>
    obtain ⟨package, place, files, owned, opened, underway⟩ := underway_of_started start
    obtain ⟨rfl, draft, here, sink⟩ :=
      endClass_eq_ok (handed_underway underway members) ending
    obtain ⟨closed, filed, written⟩ := leave_written opened here sink
    exact .written owned ⟨filed.path, filed.place, filed.own, filed.touches, filed.holds⟩
      written fresh (generated_completedLedger _ fresh)

/-- **All or nothing.** The visit of a class opens no file; or it succeeds, and the
file received the complete text in one go; or it fails, and the file received
nothing. A file that was opened was closed once, wherever the failure arose, and no
other file was touched. -/
theorem visit_writes_all_or_nothing (declared : ClassDecl) (directory : Path)
    (session : Session State) :
    let visited := visitClass generator (.outside directory) declared session
    let before := session.world
    let after := (left visited).world
    (after.own = before.own ∧ before.files.Touches [] after.files) ∨
    ∃ closed package,
      declared.package? = some package ∧
      closed.path = outputPath directory package (before.own.generatedName declared) ∧
      after.own = { before.own with released := before.own.released ++ [closed] } ∧
      before.files.Touches [closed.place] after.files ∧
      ((∃ session, visited = .ok ⟨⟩ session ∧
          closed.draft.sink = some ⟨[closed.draft.source], 1⟩ ∧
          after.files.read closed.path.text = .ok closed.draft.source.toUTF8) ∨
        ∃ failure session, visited = .error failure session ∧
          closed.draft.sink = some ⟨[], 1⟩ ∧ after.files.read closed.path.text = .ok .empty) := by
  have outcome := visitClass_outcome declared directory session
  generalize visitClass generator (.outside directory) declared session = visited at outcome ⊢
  cases outcome with
  | passed ledger own files =>
    refine .inl ⟨own, ?_⟩
    rw [left, files]
    exact FileTree.touches_refl _
  | refused ledger own touches => exact .inl ⟨own, touches⟩
  | @written package place closed after owned filed sink fresh generated =>
    exact .inr ⟨closed, package, owned, filed.named, filed.own, filed.touched,
      .inl ⟨after, rfl, sink, filed.read⟩⟩
  | @abandoned failure package place closed after ledger owned filed sink =>
    exact .inr ⟨closed, package, owned, filed.named, filed.own, filed.touched,
      .inr ⟨failure, after, rfl, sink, filed.read⟩⟩

end DelegateClasses.Delegate
