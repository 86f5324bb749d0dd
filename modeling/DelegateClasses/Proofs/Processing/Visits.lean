import DelegateClasses.Processing.Round
import DelegateClasses.Proofs.Steps

/-! The visit of one class by any generator, taken apart. The generator is asked
to start the class, it is handed the members and the methods of superclasses, it
ends the class and gives it up, and the books are kept last. Main statements: what
the steps for the members keep is kept until the class is ended, and there are six
ways in which a visit ends. -/
namespace DelegateClasses
open Steps

variable {σ α : Type}

/-- What the steps for the members of a class keep of the world, with the reports
in between. -/
structure Generator.Keeps (generator : Generator σ) (holds : World σ → Prop) : Prop where
  report : ∀ level topic message, Preserves holds (Hook.report level topic message)
  method : ∀ settings method position, Preserves holds (generator.method settings method position)
  inheritedMethod : ∀ settings method position,
    Preserves holds (generator.inheritedMethod settings method position)
  field : ∀ settings field position, Preserves holds (generator.field settings field position)

namespace Processing

variable {generator : Generator σ} {holds : World σ → Prop} {ledger : Ledger}
variable {declared : ClassDecl} {directory : Path} {position : Position} {session : Session σ}

/-! ## Reports and books -/

theorem record_bind {next : Unit → Processing σ α} {change : Ledger → Ledger} :
    (record change >>= next) session = next () ⟨change session.ledger, session.world⟩ :=
  rfl

/-- The session after a note. -/
def noted (message : String) (session : Session σ) : Session σ :=
  let level := session.ledger.settings.noteLevel
  ⟨session.ledger,
    { session.world with log := session.world.log.add ⟨level, .progress, message⟩ }⟩

theorem note_bind {message : String} {next : Unit → Processing σ α} :
    (note message >>= next) session = next () (noted message session) :=
  rfl

@[simp] theorem noted_ledger (message : String) (session : Session σ) :
    (noted message session).ledger = session.ledger := rfl

@[simp] theorem noted_own (message : String) (session : Session σ) :
    (noted message session).world.own = session.world.own := rfl

@[simp] theorem noted_files (message : String) (session : Session σ) :
    (noted message session).world.files = session.world.files := rfl

/-- What a superclass adds to the waiting list: its declaration, unless it is
generated already. -/
def waiting (ledger : Ledger) (superclass : TypeRef) : List ClassDecl :=
  match ledger.index.lookup superclass with
  | none => []
  | some found => if ledger.generated.contains found.name then [] else [found]

/-- What a class that was completed adds to the waiting list. -/
def queued (ledger : Ledger) (policy : SuperclassPolicy) (declared : ClassDecl) :
    List ClassDecl :=
  match policy.separated declared.superclass with
  | none => []
  | some superclass => waiting ledger superclass

/-- The ledger after the completion of a class. -/
def completedLedger (ledger : Ledger) (policy : SuperclassPolicy) (declared : ClassDecl) : Ledger :=
  let entered := ledger.complete declared.name
  { entered with pending := entered.pending ++ queued entered policy declared }

@[simp] theorem index_complete (ledger : Ledger) (name : String) :
    (ledger.complete name).index = ledger.index := by
  rw [Ledger.complete]
  split <;> rfl

@[simp] theorem pending_complete (ledger : Ledger) (name : String) :
    (ledger.complete name).pending = ledger.pending := by
  rw [Ledger.complete]
  split <;> rfl

@[simp] theorem settings_complete (ledger : Ledger) (name : String) :
    (ledger.complete name).settings = ledger.settings := by
  rw [Ledger.complete]
  split <;> rfl

theorem generated_complete {name : String} (fresh : name ∉ ledger.generated) :
    (ledger.complete name).generated = ledger.generated ++ [name] := by
  rw [Ledger.complete, if_neg (by simpa using fresh)]

@[simp] theorem index_completedLedger (ledger : Ledger) (policy : SuperclassPolicy)
    (declared : ClassDecl) : (completedLedger ledger policy declared).index = ledger.index :=
  index_complete ledger declared.name

@[simp] theorem pending_completedLedger (ledger : Ledger) (policy : SuperclassPolicy)
    (declared : ClassDecl) : (completedLedger ledger policy declared).pending =
      ledger.pending ++ queued (ledger.complete declared.name) policy declared := by
  rw [completedLedger, pending_complete]

theorem generated_completedLedger (policy : SuperclassPolicy)
    (fresh : declared.name ∉ ledger.generated) :
    (completedLedger ledger policy declared).generated = ledger.generated ++ [declared.name] :=
  generated_complete fresh

/-- Where superclasses are folded at most, only the name is entered. -/
theorem completedLedger_folding {policy : SuperclassPolicy} (folding : policy.action = .fold)
    (ledger : Ledger) (declared : ClassDecl) :
    completedLedger ledger policy declared = ledger.complete declared.name := by
  have separates : policy.separates = fun _ => false := by
    funext superclass
    simp [SuperclassPolicy.separates, folding]
  have none : policy.separated declared.superclass = none := by
    rw [SuperclassPolicy.separated, separates]
    cases declared.superclass <;> rfl
  simp only [completedLedger, queued, none, List.append_nil]

private theorem enqueueSuperclass_waiting (superclass : TypeRef) (className : String)
    (session : Session σ) :
    ∃ log, enqueueSuperclass superclass className session =
      .ok ⟨⟩ ⟨{ session.ledger with
        pending := session.ledger.pending ++ waiting session.ledger superclass },
        { session.world with log }⟩ := by
  rw [enqueueSuperclass, get_bind, waiting]
  cases session.ledger.index.lookup superclass with
  | none =>
    simp only [List.append_nil]
    exact ⟨_, rfl⟩
  | some found =>
    cases known : session.ledger.generated.contains found.name with
    | true =>
      simp only [known, Bool.not_true, Bool.false_eq_true, ↓reduceIte, List.append_nil]
      exact ⟨_, rfl⟩
    | false =>
      simp only [known, Bool.not_false, Bool.false_eq_true, ↓reduceIte]
      exact ⟨_, rfl⟩

/-- Behind a class its name is entered, and its superclass may wait. -/
theorem completion_ends (declared : ClassDecl) (policy : SuperclassPolicy) (message : String)
    (session : Session σ) :
    ∃ log, (do
        record (·.complete declared.name)
        note message
        match policy.separated declared.superclass with
        | none => return ()
        | some superclass => enqueueSuperclass superclass declared.name) session =
      EStateM.Result.ok (⟨⟩ : Unit)
        ⟨completedLedger session.ledger policy declared, { session.world with log }⟩ := by
  rw [record_bind, note_bind, completedLedger, queued]
  cases policy.separated declared.superclass with
  | none =>
    simp only [List.append_nil]
    exact ⟨_, rfl⟩
  | some superclass =>
    obtain ⟨log, ran⟩ := enqueueSuperclass_waiting superclass declared.name
      (noted message ⟨session.ledger.complete declared.name, session.world⟩)
    exact ⟨log, ran⟩

/-! ## The members -/

/-- The ledger is the given one, and the world is as described. -/
def Holding (ledger : Ledger) (holds : World σ → Prop) (session : Session σ) : Prop :=
  session.ledger = ledger ∧ holds session.world

private theorem hook_holding {step : Settings → Hook σ α}
    (each : ∀ settings, Preserves holds (step settings)) :
    Preserves (Holding ledger holds) (hook step) := by
  rintro session ⟨same, held⟩
  have still := each session.ledger.settings session.world held
  simp only [hook]
  split
  · next ran =>
    rw [ran] at still
    exact ⟨same, still⟩
  · next ran =>
    rw [ran] at still
    exact ⟨same, still⟩

private theorem note_holding (keeps : generator.Keeps holds) (message : String) :
    Preserves (Holding ledger holds) (note message) :=
  hook_holding fun settings => keeps.report settings.noteLevel .progress message

/-- A class inside of another is passed over. -/
theorem visitClass_inside (inside : position.depth = 1) (declared : ClassDecl) :
    visitClass generator position declared =
      note ("Skipping nested class: " ++ declared.name ++ depthText 2) := by
  obtain ⟨name, kind, superclass, modifiers, members⟩ := declared
  rw [visitClass, generateClass, inside]
  rfl

private theorem visitAll_holding (keeps : generator.Keeps holds) (inside : position.depth = 1)
    (members : List Element) :
    Preserves (Holding ledger holds) (visitAll generator position members) := by
  induction members with
  | nil =>
    rw [visitAll]
    exact preserves_return _
  | cons member members ih =>
    rw [visitAll]
    refine preserves_bind ?_ fun _ => ih
    cases member with
    | nested declared =>
      rw [visit, visitClass_inside inside]
      exact note_holding keeps _
    | method declared =>
      rw [visit, if_pos inside]
      exact hook_holding fun settings => keeps.method settings declared position
    | field declared =>
      rw [visit, if_pos inside]
      exact hook_holding fun settings => keeps.field settings declared position
    | foreign label =>
      rw [visit]
      exact preserves_throw _

private theorem foldSuperclasses_holding (keeps : generator.Keeps holds) (position : Position)
    (chain : SuperclassChain) :
    Preserves (Holding ledger holds) (foldSuperclasses generator position chain) := by
  refine preserves_bind (preserves_forM (fun declared => ?_) _) fun _ => ?_
  · exact preserves_bind (note_holding keeps _) fun _ => preserves_forM (fun method =>
      hook_holding fun settings => keeps.inheritedMethod settings method position) _
  · split
    · exact preserves_return _
    · exact hook_holding fun _ => keeps.report _ _ _

/-- What a class is handed between its start and its end. -/
def handMembers (generator : Generator σ) (position : Position) (index : ClassIndex)
    (policy : SuperclassPolicy) (declared : ClassDecl) : Processing σ Unit := do
  visitAll generator position declared.members
  match policy.folded declared.superclass with
  | none => pure ()
  | some superclass =>
    foldSuperclasses generator position (superclassChain index policy [] superclass)

/-- What the steps for the members keep is kept until the class is ended. -/
theorem handMembers_holding (keeps : generator.Keeps holds) (inside : position.depth = 1)
    (index : ClassIndex) (policy : SuperclassPolicy) (declared : ClassDecl) :
    Preserves (Holding ledger holds) (handMembers generator position index policy declared) := by
  refine preserves_bind (visitAll_holding keeps inside _) fun _ => ?_
  split
  · exact preserves_return _
  · exact foldSuperclasses_holding keeps _ _

/-- The steps for the members leave the ledger alone. -/
theorem handMembers_ledger (inside : position.depth = 1) (index : ClassIndex)
    (policy : SuperclassPolicy) (declared : ClassDecl) (session : Session σ) :
    (left (handMembers generator position index policy declared session)).ledger =
      session.ledger := by
  have nothing : generator.Keeps fun _ => True :=
    ⟨fun _ _ _ _ _ => trivial, fun _ _ _ _ _ => trivial, fun _ _ _ _ _ => trivial,
      fun _ _ _ _ _ => trivial⟩
  exact (handMembers_holding nothing inside index policy declared session ⟨rfl, trivial⟩).1

/-! ## The visit -/

/-- The position inside of a class. -/
def Position.within (directory : Path) (declared : ClassDecl) : Position :=
  ⟨directory, declared.name, 1⟩

/-- The world in which the generator is asked to start a class. -/
def asked (declared : ClassDecl) (session : Session σ) : World σ :=
  (noted ("Start class: " ++ declared.name ++ depthText 1) session).world

@[simp] theorem asked_own (declared : ClassDecl) (session : Session σ) :
    (asked declared session).own = session.world.own := rfl

@[simp] theorem asked_files (declared : ClassDecl) (session : Session σ) :
    (asked declared session).files = session.world.files := rfl

/-- The generator is handed the members of a class that it has started. -/
abbrev handed (generator : Generator σ) (directory : Path) (declared : ClassDecl) (ledger : Ledger)
    (started : World σ) : EStateM.Result Failure (Session σ) Unit :=
  handMembers generator (Position.within directory declared) ledger.index
    (generator.policy started.own) declared ⟨ledger, started⟩

private theorem handed_ledger {ledger : Ledger} {started : World σ}
    {result : EStateM.Result Failure (Session σ) Unit}
    (members : handed generator directory declared ledger started = result) :
    (left result).ledger = ledger := by
  rw [← members]
  exact handMembers_ledger rfl _ _ declared _

/-- How the visit of a class ends. -/
inductive Visit (generator : Generator σ) (directory : Path) (declared : ClassDecl)
    (session : Session σ) : EStateM.Result Failure (Session σ) Unit → Prop where
  | known (listed : declared.name ∈ session.ledger.generated) (message : String) :
      Visit generator directory declared session (.ok ⟨⟩ (noted message session))
  | declined {world : World σ} (fresh : declared.name ∉ session.ledger.generated)
      (start : generator.startClass session.ledger.settings declared (.outside directory)
        (asked declared session) = .ok false world) (message : String) :
      Visit generator directory declared session
        (.ok ⟨⟩ (noted message ⟨session.ledger, world⟩))
  | refused {failure : Failure} {world : World σ} (fresh : declared.name ∉ session.ledger.generated)
      (start : generator.startClass session.ledger.settings declared (.outside directory)
        (asked declared session) = .error failure world) :
      Visit generator directory declared session (.error failure ⟨session.ledger, world⟩)
  | abandoned {failure : Failure} {started world : World σ}
      (fresh : declared.name ∉ session.ledger.generated)
      (start : generator.startClass session.ledger.settings declared (.outside directory)
        (asked declared session) = .ok true started)
      (members : handed generator directory declared session.ledger started =
        .error failure ⟨session.ledger, world⟩) :
      Visit generator directory declared session
        (.error failure ⟨session.ledger, generator.leaveClass declared world⟩)
  | unfinished {failure : Failure} {started world ended : World σ}
      (fresh : declared.name ∉ session.ledger.generated)
      (start : generator.startClass session.ledger.settings declared (.outside directory)
        (asked declared session) = .ok true started)
      (members : handed generator directory declared session.ledger started =
        .ok ⟨⟩ ⟨session.ledger, world⟩)
      (ending : generator.endClass session.ledger.settings declared
        (Position.within directory declared) world = .error failure ended) :
      Visit generator directory declared session
        (.error failure ⟨session.ledger, generator.leaveClass declared ended⟩)
  | completed {started world ended : World σ} (fresh : declared.name ∉ session.ledger.generated)
      (start : generator.startClass session.ledger.settings declared (.outside directory)
        (asked declared session) = .ok true started)
      (members : handed generator directory declared session.ledger started =
        .ok ⟨⟩ ⟨session.ledger, world⟩)
      (ending : generator.endClass session.ledger.settings declared
        (Position.within directory declared) world = .ok ⟨⟩ ended) (log : Log) :
      Visit generator directory declared session
        (.ok ⟨⟩ ⟨completedLedger session.ledger (generator.policy started.own) declared,
          { generator.leaveClass declared ended with log }⟩)

theorem hook_of_ok {step : Settings → Hook σ α} {value : α} {world : World σ}
    (ran : step session.ledger.settings session.world = .ok value world) :
    hook step session = .ok value ⟨session.ledger, world⟩ := by
  simp only [hook, ran]

theorem hook_of_error {step : Settings → Hook σ α} {failure : Failure} {world : World σ}
    (ran : step session.ledger.settings session.world = .error failure world) :
    hook step session = .error failure ⟨session.ledger, world⟩ := by
  simp only [hook, ran]

/-- Whether or not methods of superclasses are handed over, the class is ended last. -/
theorem members_then_end (generator : Generator σ) (position : Position) (index : ClassIndex)
    (policy : SuperclassPolicy) (declared : ClassDecl) :
    (do
      visitAll generator position declared.members
      match policy.folded declared.superclass with
      | none => hook fun settings => generator.endClass settings declared position
      | some superclass => do
        foldSuperclasses generator position (superclassChain index policy [] superclass)
        hook fun settings => generator.endClass settings declared position) =
    (handMembers generator position index policy declared >>= fun _ =>
      hook fun settings => generator.endClass settings declared position) := by
  rw [handMembers, bind_assoc]
  cases policy.folded declared.superclass <;> rfl

private theorem closing_of_ok {step : Processing σ α} {after : World σ → World σ} {value : α}
    {later : Session σ} (ran : step session = .ok value later) :
    closing step after session = .ok value ⟨later.ledger, after later.world⟩ := by
  simp only [closing, ran]

private theorem closing_of_error {step : Processing σ α} {after : World σ → World σ}
    {failure : Failure} {later : Session σ} (ran : step session = .error failure later) :
    closing step after session = .error failure ⟨later.ledger, after later.world⟩ := by
  simp only [closing, ran]

/-- Every visit of a class ends in one of these ways. -/
theorem visitClass_ends (generator : Generator σ) (directory : Path) (declared : ClassDecl)
    (session : Session σ) : Visit generator directory declared session
      (visitClass generator (.outside directory) declared session) := by
  suffices ∃ result, visitClass generator (.outside directory) declared session = result ∧
      Visit generator directory declared session result by
    obtain ⟨_, rfl, visit⟩ := this
    exact visit
  have visited : visitClass generator (.outside directory) declared =
      generateClass generator (.outside directory) declared fun inside =>
        visitAll generator inside declared.members := by
    cases declared
    rw [visitClass]
  rw [visited, generateClass]
  simp only [Position.outside, Int.zero_add, gt_iff_lt, Int.lt_irrefl, ↓reduceIte, get_bind]
  cases known : session.ledger.generated.contains declared.name with
  | true =>
    simp only [↓reduceIte]
    exact ⟨_, rfl, .known (by simpa using known) _⟩
  | false =>
    have fresh : declared.name ∉ session.ledger.generated := by simpa using known
    simp only [Bool.false_eq_true, ↓reduceIte, note_bind]
    cases start : generator.startClass session.ledger.settings declared (.outside directory)
        (asked declared session) with
    | error failure world =>
      exact ⟨_, bind_of_error (hook_of_error start), .refused fresh start⟩
    | ok generated started =>
      rw [bind_of_ok (hook_of_ok start)]
      cases generated with
      | false =>
        simp only [Bool.false_eq_true, ↓reduceIte]
        exact ⟨_, rfl, .declined fresh start _⟩
      | true =>
        simp only [↓reduceIte, get_bind]
        have working := congrFun (members_then_end generator (Position.within directory declared)
          session.ledger.index (generator.policy started.own) declared) ⟨session.ledger, started⟩
        cases members : handed generator directory declared session.ledger started with
        | error failure later =>
          obtain ⟨ledger, world⟩ := later
          obtain rfl : ledger = session.ledger := handed_ledger members
          exact ⟨_, bind_of_error (closing_of_error (working.trans (bind_of_error members))),
            .abandoned fresh start members⟩
        | ok value later =>
          obtain ⟨ledger, world⟩ := later
          obtain rfl : ledger = session.ledger := handed_ledger members
          cases ending : generator.endClass session.ledger.settings declared
              (Position.within directory declared) world with
          | error failure ended =>
            exact ⟨_, bind_of_error (closing_of_error (working.trans
              ((bind_of_ok members).trans (hook_of_error ending)))),
              .unfinished fresh start members ending⟩
          | ok value ended =>
            obtain ⟨log, ran⟩ := completion_ends declared (generator.policy started.own)
              ("End class: " ++ declared.name ++ depthText 0)
              ⟨session.ledger, generator.leaveClass declared ended⟩
            exact ⟨_, (bind_of_ok (closing_of_ok (working.trans
              ((bind_of_ok members).trans (hook_of_ok ending))))).trans ran,
              .completed fresh start members ending log⟩

end Processing

end DelegateClasses
