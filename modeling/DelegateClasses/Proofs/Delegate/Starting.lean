import DelegateClasses.Proofs.Delegate.Collecting
import DelegateClasses.Proofs.Draft.Files
import DelegateClasses.Proofs.Steps

/-! The start of a class, taken apart. Its file is made, empty, and then its first part is
added; where this fails, the class is given up. Main statement: a class is started in one of
five ways, each told by the steps that were taken. -/
namespace DelegateClasses.Delegate
open Imports Steps

variable {settings : Settings} {declared : ClassDecl} {package : String} {path : Path}
variable {className : String} {failure : Failure} {world later : World State}

/-! ## The file -/

/-- The file of a class was made, empty, and no other was touched. -/
structure Opened (target : Target) (before files : FileTree) : Prop where
  touches : before.Touches [target.place] files
  leads : files.resolve target.path.text = .ok (target.place, .file .empty)

/-- A class that was begun is the innermost one, nothing is in it yet, and its file
is empty. -/
theorem begin_at (ran : begin path className world = .ok ⟨⟩ later) :
    ∃ place name, (className ≠ "" → name = className) ∧ ∀ package source,
      let target : Target := ⟨world.own, path, place, package, className, source⟩
      Opened target world.files later.files ∧
        At target (.new name (some .fresh) defaultAvailable) later := by
  rw [begin] at ran
  split at ran
  · cases ran
  · next placed files made =>
    cases ran
    obtain ⟨rfl, ⟨name, kept, fresh⟩, touches, leads⟩ := PlacedDraft.create_eq_ok made
    refine ⟨placed.place, name, kept, fun package source => ⟨⟨touches, leads⟩, ?_⟩⟩
    rw [At, ← fresh]

/-- A class that cannot be begun leaves the generator as it was, and touches no file. -/
theorem begin_eq_error (failed : begin path className world = .error failure later) :
    later.own = world.own ∧ world.files.Touches [] later.files := by
  rw [begin] at failed
  split at failed
  · next refused =>
    cases failed
    exact ⟨rfl, PlacedDraft.create_eq_error refused⟩
  · cases failed

theorem begin_of_created {placed : PlacedDraft} {files : FileTree}
    (created : PlacedDraft.create world.files path className = (.ok placed, files)) :
    begin path className world = .ok ⟨⟩
      { world with files, own := { world.own with current := placed :: world.own.current } } := by
  rw [begin, created]

/-- The files are those that the creation of the file leaves, whether it succeeds or not. -/
theorem files_begin (path : Path) (className : String) (world : World State) :
    (left (begin path className world)).files =
      (PlacedDraft.create world.files path className).2 := by
  rw [begin]
  split <;> next created => simp only [left, created]

/-! ## The first part -/

/-- The first part of a class, which is given up if this fails. -/
def startOrLeave (settings : Settings) (declared : ClassDecl) : Hook State Unit := fun world =>
  match startDraft settings declared world with
  | .ok _ world => .ok () world
  | .error failure world => .error failure (leave world)

/-- What follows when the file of a class was opened. -/
def carryOn (settings : Settings) (declared : ClassDecl) (path : Path) : Hook State Bool := do
  startOrLeave settings declared
  Hook.report .debug .delegate ("Generating '" ++ path.text ++ "' for '" ++ declared.name ++ "'.")
  return true

theorem carryOn_of_ok (path : Path) (drafted : startDraft settings declared world = .ok ⟨⟩ later) :
    ∃ log, carryOn settings declared path world = .ok true { later with log } := by
  have passed : startOrLeave settings declared world = .ok ⟨⟩ later := by
    simp only [startOrLeave, drafted]
  rw [carryOn, bind_of_ok passed]
  exact ⟨_, rfl⟩

theorem carryOn_of_error (path : Path)
    (failed : startDraft settings declared world = .error failure later) :
    carryOn settings declared path world = .error failure (leave later) := by
  have dropped : startOrLeave settings declared world = .error failure (leave later) := by
    simp only [startOrLeave, failed]
  rw [carryOn, bind_of_error dropped]

/-! ## The start -/

/-- A class in a package is begun under its name, and carried on with. -/
theorem startClass_ordinary (position : Position) (ordinary : declared.kind ≠ .enum)
    (owned : declared.package? = some package) :
    startClass settings declared position world =
      (begin (outputPath position.outputDirectory package (world.own.generatedName declared))
        (world.own.generatedName declared) >>= fun _ => carryOn settings declared
          (outputPath position.outputDirectory package (world.own.generatedName declared)))
        world := by
  simp only [startClass, if_neg ordinary, owned, get_bind]
  rfl

/-- The ways in which the start of a class goes. -/
inductive Starting (settings : Settings) (declared : ClassDecl) (directory : Path)
    (world : World State) : EStateM.Result Failure (World State) Bool → Prop where
  /-- Nothing is generated for an enum. -/
  | enum {after : World State} (kind : declared.kind = .enum)
      (noted : Hook.note settings ("Not wrapping enum: " ++ declared.name) world = .ok ⟨⟩ after) :
      Starting settings declared directory world (.ok false after)
  /-- The name is not that of a class in a package. -/
  | homeless (bare : declared.package? = none) :
      Starting settings declared directory world
        (.error (.noPackage declared.type.qualifiedName) world)
  /-- The file cannot be made. -/
  | unopened {package : String} {failure : Failure} {after : World State}
      (owned : declared.package? = some package)
      (refused : begin (outputPath directory package (world.own.generatedName declared))
        (world.own.generatedName declared) world = .error failure after) :
      Starting settings declared directory world (.error failure after)
  /-- The first part fails, and the class is given up. -/
  | undrafted {package : String} {failure : Failure} {opened last : World State}
      (owned : declared.package? = some package)
      (begun : begin (outputPath directory package (world.own.generatedName declared))
        (world.own.generatedName declared) world = .ok ⟨⟩ opened)
      (failed : startDraft settings declared opened = .error failure last) :
      Starting settings declared directory world (.error failure (leave last))
  /-- The class has its first part. -/
  | drafted {package : String} {opened started : World State} {log : Log}
      (owned : declared.package? = some package)
      (begun : begin (outputPath directory package (world.own.generatedName declared))
        (world.own.generatedName declared) world = .ok ⟨⟩ opened)
      (worked : startDraft settings declared opened = .ok ⟨⟩ started) :
      Starting settings declared directory world (.ok true { started with log })

/-- Every class is started in one of these ways. -/
theorem startClass_starting (settings : Settings) (declared : ClassDecl) (position : Position)
    (world : World State) : Starting settings declared position.outputDirectory world
      (startClass settings declared position world) := by
  by_cases kind : declared.kind = .enum
  · rw [startClass, if_pos kind]
    exact .enum kind rfl
  cases owned : declared.package? with
  | none =>
    simp only [startClass, if_neg kind, owned]
    exact .homeless owned
  | some package =>
    rw [startClass_ordinary position kind owned]
    cases begun : begin (outputPath position.outputDirectory package
        (world.own.generatedName declared)) (world.own.generatedName declared) world with
    | error failure after =>
      rw [bind_of_error begun]
      exact .unopened owned begun
    | ok value opened =>
      rw [bind_of_ok begun]
      cases drafting : startDraft settings declared opened with
      | error failure last =>
        rw [carryOn_of_error _ drafting]
        exact .undrafted owned begun drafting
      | ok value started =>
        obtain ⟨log, passed⟩ := carryOn_of_ok _ drafting
        rw [passed]
        exact .drafted owned begun drafting

/-- A class outside of all others is started in the output directory itself. -/
theorem startClass_outside (settings : Settings) (declared : ClassDecl) (directory : Path)
    (world : World State) : Starting settings declared directory world
      (startClass settings declared (.outside directory) world) :=
  startClass_starting settings declared (.outside directory) world

/-- A class that is generated was begun in its package, and then given its start. -/
theorem startClass_begun {position : Position}
    (ran : startClass settings declared position world = .ok true later) :
    ∃ package opened started, declared.package? = some package ∧
      begin (outputPath position.outputDirectory package (world.own.generatedName declared))
        (world.own.generatedName declared) world = .ok ⟨⟩ opened ∧
      startDraft settings declared opened = .ok ⟨⟩ started ∧ later.own = started.own ∧
      later.files = started.files := by
  have start := startClass_starting settings declared position world
  rw [ran] at start
  cases start with
  | drafted owned begun worked => exact ⟨_, _, _, owned, begun, worked, rfl, rfl⟩

end DelegateClasses.Delegate
