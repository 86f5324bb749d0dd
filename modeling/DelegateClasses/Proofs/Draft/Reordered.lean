import DelegateClasses.Proofs.Draft.Frame

/-! Operations on a class in another order. Main statement: the text of a class only depends on
what was added to it, in which constructors and methods have an order, and fields and imports
have none. -/
namespace DelegateClasses.ClassDraft
open Imports Steps Text

variable {draft first second : ClassDraft} {operation : Operation}
variable {operations block other : List Operation} {names others : List String}

/-- The parts of two classes, if only their fields differ, in order and in number. -/
structure Parts.Same (first second : Parts) : Prop where
  package : first.package = second.package
  classLine : first.classLine = second.classLine
  fields : ∀ declaration, declaration ∈ first.fields ↔ declaration ∈ second.fields
  constructors : first.constructors = second.constructors
  methods : first.methods = second.methods

private theorem same_followedBy {parts twin : Parts} (same : parts.Same twin) (later : Parts) :
    (parts.followedBy later).Same (twin.followedBy later) where
  package := congrArg (·.or later.package) same.package
  classLine := congrArg later.classLine.or same.classLine
  fields declaration := by
    simp only [Parts.followedBy, List.mem_append, same.fields]
  constructors := congrArg (· ++ later.constructors) same.constructors
  methods := congrArg (· ++ later.methods) same.methods

/-- The text of a class is decided by its parts and by which names it imports. -/
theorem source_eq (named : first.className = second.className)
    (same : first.parts.Same second.parts)
    (imported : ∀ name, name ∈ first.imports.imported ↔ name ∈ second.imports.imported)
    (distinct : (first.imports.names.map DottedName.simple).Nodup)
    (distinctToo : (second.imports.names.map DottedName.simple).Nodup) :
    first.source = second.source := by
  have packaged : first.package = second.package := same.package
  have classLine : first.classLine = second.classLine := same.classLine
  have constructors : first.constructors = second.constructors := same.constructors
  have methods : first.methods = second.methods := same.methods
  have fields : ascendingOnce first.fields = ascendingOnce second.fields :=
    eq_of_ascending (ascendingOnce_strict _) (ascendingOnce_strict _) fun declaration => by
      rw [mem_ascendingOnce, mem_ascendingOnce]
      exact same.fields declaration
  have lines : first.imports.lines = second.imports.lines :=
    Registry.lines_eq imported distinct distinctToo
  have openings : first.opening = second.opening := by
    rw [opening, opening, classLine, named]
  have starts : first.importLines = second.importLines := by
    rw [importLines, importLines, lines]
  have bodies : first.bodyLines = second.bodyLines := by
    rw [bodyLines, bodyLines, blocks, blocks, fields, constructors, methods]
  rw [source, source, packaged, openings, starts, bodies]

/-- What is done to classes of the same frame keeps their parts alike. -/
theorem performAll_same (frame : SameFrame first second) (same : first.parts.Same second.parts)
    (operations : List Operation) :
    (performAll operations first).parts.Same (performAll operations second).parts := by
  rw [performAll_parts, performAll_parts, added_frame frame]
  exact same_followedBy same _

/-! ## Members -/

/-- The field that the operation adds. -/
def Operation.field? : Operation → Option String
  | .addField declaration => some declaration
  | _ => none

/-- The constructor that the operation adds. -/
def Operation.constructor? : Operation → Option String
  | .addConstructor definition => some definition
  | _ => none

/-- The method that the operation adds. -/
def Operation.method? : Operation → Option String
  | .addMethod definition => some definition
  | _ => none

/-- The operation adds no other member than the one that it is given, and members can still be
added after it. -/
def Operation.Plain (operation : Operation) : Prop :=
  operation ≠ .finish ∧ ∀ type name, operation ≠ .startWrapping type name

private theorem still_open (unfinished : draft.ended = false) (more : operation ≠ .finish) :
    (operation.after draft).ended = false := by
  by_cases used : operation = .close
  · rw [used, after_close]
    exact unfinished
  · exact (after_fills unfinished more used).ended.trans unfinished

/-- Nothing is added to a finished class. -/
theorem added_of_ended (ended : draft.ended = true) (operations : List Operation) :
    added draft operations = {} := by
  induction operations generalizing draft with
  | nil => rfl
  | cons operation operations ih =>
    obtain ⟨sink, same⟩ := after_of_finished ended operation
    have still : (operation.after draft).ended = true := by
      rw [same]
      exact ended
    rw [added, if_pos ended, ih still, Parts.followedBy_nothing]

/-- Plain operations on an open class add the members that they are given. -/
theorem added_of_plain (unfinished : draft.ended = false)
    (plain : ∀ operation ∈ operations, operation.Plain) :
    (added draft operations).fields = operations.filterMap Operation.field? ∧
      (added draft operations).constructors = operations.filterMap Operation.constructor? ∧
      (added draft operations).methods = operations.filterMap Operation.method? := by
  induction operations generalizing draft with
  | nil => exact ⟨rfl, rfl, rfl⟩
  | cons operation operations ih =>
    obtain ⟨⟨more, given⟩, plain⟩ := List.forall_mem_cons.1 plain
    obtain ⟨fields, constructors, methods⟩ := ih (still_open unfinished more) plain
    have own : (operation.adds draft).fields = operation.field?.toList ∧
        (operation.adds draft).constructors = operation.constructor?.toList ∧
        (operation.adds draft).methods = operation.method?.toList := by
      cases operation with
      | startWrapping type name => exact absurd rfl (given type name)
      | _ => exact ⟨rfl, rfl, rfl⟩
    obtain ⟨field, constructor, method⟩ := own
    have first (part? : Operation → Option String) :
        (operation :: operations).filterMap part? =
          (part? operation).toList ++ operations.filterMap part? := by
      cases found : part? operation with
      | none => rw [List.filterMap_cons_none found]; rfl
      | some part => rw [List.filterMap_cons_some found]; rfl
    rw [added, unfinished, if_neg (by decide), first, first, first, ← field, ← constructor,
      ← method, ← fields, ← constructors, ← methods]
    exact ⟨rfl, rfl, rfl⟩

/-! ## Imports -/

/-- Names that are to be imported, one after the other, if they need it. -/
theorem performAll_registerImport (unfinished : draft.ended = false) (names : List String) :
    performAll (names.map .registerImport) draft = { draft with
      imports := Registry.registerAll (names.filter draft.scope.requires) draft.imports } := by
  induction names generalizing draft with
  | nil => rfl
  | cons name names ih =>
    have one : (Operation.registerImport name).after draft = { draft with
        imports := Registry.registerAll ([name].filter draft.scope.requires) draft.imports } := by
      rw [Operation.after, Operation.perform, left_discard, registerImport,
        bind_of_ok (requireOpen_of_open unfinished), get_bind]
      split
      · next needed =>
        rw [List.filter_cons_of_pos needed]
        rfl
      · next needless =>
        rw [List.filter_cons_of_neg needless]
        rfl
    have apart : (name :: names).filter draft.scope.requires =
        [name].filter draft.scope.requires ++ names.filter draft.scope.requires :=
      List.filter_append [name] names
    change performAll (names.map .registerImport) ((Operation.registerImport name).after draft) = _
    rw [one, apart, Registry.registerAll_append]
    exact ih unfinished

/-- Names may be imported in any order, if they want different simple names, all of them free. -/
theorem registerImport_frame_of_perm (distinct : (draft.imports.names.map DottedName.simple).Nodup)
    (perm : names.Perm others) (apart : (names.map DottedName.simple).Nodup)
    (free : ∀ name ∈ names, draft.imports.owner? (DottedName.simple name) = none) :
    SameFrame (performAll (names.map .registerImport) draft)
      (performAll (others.map .registerImport) draft) := by
  cases ended : draft.ended with
  | true =>
    have refused (names : List String) : performAll (names.map .registerImport) draft = draft := by
      induction names with
      | nil => rfl
      | cons name names ih =>
        change performAll _ ((Operation.registerImport name).after draft) = draft
        rw [after_of_ended ended (by simp), ih]
    rw [refused, refused]
    exact sameFrame_refl distinct
  | false =>
    have fewer := List.filter_sublist (p := draft.scope.requires) (l := names)
    have claims := Registry.sameClaims_registerAll distinct (perm.filter draft.scope.requires)
      (apart.sublist (fewer.map _)) fun name member => free name (fewer.subset member)
    rw [performAll_registerImport ended, performAll_registerImport ended]
    exact { sameFrame_refl distinct with imports := claims }

/-! ## Operations in another order -/

/-- Both are the same operations, except that somewhere in them several names are imported in
another order, which want different simple names, all of them free. -/
inductive ImportsReordered (draft : ClassDraft) : List Operation → List Operation → Prop where
  | intro {names others : List String} (front rear : List Operation) (perm : names.Perm others)
      (apart : (names.map DottedName.simple).Nodup)
      (free : ∀ name ∈ names,
        (performAll front draft).imports.owner? (DottedName.simple name) = none) :
      ImportsReordered draft (front ++ names.map .registerImport ++ rear)
        (front ++ others.map .registerImport ++ rear)

/-- Both are the same operations on a class in another order. Members may stand anywhere
between the other operations. Constructors and methods keep their order, fields may be added in
any order and repeatedly, and imports may be exchanged with each other. -/
structure Reordered (draft : ClassDraft) (block other : List Operation) : Prop where
  plain : ∀ operation ∈ block ++ other, operation.Plain
  fields : ∀ declaration, declaration ∈ block.filterMap Operation.field? ↔
    declaration ∈ other.filterMap Operation.field?
  constructors : block.filterMap Operation.constructor? = other.filterMap Operation.constructor?
  methods : block.filterMap Operation.method? = other.filterMap Operation.method?
  rest : ImportsReordered draft (withoutMembers block) (withoutMembers other)

private theorem importsReordered_frame
    (distinct : (draft.imports.names.map DottedName.simple).Nodup)
    (reordered : ImportsReordered draft block other) :
    SameFrame (performAll block draft) (performAll other draft) := by
  cases reordered with
  | intro front rear perm apart free =>
    have before := (performAll_frame (sameFrame_refl distinct) front).imports.distinct
    simp only [performAll_append]
    exact performAll_frame (registerImport_frame_of_perm before perm apart free) rear

private theorem reordered_frame (distinct : (draft.imports.names.map DottedName.simple).Nodup)
    (reordered : Reordered draft block other) :
    SameFrame (performAll block draft) (performAll other draft) := by
  have same := sameFrame_refl distinct
  exact sameFrame_trans (performAll_withoutMembers same block)
    (sameFrame_trans (importsReordered_frame distinct reordered.rest)
      (sameFrame_symm (performAll_withoutMembers same other)))

/-- The members that were added are the same ones. -/
theorem reordered_parts (distinct : (draft.imports.names.map DottedName.simple).Nodup)
    (reordered : Reordered draft block other) :
    (performAll block draft).parts.Same (performAll other draft).parts := by
  have frame := reordered_frame distinct reordered
  have members : (∀ declaration, declaration ∈ (added draft block).fields ↔
      declaration ∈ (added draft other).fields) ∧
      (added draft block).constructors = (added draft other).constructors ∧
      (added draft block).methods = (added draft other).methods := by
    cases ended : draft.ended with
    | true =>
      rw [added_of_ended ended, added_of_ended ended]
      exact ⟨fun _ => Iff.rfl, rfl, rfl⟩
    | false =>
      obtain ⟨plain, plainToo⟩ := List.forall_mem_append.1 reordered.plain
      obtain ⟨fields, constructors, methods⟩ := added_of_plain ended plain
      obtain ⟨fieldsToo, constructorsToo, methodsToo⟩ := added_of_plain ended plainToo
      rw [fields, fieldsToo, constructors, constructorsToo, methods, methodsToo]
      exact ⟨reordered.fields, reordered.constructors, reordered.methods⟩
  obtain ⟨fields, constructors, methods⟩ := members
  refine ⟨frame.packaged, frame.opened, fun declaration => ?_, ?_, ?_⟩
  · rw [performAll_parts, performAll_parts]
    simp only [Parts.followedBy, List.mem_append, fields]
  · rw [performAll_parts, performAll_parts]
    exact congrArg (draft.constructors ++ ·) constructors
  · rw [performAll_parts, performAll_parts]
    exact congrArg (draft.methods ++ ·) methods

/-! ## The text -/

private theorem distinct_performAll (className : String) (sink : Option Sink)
    (available : List String) (operations : List Operation) :
    ((performAll operations (new className sink available)).imports.names.map
      DottedName.simple).Nodup := by
  have start : SameFrame (new className sink available) (new className sink available) :=
    sameFrame_refl List.nodup_nil
  exact (performAll_frame start operations).imports.distinct

/-- The text of a class with these parts and imports. It is empty without a package. The imports
and the fields stand in ascending order, each once, and the constructors before the methods. -/
def LaidOut (className : String) (parts : Parts) (imported : List String) (text : String) : Prop :=
  match parts.package with
  | none => text = ""
  | some package => ∃ imports fields, imports.Pairwise (· < ·) ∧ fields.Pairwise (· < ·) ∧
    (∀ name, name ∈ imports ↔ name ∈ imported) ∧
    (∀ declaration, declaration ∈ fields ↔ declaration ∈ parts.fields) ∧
    text.toList = terminated (layout package (parts.opening className) imports fields
      (parts.constructors ++ parts.methods))

private theorem source_laidOut (distinct : (draft.imports.names.map DottedName.simple).Nodup) :
    LaidOut draft.className draft.parts draft.imports.imported draft.source := by
  rw [LaidOut]
  cases packaged : draft.package with
  | none =>
    rw [parts, packaged, source, packaged]
  | some package =>
    rw [show draft.parts.package = some package from packaged]
    exact ⟨draft.imports.toList, ascendingOnce draft.fields, toList_ascending distinct,
      ascendingOnce_strict draft.fields, fun name => mem_toList,
      fun declaration => mem_ascendingOnce, source_layout packaged⟩

/-- **The text of a class depends on what was added to it, not on when.** Whatever is done to a
new class, its text is the same if the package, the line that opens the class, the constructors
and the methods are the same, each in their order, if the fields are the same but for order and
repetitions, and if the same names are imported in the end. So it makes no difference where
members are added, and in which order names are imported that want different simple names, all
of them free. The text is laid out from what was added: the imports and the fields stand in
ascending order, each once, and all constructors before all methods. -/
theorem source_depends_on_additions (className : String) (sink : Option Sink)
    (available : List String) :
    let start := new className sink available
    (∀ operations others, (added start operations).Same (added start others) →
      (∀ name, name ∈ (performAll operations start).imports.imported ↔
        name ∈ (performAll others start).imports.imported) →
      (performAll operations start).source = (performAll others start).source) ∧
    (∀ before block other behind, Reordered (performAll before start) block other →
      (performAll (before ++ block ++ behind) start).source =
        (performAll (before ++ other ++ behind) start).source) ∧
    (∀ operations : List Operation, (∀ operation ∈ operations, operation.Plain) →
      (added start operations).fields = operations.filterMap Operation.field? ∧
      (added start operations).constructors = operations.filterMap Operation.constructor? ∧
      (added start operations).methods = operations.filterMap Operation.method?) ∧
    ∀ operations, LaidOut className (added start operations)
      (performAll operations start).imports.imported (performAll operations start).source := by
  intro start
  have distinct (operations : List Operation) :=
    distinct_performAll className sink available operations
  have named (operations : List Operation) :
      (performAll operations start).className = className := performAll_named operations start
  refine ⟨fun operations others same imported => ?_, fun before block other behind reordered => ?_,
    fun operations plain => added_of_plain rfl plain, fun operations => ?_⟩
  · have parts : (performAll operations start).parts.Same (performAll others start).parts := by
      rw [performAll_new_parts, performAll_new_parts]
      exact same
    exact source_eq ((named operations).trans (named others).symm) parts imported
      (distinct operations) (distinct others)
  · have frame := reordered_frame (distinct before) reordered
    have parts := performAll_same frame (reordered_parts (distinct before) reordered) behind
    have behindFrame := performAll_frame frame behind
    simp only [performAll_append]
    exact source_eq behindFrame.named parts behindFrame.imports.imported
      behindFrame.imports.distinct behindFrame.imports.distinctToo
  · have text := source_laidOut (distinct operations)
    rwa [named, performAll_new_parts] at text

/-- Two ways of filling the same class. -/
theorem shop_depends_on_additions :
    let start := new "Shop" none []
    let before : List Operation := [.startPackage "org.shop", .startClass "class Shop \x7b"]
    let block : List Operation := [.addField "int b;", .registerImport "java.util.Map",
      .addMethod "void sell();", .addField "int a;", .registerImport "java.io.File",
      .addConstructor "Shop();", .addMethod "void buy();"]
    let other : List Operation := [.registerImport "java.io.File", .addConstructor "Shop();",
      .addField "int a;", .addField "int b;", .addMethod "void sell();",
      .registerImport "java.util.Map", .addField "int a;", .addMethod "void buy();"]
    Reordered (performAll before start) block other ∧
      (added start (before ++ block)).Same (added start (before ++ other)) ∧
      (performAll (before ++ block) start).source = (performAll (before ++ other) start).source ∧
      (performAll (before ++ block ++ [.finish]) start).source =
        (performAll (before ++ other ++ [.finish]) start).source ∧
      (added start (before ++ block)).methods = ["void sell();", "void buy();"] := by
  intro start before block other
  obtain ⟨additions, order, given, -⟩ := source_depends_on_additions "Shop" none []
  have plain : ∀ operation ∈ before ++ (block ++ other), operation.Plain := by
    simp [before, block, other, Operation.Plain]
  obtain ⟨begun, plain⟩ := List.forall_mem_append.1 plain
  obtain ⟨filled, -⟩ := List.forall_mem_append.1 plain
  have perm : ["java.util.Map", "java.io.File"].Perm ["java.io.File", "java.util.Map"] :=
    .swap _ _ _
  have fields : ∀ declaration, declaration ∈ ["int b;", "int a;"] ↔
      declaration ∈ ["int a;", "int b;", "int a;"] := by
    intro declaration
    simp only [List.mem_cons, List.not_mem_nil]
    tauto
  have reordered : Reordered (performAll before start) block other :=
    ⟨plain, fields, rfl, rfl, .intro [] [] perm (by decide +kernel) (by decide +kernel)⟩
  have own : (added start (before ++ block)).fields = ["int b;", "int a;"] := by decide +kernel
  have ownToo : (added start (before ++ other)).fields = ["int a;", "int b;", "int a;"] := by
    decide +kernel
  have same : (added start (before ++ block)).Same (added start (before ++ other)) := by
    refine ⟨by decide +kernel, by decide +kernel, ?_, by decide +kernel, by decide +kernel⟩
    rw [own, ownToo]
    exact fields
  have imported : (performAll (before ++ block) start).imports.imported =
      ["java.util.Map", "java.io.File"] := by decide +kernel
  have importedToo : (performAll (before ++ other) start).imports.imported =
      ["java.io.File", "java.util.Map"] := by decide +kernel
  refine ⟨reordered, same, additions _ _ same fun name => ?_, order _ _ _ _ reordered, ?_⟩
  · rw [imported, importedToo, perm.mem_iff]
  · exact (given (before ++ block) (List.forall_mem_append.2 ⟨begun, filled⟩)).2.2

end DelegateClasses.ClassDraft
