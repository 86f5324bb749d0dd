import DelegateClasses.Proofs.Delegate.Starting
import DelegateClasses.Proofs.Draft.Making
import DelegateClasses.Proofs.Processing.Beside

/-! Classes whose directory has a name that is too long. What is above that name is made,
nothing below it, and the class fails. Main statements: the error names the whole directory
if what is above the name was there already, and otherwise only the part up to the name; so
of two classes below one long name the second one is reported in other words than the first. -/
namespace DelegateClasses.Delegate
open FileTree Steps Processing

variable {declared : ClassDecl} {directory : Path} {package name : String} {site : Site}
variable {front rest : List String} {world : World State} {session : Session State}
variable {result : RoundResult}

/-- The directory of a file has a name that is too long, and nothing stands in the way
before it. -/
structure Overlong (tree : FileTree) (site : Site) (front : List String) (name : String)
    (rest : List String) : Prop where
  ready : site.Ready tree
  fits : checkText site.directory.text = .ok ()
  parts : site.names = front ++ name :: rest
  clear : tree.Clear site.place front
  long : nameLimit < name.utf8ByteSize

private theorem startClass_overlong (settings : Settings) (ordinary : declared.kind ≠ .enum)
    (owned : declared.package? = some package)
    (path : outputPath directory package (world.own.generatedName declared) = site.path)
    (overlong : Overlong world.files site front name rest) :
    ∃ blamed files, startClass settings declared (.outside directory) world =
        .error (.outputUnavailable site.path ⟨.nameTooLong, blamed⟩) { world with files } ∧
      Patched (site.way front) world.files files ∧
      Blamed world.files site.root site.known site.place front name rest blamed := by
  obtain ⟨blamed, files, created, patched, named⟩ :=
    @Site.create_long _ _ _ (world.own.generatedName declared) _ _ overlong.ready overlong.fits
      overlong.parts overlong.clear overlong.long
  have refused : begin site.path (world.own.generatedName declared) world =
      .error (.outputUnavailable site.path ⟨.nameTooLong, blamed⟩) { world with files } := by
    rw [begin, created]
  have home : outputPath (Position.outside directory).outputDirectory package
      (world.own.generatedName declared) = site.path := path
  refine ⟨blamed, files, ?_, patched, named⟩
  rw [startClass_ordinary _ ordinary owned, home, bind_of_error refused]

private theorem visitClass_overlong (ordinary : declared.kind ≠ .enum)
    (owned : declared.package? = some package) (fresh : declared.name ∉ session.ledger.generated)
    (path : outputPath directory package (session.world.own.generatedName declared) = site.path)
    (overlong : Overlong session.world.files site front name rest) :
    ∃ blamed files log, visitClass generator (.outside directory) declared session =
        .error (.outputUnavailable site.path ⟨.nameTooLong, blamed⟩)
          ⟨session.ledger, { session.world with files, log }⟩ ∧
      Patched (site.way front) session.world.files files ∧
      Blamed session.world.files site.root site.known site.place front name rest blamed := by
  obtain ⟨blamed, files, started, patched, named⟩ :=
    @startClass_overlong _ _ _ _ _ _ _ (asked declared session) session.ledger.settings ordinary
      owned path overlong
  exact ⟨blamed, files, _, visitClass_refused fresh started, patched, named⟩

/-- **A name that is too long ends the turn of a class.** The class fails with an error that
names a part of its directory, the directories above the name are made, and the round goes
on with the books as they were. -/
theorem turn_overlong (ordinary : declared.kind ≠ .enum) (owned : declared.package? = some package)
    (spared : result.failed declared.name = false)
    (fresh : declared.name ∉ session.ledger.generated) (idle : session.ledger.pending = [])
    (path : outputPath directory package (session.world.own.generatedName declared) = site.path)
    (overlong : Overlong session.world.files site front name rest) :
    ∃ blamed files log,
      processWithSuperclasses generator (.outside directory) result declared session = .ok
        ⟨result.generated, result.failures ++
          [(declared.name, .outputUnavailable site.path ⟨.nameTooLong, blamed⟩)]⟩
        ⟨session.ledger, { session.world with files, log }⟩ ∧
      Patched (site.way front) session.world.files files ∧
      Blamed session.world.files site.root site.known site.place front name rest blamed := by
  obtain ⟨blamed, files, _, visits, patched, named⟩ :=
    @visitClass_overlong _ _ _ _ _ _ _ (noted ("Processing " ++ declared.name) session) ordinary
      owned fresh path overlong
  obtain ⟨log, ran⟩ := processClass_of_error spared visits rfl
  simp only [noted_ledger, List.drop_length, List.append_nil] at ran
  exact ⟨blamed, files, log, processWithSuperclasses_of_idle ran idle, patched, named⟩

/-! ## Classes below a long name -/

/-- The text is a word, which consists of letters. -/
structure Word (text : String) : Prop where
  nonempty : text ≠ ""
  letters : ∀ c ∈ text.toList, c.isAlpha = true

/-- A class in a package below another one. -/
def buried (outer inner : String) : ClassDecl :=
  ⟨DottedName.member ("x." ++ outer ++ "." ++ inner) "A", .ordinary, none, ["public"], []⟩

/-- Where the file of such a class is to stand. -/
def buriedSite (outer inner : String) : Site :=
  ⟨"", ["out"], ["w", "out"], ["x", outer, inner], "AWrapper.java"⟩

section Buried

variable {outer inner text : String} {tree : FileTree}

private theorem Word.ne (word : Word text) {c : Char} (member : c ∈ text.toList) (mark : Char)
    (other : mark.isAlpha = false) : c ≠ mark := by
  rintro rfl
  cases (word.letters c member).symm.trans other

private theorem Word.quiet (word : Word text) : TypeTree.Quiet text.toList := by
  have others : ∀ mark ∈ ['<', '>', ','], mark.isAlpha = false := by
    simp only [List.forall_mem_cons]
    exact ⟨rfl, rfl, rfl, List.forall_mem_nil _⟩
  exact fun c member mark => word.ne member c (others c mark) rfl

private theorem Word.nameable (word : Word text) : '\x00' ∉ text.toList :=
  fun null => word.ne null '\x00' rfl rfl

private theorem Word.component (word : Word text) : Path.Component text := by
  refine ⟨word.nonempty, ?_, fun slash => word.ne slash '/' rfl rfl⟩
  rintro rfl
  exact word.ne (c := '.') (by decide) '.' rfl rfl

private theorem Word.down (word : Word text) : text ≠ "." ∧ text ≠ ".." := by
  constructor
  · exact word.component.word
  · rintro rfl
    exact word.ne (c := '.') (by decide) '.' rfl rfl

/-- The directory that an error about the long name tells, if the one that is to hold it is
there, and if it is not. -/
def buriedBlame (outer inner : String) (there : Bool) : String :=
  if there then "out/x/" ++ outer ++ "/" ++ inner else "out/x/" ++ outer

/-- What is reported of such a class. -/
def buriedFailure (outer inner blamed : String) : String × Failure :=
  ((buried outer inner).name,
    .outputUnavailable (buriedSite outer inner).path ⟨.nameTooLong, blamed⟩)

private theorem blamed_buried {blamed : String} (free : tree.file? ["w", "out", "x"] = none)
    (named : Blamed tree "" ["out"] ["w", "out"] ["x"] outer [inner] blamed) :
    blamed = buriedBlame outer inner (tree.node? ["w", "out", "x"]).isSome := by
  have way : tree.follow ["w", "out"] ["x"] = tree.step (["w", "out"], .directory) "x" := by
    rw [follow, List.foldlM_cons]
    cases tree.step (["w", "out"], .directory) "x" <;> rfl
  rw [step_down (by decide) (by decide) (by decide)] at way
  simp only [List.cons_append, List.nil_append] at way
  rcases node?_of_no_file free with absent | stands
  · rw [absent] at way
    cases named with
    | whole reached => cases way.symm.trans reached
    | first missing =>
      simp [absent, buriedBlame, Path.text, ← String.toList_inj, String.intercalate_cons_cons]
  · rw [stands] at way
    cases named with
    | whole reached =>
      simp [stands, buriedBlame, Path.text, ← String.toList_inj, String.intercalate_cons_cons]
    | first missing => cases way.symm.trans missing

/-- What is said of such a class if a directory cannot be made. -/
def buriedMessage (outer inner blamed : String) : String :=
  "Could not create output file '" ++ ("out/x/" ++ outer ++ "/" ++ inner ++ "/AWrapper.java") ++
    "': " ++ ("[Errno 36] File name too long: " ++ ("'" ++ blamed ++ "'"))

/-- A letter is not escaped. -/
theorem Word.plain (word : Word text) : ∀ c ∈ text.toList, Text.quotedChar '\x27' c = [c] := by
  intro c member
  have range : (decide ('A'.val ≤ c.val ∧ c.val ≤ 'Z'.val) ||
      decide ('a'.val ≤ c.val) && decide (c.val ≤ 'z'.val)) = true := word.letters c member
  simp only [Bool.or_eq_true, Bool.and_eq_true, decide_eq_true_eq,
    UInt32.le_iff_toNat_le] at range
  change (0x41 ≤ c.toNat ∧ c.toNat ≤ 0x5A) ∨ (0x61 ≤ c.toNat ∧ c.toNat ≤ 0x7A) at range
  exact Text.quotedChar_plain (by omega) (by omega) (word.ne member '\x27' rfl)
    (word.ne member '\x5C' rfl)

private theorem plain_buriedBlame (first : Word outer) (second : Word inner) (there : Bool) :
    ∀ c ∈ (buriedBlame outer inner there).toList, Text.quotedChar '\x27' c = [c] := by
  have front : ∀ c ∈ ['o', 'u', 't', '/', 'x', '/'], Text.quotedChar '\x27' c = [c] := by
    simp only [List.forall_mem_cons]
    refine ⟨?_, ?_, ?_, ?_, ?_, ?_, List.forall_mem_nil _⟩ <;>
      exact Text.quotedChar_plain (by decide) (by decide) (by decide) (by decide)
  have slash : ∀ c ∈ ['/'], Text.quotedChar '\x27' c = [c] :=
    List.forall_mem_singleton.2 (front '/' (by simp))
  cases there
  · simp only [buriedBlame, Bool.false_eq_true, if_false, String.toList_append,
      List.forall_mem_append]
    exact ⟨front, first.plain⟩
  · simp only [buriedBlame, if_true, String.toList_append, List.forall_mem_append]
    exact ⟨⟨⟨front, first.plain⟩, slash⟩, second.plain⟩

private theorem message_buried {blamed : String}
    (plain : ∀ c ∈ blamed.toList, Text.quotedChar '\x27' c = [c]) :
    (buriedFailure outer inner blamed).2.message = buriedMessage outer inner blamed := by
  have path : (buriedSite outer inner).path.text =
      "out/x/" ++ outer ++ "/" ++ inner ++ "/AWrapper.java" := by
    simp [Site.path, buriedSite, Path.text, ← String.toList_inj, String.intercalate_cons_cons]
  change "Could not create output file '" ++ (buriedSite outer inner).path.text ++ "': " ++
    ("[Errno 36] File name too long: " ++ Text.quoted blamed) = _
  rw [path, Text.quoted_of_plain plain]
  rfl

/-- A run before its first class, with a bare output directory: it may hold directories and
no files. -/
structure Bare (session : Session State) : Prop where
  suffix : session.world.own.suffix = defaultSuffix
  fresh : session.ledger.generated = []
  idle : session.ledger.pending = []
  working : session.world.files.workingDirectory = ["w"]
  top : session.world.files.node? ["w", "out"] = some .directory
  free : ∀ place, session.world.files.file? place = none

variable (first : Word outer) (second : Word inner)
include first second

private theorem qualifiedName_buried :
    (buried outer inner).type.qualifiedName = (buried outer inner).name := by
  have chars : (buried outer inner).name.toList =
      'x' :: '.' :: (outer.toList ++ '.' :: (inner.toList ++ ['.', 'A'])) := by
    simp [buried, DottedName.member]
  have quiet : TypeTree.Quiet (buried outer inner).name.toList := by
    rw [chars]
    simp only [TypeTree.Quiet, List.forall_mem_cons, List.forall_mem_append]
    exact ⟨by decide, by decide, first.quiet, by decide, second.quiet, by decide, by decide,
      List.forall_mem_nil _⟩
  have tight : Text.Tight (buried outer inner).name.toList := by
    rw [chars]
    constructor
    · simp [Text.isBlank]
    · simp [List.getLast?_cons, List.getLast?_append, Text.isBlank]
  change TypeTree.withoutArguments (buried outer inner).name = _
  rw [TypeTree.withoutArguments_of_quiet quiet, Text.trimmed, Text.trim_of_tight tight,
    String.ofList_toList]

private theorem package?_buried :
    (buried outer inner).package? = some ("x." ++ outer ++ "." ++ inner) := by
  change DottedName.package? (buried outer inner).type.qualifiedName = _
  rw [qualifiedName_buried first second]
  exact DottedName.package?_member (by decide)

private theorem simpleName_buried : (buried outer inner).simpleName = "A" := by
  change DottedName.simple (buried outer inner).type.qualifiedName = _
  rw [qualifiedName_buried first second]
  exact DottedName.simple_member (by decide)

private theorem normal_buried : (buriedSite outer inner).path.Normal := by
  refine ⟨.inl rfl, ?_⟩
  simp only [Site.path, buriedSite, List.cons_append, List.nil_append, List.forall_mem_cons]
  exact ⟨⟨by decide, by decide, by decide⟩, ⟨by decide, by decide, by decide⟩, first.component,
    second.component, ⟨by decide, by decide, by decide⟩, List.forall_mem_nil _⟩

private theorem outputPath_buried :
    outputPath (.ofText "out") ("x." ++ outer ++ "." ++ inner) "AWrapper" =
    (buriedSite outer inner).path := by
  have top : Path.ofText "out" = ⟨"", ["out"]⟩ := by decide +kernel
  have file : Path.ofText ("AWrapper" ++ PlacedDraft.suffix) = ⟨"", ["AWrapper.java"]⟩ := by
    decide +kernel
  have normal : Path.Normal ⟨"", ["x", outer, inner]⟩ := by
    refine ⟨.inl rfl, ?_⟩
    simp only [List.forall_mem_cons]
    exact ⟨⟨by decide, by decide, by decide⟩, first.component, second.component,
      List.forall_mem_nil _⟩
  have kept {text : String} (word : Word text) :
      (text.toList.map fun c => if c = '.' then '/' else c) = text.toList := by
    refine (List.map_congr_left fun c member => ?_).trans (List.map_id _)
    exact if_neg (word.ne member '.' rfl)
  have package : DottedName.directory ("x." ++ outer ++ "." ++ inner) =
      Path.text ⟨"", ["x", outer, inner]⟩ := by
    rw [← String.toList_inj, Path.toList_text (by simp), DottedName.directory, String.toList_ofList]
    simp [kept first, kept second, List.intercalate]
  rw [outputPath, top, package, Path.child, Path.child, Path.ofText_text normal (by simp), file]
  rfl

private theorem fits_buried (most : outer.utf8ByteSize ≤ 1000) (least : inner.utf8ByteSize ≤ 1000) :
    checkText (buriedSite outer inner).directory.text = .ok () := by
  have text : (buriedSite outer inner).directory.text = "out/x/" ++ outer ++ "/" ++ inner := by
    simp [Site.directory, buriedSite, Path.text, ← String.toList_inj, String.intercalate_cons_cons]
  have nameable : '\x00' ∉ ("out/x/" ++ outer ++ "/" ++ inner).toList := by
    simp only [String.toList_append, List.mem_append, not_or]
    exact ⟨⟨⟨by decide, first.nameable⟩, by decide⟩, second.nameable⟩
  have size : ("out/x/" ++ outer ++ "/" ++ inner).utf8ByteSize < pathLimit := by
    simp only [String.utf8ByteSize_append]
    have front : "out/x/".utf8ByteSize = 6 := by decide
    have slash : "/".utf8ByteSize = 1 := by decide
    rw [front, slash, pathLimit]
    omega
  rw [text, checkText, if_neg (by simpa using nameable), if_neg (by simp), if_neg (by omega)]

private theorem overlong_buried (long : nameLimit < outer.utf8ByteSize)
    (most : outer.utf8ByteSize ≤ 1000) (least : inner.utf8ByteSize ≤ 1000)
    (working : tree.workingDirectory = ["w"]) (top : tree.node? ["w", "out"] = some .directory)
    (free : ∀ place, tree.file? place = none) :
    Overlong tree (buriedSite outer inner) ["x"] outer [inner] where
  ready := {
    backed := fun _ _ _ _ stands => by cases (free _).symm.trans stands
    normal := normal_buried first second
    downward := by
      simp only [buriedSite, List.cons_append, List.nil_append, Downward, List.forall_mem_cons]
      exact ⟨by decide, first.down, second.down, by decide, List.forall_mem_nil _⟩
    leads := by
      change tree.follow (tree.base "") ["out"] = .ok (["w", "out"], .directory)
      have base : tree.base "" = ["w"] := working
      rw [base, follow, List.foldlM_cons, step_down (by decide) (by decide) (by decide)]
      simp only [List.cons_append, List.nil_append, top]
      rfl }
  fits := fits_buried first second most least
  parts := rfl
  clear := by
    have clear : tree.Clear ["w", "out"] ([] ++ ["x"]) :=
      clear_concat.2 ⟨Site.clear_nil _ _, by decide, free _⟩
    exact clear
  long := long

/-- Such a class fails, and leaves the directory that is to hold its long name. -/
theorem turn_buried {session : Session State} {result : RoundResult}
    (long : nameLimit < outer.utf8ByteSize) (most : outer.utf8ByteSize ≤ 1000)
    (least : inner.utf8ByteSize ≤ 1000) (bare : Bare session)
    (spared : result.failed (buried outer inner).name = false) :
    ∃ after, processWithSuperclasses generator (.outside (.ofText "out")) result
        (buried outer inner) session = .ok
          ⟨result.generated, result.failures ++ [buriedFailure outer inner
            (buriedBlame outer inner (session.world.files.node? ["w", "out", "x"]).isSome)]⟩
          after ∧
      Bare after ∧ after.world.files.node? ["w", "out", "x"] = some .directory := by
  have generated : session.world.own.generatedName (buried outer inner) = "AWrapper" := by
    rw [State.generatedName, bare.suffix, simpleName_buried first second]
    rfl
  have path := outputPath_buried first second
  rw [← generated] at path
  obtain ⟨blamed, files, log, ran, patched, named⟩ := turn_overlong (by simp [buried])
    (package?_buried first second) spared (by rw [bare.fresh]; exact List.not_mem_nil) bare.idle
    path (overlong_buried first second long most least bare.working bare.top bare.free)
  rw [blamed_buried (bare.free _) named] at ran
  refine ⟨_, ran, { bare with working := ?_, top := ?_, free := ?_ }, ?_⟩
  · exact patched.workingDirectory.trans bare.working
  · change files.node? _ = _
    rw [patched.nodes, bare.top]
    rfl
  · intro place
    change files.file? place = none
    rw [file?, patched.nodes, Site.way]
    split
    · rfl
    · exact bare.free place
  · change files.node? _ = _
    rw [patched.nodes]
    rfl

end Buried

/-- **An error about a long name tells what was made before.** Of two classes below the same
long name the first one is reported with the directory of that name, which is the first that
cannot be made, and the second one with its whole directory. -/
theorem process_buried {outer one other : String} {start : Session State} (first : Word outer)
    (second : Word one) (third : Word other) (apart : one ≠ other)
    (long : nameLimit < outer.utf8ByteSize) (most : outer.utf8ByteSize ≤ 1000)
    (least : one.utf8ByteSize ≤ 1000) (less : other.utf8ByteSize ≤ 1000) (bare : Bare start)
    (missing : start.world.files.node? ["w", "out", "x"] = none) :
    ∃ result after,
      process generator [buried outer one, buried outer other] (.ofText "out") start =
        .ok result after ∧
      result.failures.map (fun entry => (entry.1, entry.2.message)) =
        [((buried outer one).name, buriedMessage outer one ("out/x/" ++ outer)),
          ((buried outer other).name,
            buriedMessage outer other ("out/x/" ++ outer ++ "/" ++ other))] := by
  obtain ⟨middle, ran, still, made⟩ :=
    @turn_buried _ _ first second start .empty long most least bare rfl
  have spared : (buried outer one).name ≠ (buried outer other).name := by
    simpa [buried, DottedName.member, ← String.toList_inj] using apart
  obtain ⟨after, again, -, -⟩ := @turn_buried _ _ first third middle
    ⟨[], [buriedFailure outer one (buriedBlame outer one false)]⟩ long most less still
    (by simp [RoundResult.failed, buriedFailure, spared])
  rw [missing] at ran
  rw [made] at again
  refine ⟨⟨[], [buriedFailure outer one (buriedBlame outer one false),
    buriedFailure outer other (buriedBlame outer other true)]⟩, after, ?_, ?_⟩
  · rw [process, List.foldlM_cons, bind_of_ok ran, List.foldlM_cons]
    exact bind_of_ok again
  · rw [List.map_cons, List.map_cons, message_buried (plain_buriedBlame first second _),
      message_buried (plain_buriedBlame first third _)]
    rfl

end DelegateClasses.Delegate
