import DelegateClasses.Proofs.Delegate.Filing
import DelegateClasses.Proofs.DottedName
import DelegateClasses.Proofs.Draft.Making

/-! Where a generated class is written. Its path, seen from the output directory, is
made of the package and the names; it never goes upwards. It is relative unless the
package starts with a dot or a slash, or the class name with a slash: the dots of the
package become slashes, and a path that starts with one does not depend on the output
directory. Main statement: what the start of a class changes in the files lies on the
way to its path. -/
namespace DelegateClasses

namespace Path

private theorem join_join (first second third : Path) :
    (first.join second).join third = first.join (second.join third) := by
  simp only [join]
  by_cases relative : third.root = ""
  · by_cases inner : second.root = ""
    · simp only [if_pos relative, if_pos inner, List.append_assoc]
    · simp only [if_pos relative, if_neg inner]
  · simp only [if_neg relative]

/-- Two paths that are joined give a relative one if both are relative. -/
theorem root_join (base path : Path) :
    (base.join path).root = "" ↔ base.root = "" ∧ path.root = "" := by
  rw [join]
  split
  · next relative => exact (and_iff_left relative).symm
  · next absolute => exact iff_of_false absolute fun both => absolute both.2

private theorem rootOf_eq_empty (text : List Char) : rootOf text = "" ↔ text.head? ≠ some '/' := by
  cases text with
  | nil => simp [rootOf]
  | cons c rest =>
    by_cases slash : c = '/'
    · subst slash
      cases rest with
      | nil => simp [rootOf]
      | cons d rest =>
        by_cases again : d = '/'
        · subst again
          cases rest with
          | nil => simp [rootOf]
          | cons e rest => by_cases third : e = '/' <;> simp [rootOf, third]
        · simp [rootOf, again]
    · simp [rootOf, slash]

end Path

namespace Delegate
open ClassDraft FileTree Steps

variable {package className simple suffix : String} {directory : Path}

/-- The path of the file of a generated class, seen from the output directory. -/
def relativePath (package className : String) : Path :=
  (Path.ofText (DottedName.directory package)).child (className ++ PlacedDraft.suffix)

theorem outputPath_eq (directory : Path) (package className : String) :
    outputPath directory package className = directory.join (relativePath package className) :=
  Path.join_join _ _ _

private theorem normal_relativePath (package className : String) :
    (relativePath package className).Normal :=
  Path.normal_child (Path.normal_ofText _) _

/-- The names make up a path that does not start with a slash. -/
structure Inside (package simple : String) : Prop where
  dot : package.toList.head? ≠ some '.'
  slash : package.toList.head? ≠ some '/'
  simple : simple.toList.head? ≠ some '/'

private theorem head?_append_slash {text ending : List Char} (plain : '/' ∉ ending) :
    (text ++ ending).head? = some '/' ↔ text.head? = some '/' := by
  cases text with
  | nil =>
    constructor
    · intro first
      exact absurd (List.mem_of_head? first) plain
    · intro first
      cases first
  | cons c rest => exact Iff.rfl

/-- The path is relative for exactly these names. -/
theorem relative_iff (plain : '/' ∉ suffix.toList) :
    (relativePath package (simple ++ suffix)).root = "" ↔ Inside package simple := by
  have ending : '/' ∉ suffix.toList ++ PlacedDraft.suffix.toList := by
    simpa [PlacedDraft.suffix] using plain
  have named : (Path.ofText (simple ++ suffix ++ PlacedDraft.suffix)).root = "" ↔
      simple.toList.head? ≠ some '/' := by
    rw [Path.ofText, Path.rootOf_eq_empty, String.toList_append, String.toList_append,
      List.append_assoc, ne_eq, head?_append_slash ending]
  have owned : (Path.ofText (DottedName.directory package)).root = "" ↔
      package.toList.head? ≠ some '.' ∧ package.toList.head? ≠ some '/' := by
    rw [Path.ofText, Path.rootOf_eq_empty, DottedName.directory, String.toList_ofList,
      List.head?_map]
    cases package.toList.head? with
    | none => simp
    | some c => by_cases dot : c = '.' <;> simp [dot]
  rw [relativePath, Path.child, Path.root_join, owned, named]
  constructor
  · rintro ⟨⟨dot, slash⟩, first⟩
    exact ⟨dot, slash, first⟩
  · rintro ⟨dot, slash, first⟩
    exact ⟨⟨dot, slash⟩, first⟩

private theorem word_of_no_dot {name : String} (free : '.' ∉ name.toList) :
    name ≠ "." ∧ name ≠ ".." := by
  constructor <;>
  · rintro rfl
    exact free (by decide)

/-- The directories of a package have no dots in their names. -/
private theorem directory_downward (package : String) :
    Downward (Path.ofText (DottedName.directory package)).parts := by
  intro name member
  apply word_of_no_dot
  simp only [Path.ofText, Path.components, List.mem_filter, List.mem_map] at member
  obtain ⟨⟨piece, ⟨cut, -⟩, rfl⟩, -⟩ := member
  intro dot
  rw [String.toList_ofList] at dot
  have inside := Text.mem_of_mem_splitOn cut dot
  rw [DottedName.directory, String.toList_ofList] at inside
  obtain ⟨c, -, same⟩ := List.mem_map.1 inside
  split at same
  · cases same
  · next other => exact other same

/-- A class name without dots, and with slashes before its ending only, gives directories
and a file, and none of them is two dots. -/
private theorem fileName_downward (dotless : '.' ∉ simple.toList) (plain : '/' ∉ suffix.toList) :
    ∃ names file, (Path.ofText (simple ++ suffix ++ PlacedDraft.suffix)).parts =
      names ++ [file] ∧ Downward (names ++ [file]) := by
  have ending : '/' ∉ suffix.toList ++ PlacedDraft.suffix.toList := by
    simpa [PlacedDraft.suffix] using plain
  obtain ⟨front, last, cut, ended⟩ := Text.splitOn_ending ending simple.toList
  generalize final : last ++ (suffix.toList ++ PlacedDraft.suffix.toList) = chars at ended
  have long : 2 < chars.length := by
    rw [← final]
    simp [PlacedDraft.suffix]
    omega
  have java : String.ofList chars ≠ "." ∧ String.ofList chars ≠ ".." := by
    constructor <;>
    · intro same
      have chars := congrArg String.toList same
      rw [String.toList_ofList] at chars
      rw [chars] at long
      revert long
      decide
  have nonempty : chars.isEmpty = false := by
    rw [List.isEmpty_eq_false_iff]
    rintro rfl
    cases long
  refine ⟨((front.filter (!·.isEmpty)).map String.ofList).filter (· != "."), String.ofList chars,
    ?_, fun name member => ?_⟩
  · rw [Path.ofText, Path.components, String.toList_append, String.toList_append,
      List.append_assoc, ended]
    simp [nonempty, java.1]
  · rcases List.mem_append.1 member with inside | file
    · obtain ⟨piece, kept, rfl⟩ := List.mem_map.1 (List.mem_of_mem_filter inside)
      apply word_of_no_dot
      rw [String.toList_ofList]
      intro dot
      apply dotless
      have among : piece ∈ simple.toList.splitOn '/' := by
        rw [cut]
        exact List.mem_append_left _ (List.mem_of_mem_filter kept)
      exact Text.mem_of_mem_splitOn among dot
    · rw [List.mem_singleton.1 file]
      exact java

/-- The path leads to a file, and never upwards. -/
theorem relativePath_downward (dotless : '.' ∉ simple.toList) (plain : '/' ∉ suffix.toList) :
    ∃ names file, (relativePath package (simple ++ suffix)).parts = names ++ [file] ∧
      Downward (names ++ [file]) := by
  obtain ⟨names, file, parts, below⟩ := fileName_downward dotless plain
  rw [relativePath, Path.child, Path.join]
  split
  · refine ⟨(Path.ofText (DottedName.directory package)).parts ++ names, file, ?_, ?_⟩
    · rw [parts, List.append_assoc]
    · intro name member
      rw [List.append_assoc] at member
      exact (List.mem_append.1 member).elim (directory_downward package name) (below name)
  · exact ⟨names, file, parts, below⟩

/-! ## The start of a class -/

variable {world : World State} {declared : ClassDecl} {settings : Settings} {target : Target}

/-- A class that is given up before anything was written leaves the files alone. -/
private theorem leave_untouched {files : FileTree} (underway : Underway target files world) :
    (leave world).files = files := by
  obtain ⟨same, draft, unwritten, here⟩ := underway
  rw [At] at here
  simp only [leave, here, PlacedDraft.release, unwritten.writable, Sink.fresh]
  exact same

/-- The start of a class makes its file, or tries to, and nothing else. -/
theorem startClass_files (settings : Settings) (declared : ClassDecl) (directory : Path)
    (world : World State) :
    let after := (left (startClass settings declared (.outside directory) world)).files
    let className := world.own.generatedName declared
    after = world.files ∨ ∃ package, declared.package? = some package ∧
      after = (PlacedDraft.create world.files (outputPath directory package className)
        className).2 := by
  intro after className
  have start := startClass_outside settings declared directory world
  simp only [after, className]
  generalize startClass settings declared (.outside directory) world = result at start ⊢
  cases start with
  | enum kind noted =>
    cases noted
    exact .inl rfl
  | homeless bare => exact .inl rfl
  | @unopened package failure last owned refused =>
    refine .inr ⟨package, owned, ?_⟩
    rw [← files_begin, refused]
    rfl
  | @undrafted package failure opened last owned begun failed =>
    obtain ⟨place, draft, empty, here, unwritten⟩ := targetOf_begun begun
    have underway := startDraft_underway settings owned here unwritten
    rw [failed] at underway
    refine .inr ⟨package, owned, ?_⟩
    rw [← files_begin, begun]
    exact leave_untouched underway
  | @drafted package opened started log owned begun worked =>
    obtain ⟨place, draft, empty, here, unwritten⟩ := targetOf_begun begun
    have underway := startDraft_underway settings owned here unwritten
    rw [worked] at underway
    refine .inr ⟨package, owned, ?_⟩
    rw [← files_begin, begun]
    exact underway.1

theorem simpleName_dotless (declared : ClassDecl) : '.' ∉ declared.simpleName.toList := by
  rw [ClassDecl.simpleName, TypeRef.simpleName, DottedName.simple, String.toList_ofList]
  exact DottedName.lastSegment_no_dot _

/-- What is made on the way to a path below a directory stands where the directory or one
above it is, or below the directory. -/
private theorem made_below {after : FileTree} {inner : Path} {names place : List String}
    {file : String}
    (normal : directory.Normal) (relative : inner.Normal) (parts : inner.parts = names ++ [file])
    (downward : Downward (names ++ [file]))
    (made : (∃ parts, parts <+: directory.parts ++ names ∧
        after.resolve (Path.text ⟨directory.root, parts⟩) = .ok (place, .directory)) ∨
      after.resolve (Path.text ⟨directory.root, directory.parts ++ inner.parts⟩) =
        .ok (place, .file .empty)) :
    (∃ parts, parts <+: directory.parts ∧
      after.resolve (Path.text ⟨directory.root, parts⟩) = .ok (place, .directory)) ∨
    ∃ above below, after.resolve directory.text = .ok (above, .directory) ∧
      below ≠ [] ∧ below <+: inner.parts ∧ place = above ++ below := by
  have whole : Path.Normal ⟨directory.root, directory.parts ++ inner.parts⟩ := by
    refine ⟨normal.root, fun part member => ?_⟩
    exact (List.mem_append.1 member).elim (normal.parts part) (relative.parts part)
  rw [← parts] at downward
  rcases made with ⟨parts', within, leads⟩ | leads
  · rcases List.prefix_or_prefix_of_prefix within (List.prefix_append directory.parts names) with
      above | ⟨below, rfl⟩
    · exact .inl ⟨parts', above, leads⟩
    · have inside : below <+: names := (List.prefix_append_right_inj _).1 within
      by_cases top : below = []
      · rw [top, List.append_nil] at leads
        exact .inl ⟨directory.parts, List.prefix_refl _, leads⟩
      · have prior : below <+: inner.parts := by
          rw [parts]
          exact inside.trans (List.prefix_append _ _)
        obtain ⟨above, there, same⟩ := resolve_below
          ⟨normal.root, fun part member => whole.parts part (by
            rcases List.mem_append.1 member with known | new
            · exact List.mem_append_left _ known
            · exact List.mem_append_right _ (prior.subset new))⟩
          (fun name member => downward name (prior.subset member)) top leads
        exact .inr ⟨above, below, there, top, prior, same⟩
  · have some : inner.parts ≠ [] := by simp [parts]
    obtain ⟨above, there, same⟩ := resolve_below whole downward some leads
    exact .inr ⟨above, inner.parts, there, some, List.prefix_refl _, same⟩

/-- **Where a class is begun.** Whatever the start of a class changes in the files stands
where its output path or a path above it leads. If the names make up a relative path, it
stands where the output directory or a directory above it is, or below the output
directory, on the way that the package and the class name give. Otherwise the output path
is absolute and owes nothing to the output directory. -/
theorem class_begun_on_way_to_its_path (settings : Settings) (declared : ClassDecl)
    (text : String) (world : World State) (plain : '/' ∉ world.own.suffix.toList) :
    let directory := Path.ofText text
    let className := world.own.generatedName declared
    let after := (left (startClass settings declared (.outside directory) world)).files
    ∀ place, after.node? place ≠ world.files.node? place →
      ∃ package, declared.package? = some package ∧
        let output := outputPath directory package className
        let inner := relativePath package className
        ((∃ parts, parts <+: output.parent.parts ∧
            after.resolve (Path.text ⟨output.root, parts⟩) = .ok (place, .directory)) ∨
          after.resolve output.text = .ok (place, .file .empty)) ∧
        (Inside package declared.simpleName →
          output = ⟨directory.root, directory.parts ++ inner.parts⟩ ∧
          ((∃ parts, parts <+: directory.parts ∧
              after.resolve (Path.text ⟨directory.root, parts⟩) = .ok (place, .directory)) ∨
            ∃ above below, after.resolve directory.text = .ok (above, .directory) ∧
              below ≠ [] ∧ below <+: inner.parts ∧ place = above ++ below)) ∧
        (¬ Inside package declared.simpleName → inner.root ≠ "" ∧ output = inner) := by
  intro directory className after place changed
  rcases startClass_files settings declared directory world with same | ⟨package, owned, same⟩
  · exact absurd (congrArg (FileTree.node? · place) same) changed
  · have relative : (relativePath package className).root = "" ↔
        Inside package declared.simpleName := relative_iff plain
    obtain ⟨names, file, parts, downward⟩ : ∃ names file,
        (relativePath package className).parts = names ++ [file] ∧ Downward (names ++ [file]) :=
      relativePath_downward (simpleName_dotless declared) plain
    have joined := outputPath_eq directory package className
    rw [Path.join] at joined
    have made : (∃ parts, parts <+: (outputPath directory package className).parent.parts ∧
        after.resolve (Path.text ⟨(outputPath directory package className).root, parts⟩) =
          .ok (place, .directory)) ∨
        after.resolve (outputPath directory package className).text =
          .ok (place, .file .empty) := by
      change after = _ at same
      rw [same] at changed ⊢
      exact PlacedDraft.create_changes changed
    refine ⟨package, owned, made, fun inside => ?_, fun outside => ?_⟩
    · rw [if_pos (relative.2 inside)] at joined
      refine ⟨joined, ?_⟩
      rw [joined] at made
      apply made_below (Path.normal_ofText text) (normal_relativePath package className) parts
        downward
      rwa [Path.parent, parts, ← List.append_assoc, List.dropLast_concat, List.append_assoc,
        ← parts] at made
    · have root : (relativePath package className).root ≠ "" := fun empty =>
        outside (relative.1 empty)
      rw [if_neg root] at joined
      exact ⟨root, joined⟩

/-- A class in an ordinary package is begun below the output directory. -/
theorem box_begun_below_output_directory :
    let box : ClassDecl := ⟨"a.Box", .ordinary, none, ["public"], []⟩
    let world : World State := ⟨⟨["w"], [(["w"], .directory)]⟩, .empty, .start defaultSuffix .never⟩
    let after := (left (startClass .default box (.outside (.ofText "out")) world)).files
    '/' ∉ world.own.suffix.toList ∧
    after.node? ["w", "out", "a", "BoxWrapper.java"] ≠
      world.files.node? ["w", "out", "a", "BoxWrapper.java"] ∧
    ((∃ parts, parts <+: ["out"] ∧ after.resolve (Path.text ⟨"", parts⟩) =
        .ok (["w", "out", "a", "BoxWrapper.java"], .directory)) ∨
      ∃ above below, after.resolve "out" = .ok (above, .directory) ∧ below ≠ [] ∧
        below <+: ["a", "BoxWrapper.java"] ∧
        ["w", "out", "a", "BoxWrapper.java"] = above ++ below) := by
  intro box world after
  have plain : '/' ∉ world.own.suffix.toList := by decide
  have changed : after.node? ["w", "out", "a", "BoxWrapper.java"] ≠
      world.files.node? ["w", "out", "a", "BoxWrapper.java"] := by
    intro same
    have kinds := congrArg (Option.map Node.isDirectory) same
    revert kinds
    decide +kernel
  refine ⟨plain, changed, ?_⟩
  obtain ⟨package, owned, -, below, -⟩ :=
    class_begun_on_way_to_its_path .default box "out" world plain _ changed
  obtain rfl : package = "a" := by
    have inside : box.package? = some "a" := by decide +kernel
    exact Option.some.inj (owned.symm.trans inside)
  have inner : (relativePath "a" (world.own.generatedName box)).parts = ["a", "BoxWrapper.java"] := by
    decide +kernel
  obtain ⟨-, places⟩ := below ⟨by decide, by decide, by decide +kernel⟩
  rw [inner] at places
  exact places

/-- The dot in front of the name of a class leads out of the output directory. -/
theorem dotted_name_leaves_output_directory :
    let foo : ClassDecl := ⟨".tmp.Foo", .ordinary, none, ["public"], []⟩
    let world : World State := ⟨⟨["w"], [(["w"], .directory)]⟩, .empty, .start defaultSuffix .never⟩
    let after := (left (startClass .default foo (.outside (.ofText "out")) world)).files
    foo.name ≠ "" ∧ '/' ∉ world.own.suffix.toList ∧
    world.files.node? ["tmp"] = none ∧ (after.node? ["tmp"]).map Node.isDirectory = some true ∧
    world.files.node? ["tmp", "FooWrapper.java"] = none ∧
    after.file? ["tmp", "FooWrapper.java"] = some .empty ∧
    (after.resolve "out").toOption.isNone ∧
    (after.resolve ".").toOption.map Prod.fst = some ["w"] := by
  intro foo world after
  refine ⟨by decide, by decide, by decide +kernel, by decide +kernel, by decide +kernel,
    by decide +kernel, by decide +kernel, by decide +kernel⟩

end Delegate

end DelegateClasses
