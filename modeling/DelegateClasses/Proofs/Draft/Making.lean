import DelegateClasses.Draft.Placed
import DelegateClasses.Proofs.Storage.Nameable
import DelegateClasses.Proofs.Storage.Patches

/-! The making of the file of a generated class, with the directories above it. Which
directories are made and why the file may be refused is decided by the files that
stand on the way to its place; the directories that are there already do not matter.
Main statement: the fate of a file, told in advance, is what becomes of it. -/
namespace DelegateClasses

/-- A file below a directory that a path leads to: the components of the path, the
place that they lead to, the directories below it, and the name of the file. -/
structure Site where
  root : String
  known : List String
  place : List String
  names : List String
  file : String

namespace Site
open FileTree Steps

variable {tree after : FileTree} {site : Site} {place front : List String}
variable {error? : Option FileError}
variable {error : FileError} {className : String}

/-- The path of the directory that holds the file. -/
def directory (site : Site) : Path :=
  ⟨site.root, site.known ++ site.names⟩

/-- The path of the file. -/
def path (site : Site) : Path :=
  ⟨site.root, site.known ++ (site.names ++ [site.file])⟩

/-- The place of the file. -/
def target (site : Site) : List String :=
  site.place ++ (site.names ++ [site.file])

/-- The known components lead to the place, and the names lead down from there. -/
structure Ready (tree : FileTree) (site : Site) : Prop where
  /-- A file that stands in the way stands in directories. -/
  backed : ∀ front name content, front ++ [name] <+: site.names →
    tree.file? (site.place ++ (front ++ [name])) = some content →
    ∀ other, OnWay site.place (site.place ++ front) other → tree.node? other = some .directory
  normal : site.path.Normal
  downward : Downward (site.names ++ [site.file])
  leads : tree.follow (tree.base site.root) site.known = .ok (site.place, .directory)

/-- The fate of a file: the names of the directories that are made, and the error, if
there is one. An error about a name that is too long may name another directory. -/
inductive Fated (tree : FileTree) (site : Site) : List String → Option FileError → Prop where
  | unfit {fault : Fault} (refused : checkText site.directory.text = .error fault) :
      Fated tree site [] (some ⟨fault, site.directory.text⟩)
  | long {front rest : List String} {name : String}
      (fits : checkText site.directory.text = .ok ()) (parts : site.names = front ++ name :: rest)
      (clear : tree.Clear site.place front) (long : nameLimit < name.utf8ByteSize) :
      Fated tree site front (some ⟨.nameTooLong, site.directory.text⟩)
  | barred {front rest : List String} {name : String} {content : ByteArray}
      (fits : checkText site.directory.text = .ok ()) (parts : site.names = front ++ name :: rest)
      (clear : tree.Clear site.place front) (short : name.utf8ByteSize ≤ nameLimit)
      (stands : tree.file? (site.place ++ (front ++ [name])) = some content) :
      Fated tree site front (some ⟨barred rest, site.directory.text⟩)
  | unopened {fault : Fault} (fits : checkText site.directory.text = .ok ())
      (clear : tree.Clear site.place site.names) (refused : checkText site.path.text = .error fault) :
      Fated tree site site.names (some ⟨fault, site.path.text⟩)
  | overlong (fits : checkText site.path.text = .ok ()) (clear : tree.Clear site.place site.names)
      (long : nameLimit < site.file.utf8ByteSize) :
      Fated tree site site.names (some ⟨.nameTooLong, site.path.text⟩)
  | taken (fits : checkText site.path.text = .ok ()) (clear : tree.Clear site.place site.names)
      (short : site.file.utf8ByteSize ≤ nameLimit)
      (stands : tree.node? site.target = some .directory) :
      Fated tree site site.names (some ⟨.isDirectory, site.path.text⟩)
  | opened (fits : checkText site.path.text = .ok ()) (clear : tree.Clear site.place site.names)
      (short : site.file.utf8ByteSize ≤ nameLimit)
      (free : tree.node? site.target ≠ some .directory) : Fated tree site site.names none

/-- Directories can be made up to a first name that is too long or that of a file. -/
private theorem clear_or_obstacle (tree : FileTree) (place names : List String) :
    tree.Clear place names ∨ ∃ front name rest, names = front ++ name :: rest ∧
      tree.Clear place front ∧ ¬ tree.Passable (place ++ front) name := by
  induction names using List.reverseRecOn with
  | nil => exact .inl fun front name within => by simpa using within.length_le
  | append_singleton names last ih =>
    rcases ih with clear | ⟨front, name, rest, rfl, clear, obstacle⟩
    · by_cases passable : tree.Passable (place ++ names) last
      · exact .inl (clear_concat.2 ⟨clear, passable⟩)
      · exact .inr ⟨names, last, [], rfl, clear, passable⟩
    · exact .inr ⟨front, name, rest ++ [last], by simp, clear, obstacle⟩

/-- Every file has a fate. -/
theorem exists_fated (tree : FileTree) (site : Site) :
    ∃ front error?, Fated tree site front error? := by
  cases fits : checkText site.directory.text with
  | error fault => exact ⟨_, _, .unfit fits⟩
  | ok value =>
    rcases clear_or_obstacle tree site.place site.names with
      clear | ⟨front, name, rest, parts, clear, obstacle⟩
    · cases opens : checkText site.path.text with
      | error fault => exact ⟨_, _, .unopened fits clear opens⟩
      | ok value =>
        by_cases long : nameLimit < site.file.utf8ByteSize
        · exact ⟨_, _, .overlong opens clear long⟩
        · by_cases stands : tree.node? site.target = some .directory
          · exact ⟨_, _, .taken opens clear (Nat.not_lt.1 long) stands⟩
          · exact ⟨_, _, .opened opens clear (Nat.not_lt.1 long) stands⟩
    · by_cases long : nameLimit < name.utf8ByteSize
      · exact ⟨_, _, .long fits parts clear long⟩
      · cases stands : tree.file? (site.place ++ (front ++ [name])) with
        | none =>
          rw [← List.append_assoc] at stands
          exact absurd ⟨Nat.not_lt.1 long, stands⟩ obstacle
        | some content => exact ⟨_, _, .barred fits parts clear (Nat.not_lt.1 long) stands⟩

/-- The trees hold files at the same places on the way to the file, and a directory in
its place or not. -/
structure Alike (site : Site) (tree other : FileTree) : Prop where
  above : ∀ place, OnWay site.place (site.place ++ site.names) place →
    (other.file? place).isSome = (tree.file? place).isSome
  target : other.node? site.target = some .directory ↔ tree.node? site.target = some .directory

private theorem clear_alike (alike : site.Alike tree after) (within : front <+: site.names)
    (clear : tree.Clear site.place front) : after.Clear site.place front := by
  intro before name prior
  have passable := clear before name prior
  obtain ⟨rest, same⟩ := prior.trans within
  have onWay : OnWay site.place (site.place ++ site.names) (site.place ++ before ++ [name]) := by
    refine ⟨⟨before ++ [name], by simp⟩, by simp, ⟨rest, ?_⟩⟩
    rw [← same]
    simp
  refine ⟨passable.short, ?_⟩
  have files := alike.above _ onWay
  rw [passable.free] at files
  simpa using files

/-- The fate of a file is the same in trees that are alike. -/
theorem fated_alike (fated : Fated tree site front error?) (alike : site.Alike tree after) :
    Fated after site front error? := by
  cases fated with
  | unfit refused => exact .unfit refused
  | long fits parts clear long =>
    exact .long fits parts (clear_alike alike ⟨_, parts.symm⟩ clear) long
  | @barred front rest name content fits parts clear short stands =>
    have onWay : OnWay site.place (site.place ++ site.names) (site.place ++ (front ++ [name])) := by
      refine ⟨⟨_, rfl⟩, by simp, ⟨rest, ?_⟩⟩
      rw [parts]
      simp
    have files := alike.above _ onWay
    rw [stands, Option.isSome_some] at files
    obtain ⟨content, now⟩ := Option.isSome_iff_exists.1 files
    exact .barred fits parts (clear_alike alike ⟨_, parts.symm⟩ clear) short now
  | unopened fits clear refused =>
    exact .unopened fits (clear_alike alike (List.prefix_refl _) clear) refused
  | overlong fits clear long =>
    exact .overlong fits (clear_alike alike (List.prefix_refl _) clear) long
  | taken fits clear short stands =>
    exact .taken fits (clear_alike alike (List.prefix_refl _) clear) short (alike.target.2 stands)
  | opened fits clear short free =>
    exact .opened fits (clear_alike alike (List.prefix_refl _) clear) short
      fun stands => free (alike.target.1 stands)

/-! ## What is made -/

/-- Directories are made on the way to the file. -/
def way (site : Site) (front : List String) : Patch := fun place =>
  if OnWay site.place (site.place ++ front) place then some .directory else none

/-- The file is made, with the directories above it. -/
def filled (site : Site) (content : ByteArray) : Patch := fun place =>
  if place = site.target then some (.file content) else site.way site.names place

/-- No file stands on a way without an obstacle. -/
private theorem clear_way (clear : tree.Clear place front) {other : List String}
    (onWay : OnWay place (place ++ front) other) : tree.file? other = none := by
  obtain ⟨⟨names, rfl⟩, apart, within⟩ := onWay
  have inside := (List.prefix_append_right_inj _).1 within
  induction names using List.reverseRecOn with
  | nil => simp at apart
  | append_singleton names name =>
    rw [← List.append_assoc]
    exact (clear names name inside).free

private theorem kind_of_no_file {place : List String} {old : Node} (free : tree.file? place = none)
    (stands : tree.node? place = some old) : old.isDirectory = true := by
  rcases node?_of_no_file free with none | directory
  · cases none.symm.trans stands
  · cases directory.symm.trans stands
    rfl

private theorem patched_of_made (clear : tree.Clear site.place front)
    (made : Made site.place (site.place ++ front) tree after) : Patched (site.way front) tree after where
  workingDirectory := made.workingDirectory
  nodes := by
    intro other
    rw [made.nodes, way]
    split <;> rfl
  kinds := by
    intro other node old put stands
    rw [way] at put
    split at put
    · next onWay =>
      cases put
      exact (kind_of_no_file (clear_way clear onWay) stands).symm
    · cases put

theorem prefix_target (site : Site) (within : front <+: site.names) :
    site.place ++ front <+: site.target :=
  (List.prefix_append_right_inj _).2 (within.trans (List.prefix_append _ _))

theorem ends_way (within : front <+: site.names) : (site.way front).Ends (some site.target) := by
  intro other node put
  rw [way] at put
  split at put
  · next onWay =>
    cases put
    exact ⟨_, rfl, onWay.2.2.trans (site.prefix_target within), fun _ => rfl⟩
  · cases put

theorem ends_filled (site : Site) (content : ByteArray) :
    (site.filled content).Ends (some site.target) := by
  intro other node put
  rw [filled] at put
  split at put
  · next here =>
    cases put
    rw [here]
    exact ⟨_, rfl, List.prefix_refl _, fun apart => absurd rfl apart⟩
  · exact ends_way (List.prefix_refl _) other node put

/-- The directories that are made lie on the way to the file. -/
theorem fated_within (fated : Fated tree site front error?) : front <+: site.names := by
  cases fated with
  | unfit refused => exact List.nil_prefix
  | long fits parts clear long => exact ⟨_, parts.symm⟩
  | barred fits parts clear short stands => exact ⟨_, parts.symm⟩
  | unopened fits clear refused => exact List.prefix_refl _
  | overlong fits clear long => exact List.prefix_refl _
  | taken fits clear short stands => exact List.prefix_refl _
  | opened fits clear short free => exact List.prefix_refl _

theorem clear_nil (tree : FileTree) (place : List String) : tree.Clear place [] :=
  fun before name within => by simpa using within.length_le

private theorem mem_path_of_directory {part : String} (member : part ∈ site.directory.parts) :
    part ∈ site.path.parts := by
  rw [path, ← List.append_assoc]
  exact List.mem_append_left _ member

private theorem normal_directory (ready : site.Ready tree) : site.directory.Normal :=
  ⟨ready.normal.root, fun part member => ready.normal.parts part (mem_path_of_directory member)⟩

/-- The directories above the file can be made as the names say. -/
theorem under_of_ready (ready : site.Ready tree) (fits : checkText site.directory.text = .ok ()) :
    tree.Under site.root site.known site.place site.names where
  normal := normal_directory ready
  downward := (downward_concat ready.downward).1
  leads := ready.leads
  fits := fits

private theorem fits_directory (ready : site.Ready tree)
    (fits : checkText site.path.text = .ok ()) :
    checkText site.directory.text = .ok () := by
  have normal := ready.normal
  rw [path, ← List.append_assoc] at normal fits
  exact checkText_shorter normal fits

private theorem parent_path (site : Site) : site.path.parent = site.directory := by
  rw [path, Path.parent, ← List.append_assoc, List.dropLast_concat]
  rfl

private theorem ensureDirectories_path (tree : FileTree) (site : Site) :
    tree.ensureDirectories site.path.parent =
      ensureUpwards site.root (site.known ++ site.names).reverse tree := by
  rw [parent_path]
  rfl

/-- The place of the file is not on the way to the directory that holds it. -/
private theorem target_not_onWay (site : Site) {front : List String}
    (within : front <+: site.names) :
    ¬ OnWay site.place (site.place ++ front) site.target := by
  rintro ⟨-, -, below⟩
  have short := below.length_le
  have most := within.length_le
  rw [target] at short
  simp only [List.length_append, List.length_cons, List.length_nil] at short
  omega

/-- The name of the class that is begun in the file. -/
def classNameFor (site : Site) (className : String) : String :=
  if className = "" then PlacedDraft.classNameOf site.path.name else className

/-- All directories of a file are made, and then the file is refused or opened as its
text, its name and its place tell. -/
theorem create_clear (ready : site.Ready tree) (fits : checkText site.directory.text = .ok ())
    (clear : tree.Clear site.place site.names) :
    ∃ middle, Made site.place (site.place ++ site.names) tree middle ∧
      tree.ensureDirectories site.path.parent = (.ok (), middle) ∧
      middle.locate site.path.text = (checkText site.path.text >>= fun _ =>
        if nameLimit < site.file.utf8ByteSize then .error .nameTooLong
        else .ok (site.place ++ site.names, some site.file)) ∧
      middle.node? site.target = tree.node? site.target := by
  have under := under_of_ready ready fits
  obtain ⟨middle, ensured, made⟩ := ensureUpwards_clear under clear
  rw [← ensureDirectories_path] at ensured
  refine ⟨middle, made, ensured, ?_, ?_⟩
  · have touches := tree.ensureDirectories_touches site.path.parent
    rw [ensured] at touches
    have reached := follow_there under.downward (clear_short clear)
      fun other onWay => show middle.node? other = some .directory by
        rw [made.nodes, if_pos onWay]
    obtain ⟨-, here, up⟩ := downward_concat ready.downward
    have normal := ready.normal
    rw [path, ← List.append_assoc] at normal ⊢
    rw [locate_text normal, follow_under (under_touches under touches), reached]
    congr 1
    funext fit
    exact if_neg (by simp [here, up])
  · rw [made.nodes, if_neg (target_not_onWay site (List.prefix_refl _))]

/-- A file whose directory has a name that is too long is refused, with an error that names
one of the directories above it. -/
theorem create_long {name : String} {rest : List String} (ready : site.Ready tree)
    (fits : checkText site.directory.text = .ok ()) (parts : site.names = front ++ name :: rest)
    (clear : tree.Clear site.place front) (long : nameLimit < name.utf8ByteSize) :
    ∃ path after, PlacedDraft.create tree site.path className =
        (.error (.outputUnavailable site.path ⟨.nameTooLong, path⟩), after) ∧
      Patched (site.way front) tree after ∧
      Blamed tree site.root site.known site.place front name rest path := by
  have under := under_of_ready ready fits
  rw [parts] at under
  obtain ⟨path, after, ensured, made, blamed⟩ := ensureUpwards_long under clear long
  rw [PlacedDraft.create, ensureDirectories_path, parts, ensured]
  exact ⟨path, after, rfl, patched_of_made clear made, blamed⟩

/-- A file that is fated to be refused is refused for this reason. -/
theorem create_refused (ready : site.Ready tree) (fated : Fated tree site front (some error)) :
    ∃ path after, PlacedDraft.create tree site.path className =
        (.error (.ofAccess (.outputUnavailable site.path) ⟨error.fault, path⟩), after) ∧
      (error.fault = .nameTooLong ∨ path = error.path) ∧ Patched (site.way front) tree after := by
  cases fated with
  | unfit refused =>
    rw [PlacedDraft.create, ensureDirectories_path, ensureUpwards_unfit (normal_directory ready) refused]
    refine ⟨_, tree, rfl, .inr rfl, patched_of_made (clear_nil _ _) ?_⟩
    rw [List.append_nil]
    exact made_refl _ _
  | @long front rest name fits parts clear long =>
    obtain ⟨path, after, created, patched, -⟩ := create_long ready fits parts clear long
    exact ⟨path, after, created, .inl rfl, patched⟩
  | @barred front rest name content fits parts clear short stands =>
    have under := under_of_ready ready fits
    rw [parts] at under
    obtain ⟨node, there, filled⟩ := Option.bind_eq_some_iff.1 stands
    cases node with
    | directory => cases filled
    | file content =>
      have backed := ready.backed front name _ ⟨rest, by simp [parts]⟩ stands
      obtain ⟨ensured, made⟩ := ensureUpwards_file under clear short there backed
      rw [PlacedDraft.create, ensureDirectories_path, parts, ensured]
      refine ⟨_, tree, rfl, .inr ?_, patched_of_made clear made⟩
      rw [directory, parts]
  | unopened fits clear refused =>
    obtain ⟨middle, made, ensured, located, -⟩ := create_clear ready fits clear
    rw [refused] at located
    rw [PlacedDraft.create, ensured]
    simp only [FileTree.create, located]
    exact ⟨_, middle, rfl, .inr rfl, patched_of_made clear made⟩
  | overlong fits clear long =>
    obtain ⟨middle, made, ensured, located, -⟩ :=
      create_clear ready (fits_directory ready fits) clear
    rw [fits, if_pos long] at located
    rw [PlacedDraft.create, ensured]
    simp only [FileTree.create, located]
    exact ⟨_, middle, rfl, .inr rfl, patched_of_made clear made⟩
  | taken fits clear short stands =>
    obtain ⟨middle, made, ensured, located, there⟩ :=
      create_clear ready (fits_directory ready fits) clear
    rw [stands, target, ← List.append_assoc] at there
    rw [fits, if_neg (Nat.not_lt.2 short)] at located
    rw [PlacedDraft.create, ensured]
    simp only [FileTree.create, located, bind, Except.bind, there]
    exact ⟨_, middle, rfl, .inr rfl, patched_of_made clear made⟩

/-- A file that is fated to be opened is opened, empty. -/
theorem create_opened (ready : site.Ready tree) (fated : Fated tree site front none) :
    ∃ after, PlacedDraft.create tree site.path className =
        (.ok ⟨site.path, site.target, .new (site.classNameFor className) (some .fresh)
          Imports.defaultAvailable⟩, after) ∧
      Patched (site.filled .empty) tree after := by
  cases fated with
  | opened fits clear short free =>
    obtain ⟨middle, made, ensured, located, there⟩ :=
      create_clear ready (fits_directory ready fits) clear
    have place : site.place ++ site.names ++ [site.file] = site.target := by
      rw [target, List.append_assoc]
    rw [fits, if_neg (Nat.not_lt.2 short)] at located
    have opened : middle.create site.path.text =
        .ok (site.target, middle.set site.target (.file .empty)) := by
      simp only [FileTree.create, located, bind, Except.bind, place]
      split
      · next stands => exact absurd (there.symm.trans stands) free
      · rfl
    rw [PlacedDraft.create, ensured]
    simp only [opened]
    have patched := patched_of_made clear made
    refine ⟨_, rfl, (workingDirectory_set _ _).trans made.workingDirectory, ?_, ?_⟩
    · intro other
      rw [node?_set (by simp [target]), filled, patched.nodes]
      split <;> rfl
    · intro other node old put stands
      rw [filled] at put
      split at put
      · next here =>
        cases put
        subst here
        cases old with
        | directory => exact absurd stands free
        | file content => rfl
      · exact patched.kinds other node old put stands

/-- What is written to the file is its content. -/
theorem patched_filled {before : FileTree} (patched : Patched (site.filled .empty) before tree)
    (text : ByteArray) : Patched (site.filled text) before (tree.overwrite site.target text) := by
  have empty : tree.node? site.target = some (.file .empty) := by
    rw [patched.nodes, filled, if_pos rfl, Option.some_or]
  rw [overwrite_empty empty]
  refine ⟨(workingDirectory_set _ _).trans patched.workingDirectory, ?_, ?_⟩
  · intro other
    rw [node?_set (by simp [target]), patched.nodes, filled, filled]
    split <;> rfl
  · intro other node old put stands
    by_cases here : other = site.target
    · have kind := patched.kinds other (.file .empty) old (by rw [filled, if_pos here]) stands
      rw [filled, if_pos here] at put
      cases put
      exact kind
    · have same : site.filled .empty other = site.filled text other := by
        rw [filled, filled, if_neg here, if_neg here]
      exact patched.kinds other node old (same.trans put) stands

/-! ## Names without null characters -/

/-- A file whose path holds no null character is refused for another reason. -/
theorem nameable_of_fated (ready : site.Ready tree)
    (nameable : ∀ part ∈ site.path.parts, Nameable part)
    (fated : Fated tree site front (some error)) : error.fault ≠ .unnameable := by
  cases fated with
  | unfit refused =>
    rintro rfl
    exact FileTree.checkText_nameable (Path.text_nameable (normal_directory ready)
      fun part member => nameable part (mem_path_of_directory member)) refused
  | long fits parts clear long => simp
  | @barred front rest name content fits parts clear short stands =>
    change barred rest ≠ _
    unfold barred
    split <;> simp
  | unopened fits clear refused =>
    rintro rfl
    exact FileTree.checkText_nameable (Path.text_nameable ready.normal nameable) refused
  | overlong fits clear long => simp
  | taken fits clear short stands => simp

end Site

end DelegateClasses
