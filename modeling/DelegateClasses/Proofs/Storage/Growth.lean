import DelegateClasses.Proofs.Entries
import DelegateClasses.Proofs.Steps
import DelegateClasses.Storage.Tree

/-! What accesses by path leave of a tree. Directories are only added, a file is
emptied by the access that opens it and filled by the one that writes to it, and
all other files keep their content. Main statement: a path that led to a file
leads to the same file from then on, so what it reads is what was last done at
this place. -/
namespace DelegateClasses

/-- What a node holds, if it is a file. -/
def Node.content? : Node → Option ByteArray
  | .directory => none
  | .file content => some content

namespace FileTree
open Steps

variable {tree before middle after : FileTree} {path : String}
variable {place other : List String} {places more : List (List String)}

/-- The content of the file at a place, if there is one. -/
def file? (tree : FileTree) (place : List String) : Option ByteArray :=
  (tree.node? place).bind Node.content?

/-- From one tree to the other nothing was taken away, and no file was made or
changed but those at some places. -/
structure Touches (places : List (List String)) (before after : FileTree) : Prop where
  workingDirectory : after.workingDirectory = before.workingDirectory
  /-- What stands at a place stays there, a directory as a directory. -/
  kept : ∀ place node, before.node? place = some node →
    ∃ now, after.node? place = some now ∧ now.isDirectory = node.isDirectory
  others : ∀ place, place ∉ places → after.file? place = before.file? place

theorem touches_refl (tree : FileTree) : Touches [] tree tree :=
  ⟨rfl, fun _ node stands => ⟨node, stands, rfl⟩, fun _ _ => rfl⟩

theorem touches_trans (first : Touches places before middle) (second : Touches more middle after) :
    Touches (places ++ more) before after where
  workingDirectory := second.workingDirectory.trans first.workingDirectory
  kept := by
    intro place node stands
    obtain ⟨between, found, same⟩ := first.kept place node stands
    obtain ⟨now, still, kind⟩ := second.kept place between found
    exact ⟨now, still, kind.trans same⟩
  others := by
    intro place outside
    rw [List.mem_append, not_or] at outside
    rw [second.others place outside.2, first.others place outside.1]

theorem touches_mono (touches : Touches places before after) (within : places ⊆ more) :
    Touches more before after :=
  ⟨touches.workingDirectory, touches.kept,
    fun place outside => touches.others place fun member => outside (within member)⟩

/-! ## Putting a node at a place -/

/-- A node that is put at a place is found there, and nothing else changes. -/
theorem node?_set (inner : place ≠ []) (node : Node) :
    (tree.set place node).node? other = if other = place then some node else tree.node? other := by
  by_cases root : other = []
  · subst root
    rw [if_neg (Ne.symm inner), node?, node?, if_pos rfl, if_pos rfl]
  rw [node?, if_neg root, node?, if_neg root, set]
  split
  · next there =>
    rw [Entries.lookup_replaced]
    split
    · obtain ⟨old, found⟩ := Option.isSome_iff_exists.1 there
      rw [found, Option.map_some]
    · rfl
  · next absent =>
    rw [Option.not_isSome_iff_eq_none] at absent
    rw [List.lookup_append, Entries.lookup_pair_cons]
    by_cases same : other = place
    · subst same
      simp [absent]
    · simp [same]

private theorem file?_set (inner : place ≠ []) (content : ByteArray) :
    (tree.set place (.file content)).file? other =
      if other = place then some content else tree.file? other := by
  by_cases same : other = place <;> simp [file?, node?_set inner, same, Node.content?]

/-- A place that was free or held a node of the same kind can be given a node. -/
theorem touches_set (inner : place ≠ []) {node : Node}
    (fits : ∀ old, tree.node? place = some old → node.isDirectory = old.isDirectory)
    (files : ∀ other, other ∉ places →
      (tree.set place node).file? other = tree.file? other) :
    Touches places tree (tree.set place node) where
  workingDirectory := by
    rw [set]
    split <;> rfl
  kept := by
    intro other old stands
    rw [node?_set inner]
    by_cases same : other = place
    · subst same
      exact ⟨node, if_pos rfl, fits old stands⟩
    · exact ⟨old, by rw [if_neg same, stands], rfl⟩
  others := files

private theorem touches_set_file (inner : place ≠ []) (content : ByteArray)
    (fits : tree.node? place ≠ some .directory) :
    Touches [place] tree (tree.set place (.file content)) := by
  refine touches_set inner (fun old stands => ?_) fun other outside => ?_
  · cases old with
    | directory => exact absurd stands fits
    | file old => rfl
  · rw [file?_set inner, if_neg (by simpa using outside)]

private theorem touches_set_directory (inner : place ≠ []) (free : tree.node? place = none) :
    Touches [] tree (tree.set place .directory) := by
  refine touches_set inner (fun old stands => ?_) fun other _ => ?_
  · rw [free] at stands
    cases stands
  · by_cases same : other = place <;> simp [file?, node?_set inner, same, free, Node.content?]

/-! ## Following a path -/

/-- A component that could be followed can be followed to the same place later. -/
theorem step_touches (touches : Touches places before after) {current now : List String × Node}
    {target : List String × Node} {component : String}
    (start : now.1 = current.1 ∧ now.2.isDirectory = current.2.isDirectory)
    (followed : before.step current component = .ok target) :
    ∃ later, after.step now component = .ok later ∧
      later.1 = target.1 ∧ later.2.isDirectory = target.2.isDirectory := by
  obtain ⟨place, node⟩ := current
  obtain ⟨_, other⟩ := now
  obtain ⟨rfl, kind⟩ := start
  cases node with
  | file content => cases followed
  | directory =>
    cases other with
    | file content => cases kind
    | directory =>
      simp only [step] at followed ⊢
      split at followed
      · next dot =>
        cases followed
        exact ⟨_, if_pos dot, rfl, rfl⟩
      · next word =>
        rw [if_neg word]
        split at followed
        · next up =>
          cases followed
          exact ⟨_, if_pos up, rfl, rfl⟩
        · next down =>
          rw [if_neg down]
          split at followed
          · cases followed
          · next short =>
            rw [if_neg short]
            split at followed
            · cases followed
            · next node stands =>
              cases followed
              obtain ⟨now, found, same⟩ := touches.kept _ node stands
              rw [found]
              exact ⟨_, rfl, rfl, same⟩

theorem steps_touch (touches : Touches places before after) (components : List String)
    {current now target : List String × Node}
    (start : now.1 = current.1 ∧ now.2.isDirectory = current.2.isDirectory)
    (followed : components.foldlM before.step current = .ok target) :
    ∃ later, components.foldlM after.step now = .ok later ∧
      later.1 = target.1 ∧ later.2.isDirectory = target.2.isDirectory := by
  induction components generalizing current now with
  | nil =>
    cases followed
    exact ⟨now, rfl, start⟩
  | cons component components ih =>
    rw [List.foldlM_cons] at followed ⊢
    obtain ⟨next, first, rest⟩ := except_bind_eq_ok followed
    obtain ⟨later, again, same⟩ := step_touches touches start first
    rw [again]
    exact ih same rest

/-- A path that leads somewhere leads to the same place later. -/
theorem resolve_touches (touches : Touches places before after) {target : List String × Node}
    (found : before.resolve path = .ok target) :
    ∃ later, after.resolve path = .ok later ∧
      later.1 = target.1 ∧ later.2.isDirectory = target.2.isDirectory := by
  rw [resolve] at found ⊢
  obtain ⟨⟨⟩, proper, followed⟩ := except_bind_eq_ok found
  rw [proper]
  have origin : after.origin path = before.origin path := by
    rw [origin, origin, touches.workingDirectory]
  rw [origin]
  exact steps_touch touches _ ⟨rfl, rfl⟩ followed

/-- A path that leads to a directory leads to the same directory later. -/
theorem resolve_directory (touches : Touches places before after)
    (found : before.resolve path = .ok (place, .directory)) :
    after.resolve path = .ok (place, .directory) := by
  obtain ⟨⟨_, node⟩, again, rfl, kind⟩ := resolve_touches touches found
  cases node with
  | directory => exact again
  | file content => cases kind

/-- What a path leads to, if it is a file, is the file that stands there. -/
theorem file?_of_resolve {content : ByteArray}
    (found : tree.resolve path = .ok (place, .file content)) : tree.file? place = some content := by
  have follow : ∀ (components : List String) (current : List String × Node),
      (∀ content, current.2 = .file content → tree.file? current.1 = some content) →
      components.foldlM tree.step current = .ok (place, .file content) →
      tree.file? place = some content := by
    intro components
    induction components with
    | nil =>
      intro current holds followed
      cases followed
      exact holds content rfl
    | cons component components ih =>
      intro current _ followed
      rw [List.foldlM_cons] at followed
      obtain ⟨next, first, rest⟩ := except_bind_eq_ok followed
      refine ih next (fun content file => ?_) rest
      simp only [step] at first
      split at first
      · cases first
      · next directory =>
        split at first
        · cases first
          rw [directory] at file
          cases file
        · split at first
          · cases first
            cases file
          · split at first
            · cases first
            · split at first
              · cases first
              · next node stands =>
                cases first
                obtain rfl : node = .file content := file
                rw [file?, stands, Option.bind_some, Node.content?]
  rw [resolve] at found
  obtain ⟨⟨⟩, -, followed⟩ := except_bind_eq_ok found
  refine follow _ _ (fun content file => ?_) followed
  cases file

theorem read_eq_ok {content : ByteArray} (read : tree.read path = .ok content) :
    ∃ place, tree.resolve path = .ok (place, .file content) := by
  rw [FileTree.read] at read
  split at read
  · cases read
  · cases read
  · next place _ found =>
    cases read
    exact ⟨place, found⟩

/-- A path that leads to a file reads what stands at the same place later. -/
theorem read_touches (touches : Touches places before after) {content : ByteArray}
    (found : before.resolve path = .ok (place, .file content)) :
    ∃ now, after.resolve path = .ok (place, .file now) ∧ after.file? place = some now ∧
      after.read path = .ok now := by
  obtain ⟨⟨_, node⟩, again, rfl, kind⟩ := resolve_touches touches found
  cases node with
  | directory => cases kind
  | file now => exact ⟨now, again, file?_of_resolve again, by rw [read, again]⟩

/-- A path that leads to a file that was not touched leads to the same file, with
the same content. -/
theorem resolve_untouched (touches : Touches places before after) {content : ByteArray}
    (found : before.resolve path = .ok (place, .file content)) (outside : place ∉ places) :
    after.resolve path = .ok (place, .file content) := by
  obtain ⟨now, again, stands, -⟩ := read_touches touches found
  rw [touches.others place outside, file?_of_resolve found] at stands
  rw [again, ← Option.some.inj stands]

/-! ## Naming a place -/

/-- A path names a place in a directory, and is followed to it once a node is there. -/
theorem locate_eq_ok {directory : List String} {name : String}
    (located : tree.locate path = .ok (directory, some name)) :
    ∃ names, checkText path = .ok () ∧ route path = names ++ [name] ∧
      names.foldlM tree.step (tree.origin path) = .ok (directory, .directory) ∧
      name ≠ "." ∧ name ≠ ".." ∧ ¬ name.utf8ByteSize > nameLimit := by
  rw [locate] at located
  obtain ⟨⟨⟩, proper, rest⟩ := except_bind_eq_ok located
  simp only at rest
  cases ends : (route path).getLast? with
  | none =>
    rw [ends] at rest
    cases rest
  | some last =>
    obtain ⟨names, parts⟩ := List.getLast?_eq_some_iff.1 ends
    rw [ends, parts, List.dropLast_concat] at rest
    obtain ⟨⟨above, node⟩, followed, rest⟩ := except_bind_eq_ok rest
    cases node with
    | file content => cases rest
    | directory =>
      simp only at rest
      split at rest
      · cases rest
      · next word =>
        simp only [Bool.or_eq_true, decide_eq_true_eq, not_or] at word
        split at rest
        · cases rest
        · next short =>
          cases rest
          exact ⟨names, proper, parts, followed, word.1, word.2, short⟩

private theorem step_to {directory : List String} {name : String} {node : Node} (here : name ≠ ".")
    (up : name ≠ "..") (short : ¬ name.utf8ByteSize > nameLimit)
    (stands : tree.node? (directory ++ [name]) = some node) :
    tree.step (directory, .directory) name = .ok (directory ++ [name], node) := by
  simp only [step, if_neg here, if_neg up, if_neg short, stands]

/-- A path that names a place leads to what is put there. -/
theorem resolve_located {directory : List String} {name : String} {node : Node}
    (located : tree.locate path = .ok (directory, some name))
    (touches : Touches places tree (tree.set (directory ++ [name]) node)) :
    (tree.set (directory ++ [name]) node).resolve path = .ok (directory ++ [name], node) := by
  obtain ⟨names, proper, parts, followed, here, up, short⟩ := locate_eq_ok located
  have stands : (tree.set (directory ++ [name]) node).node? (directory ++ [name]) = some node := by
    rw [node?_set (by simp), if_pos rfl]
  obtain ⟨⟨above, reached⟩, again, same, kind⟩ := steps_touch touches names ⟨rfl, rfl⟩ followed
  obtain rfl : above = directory := same
  cases reached with
  | file content => cases kind
  | directory =>
    have origin : (tree.set (above ++ [name]) node).origin path = tree.origin path := by
      rw [FileTree.origin, FileTree.origin, touches.workingDirectory]
    rw [resolve, proper, parts, origin]
    calc (names ++ [name]).foldlM (tree.set (above ++ [name]) node).step (tree.origin path)
        = (tree.set (above ++ [name]) node).step (above, .directory) name := by
          rw [List.foldlM_append, again]
          exact bind_pure (FileTree.step _ (above, .directory) name)
      _ = .ok (above ++ [name], node) := step_to here up short stands

/-! ## Making directories -/

/-- A directory is made where nothing is yet. -/
theorem makeDirectory_eq_ok (made : tree.makeDirectory path = .ok after) :
    ∃ above name, tree.locate path = .ok (above, some name) ∧
      tree.node? (above ++ [name]) = none ∧ after = tree.set (above ++ [name]) .directory := by
  rw [makeDirectory] at made
  obtain ⟨⟨above, name?⟩, located, rest⟩ := except_bind_eq_ok made
  cases name? with
  | none => cases rest
  | some name =>
    simp only at rest
    split at rest
    · cases rest
    · next free =>
      cases rest
      exact ⟨above, name, located, Option.not_isSome_iff_eq_none.1 free, rfl⟩

private theorem makeDirectory_touches (made : tree.makeDirectory path = .ok after) :
    Touches [] tree after := by
  obtain ⟨above, name, -, free, rfl⟩ := makeDirectory_eq_ok made
  exact touches_set_directory (by simp) free

private theorem ensureDirectory_touches (tree : FileTree) (path : String) :
    Touches [] tree (tree.ensureDirectory path).2 := by
  rw [ensureDirectory]
  split
  · next made => exact makeDirectory_touches made
  · split <;> exact touches_refl tree

theorem ensureUpwards_touches (root : String) (parts : List String) (tree : FileTree) :
    Touches [] tree (ensureUpwards root parts tree).2 := by
  induction parts with
  | nil => exact ensureDirectory_touches tree _
  | cons part above ih =>
    rw [ensureUpwards]
    split
    · split
      · next later made =>
        rw [made] at ih
        exact touches_trans ih (ensureDirectory_touches later _)
      · exact ih
    · exact ensureDirectory_touches tree _

theorem ensureDirectories_touches (tree : FileTree) (path : Path) :
    Touches [] tree (tree.ensureDirectories path).2 :=
  ensureUpwards_touches _ _ tree

/-- A directory that is made stands where its path leads. -/
theorem ensureDirectory_changes
    (changed : (tree.ensureDirectory path).2.node? other ≠ tree.node? other) :
    (tree.ensureDirectory path).2.resolve path = .ok (other, .directory) := by
  have touches := ensureDirectory_touches tree path
  rw [ensureDirectory] at changed touches ⊢
  split at changed
  · next made =>
    rw [made] at touches
    obtain ⟨above, name, located, -, rfl⟩ := makeDirectory_eq_ok made
    rw [node?_set (by simp)] at changed
    split at changed
    · next same =>
      subst same
      exact resolve_located located touches
    · exact absurd rfl changed
  · split at changed <;> exact absurd rfl changed

/-- Every directory that is made for a path stands where the path or one above it leads. -/
theorem ensureUpwards_changes {root : String} {parts : List String}
    (changed : (ensureUpwards root parts tree).2.node? other ≠ tree.node? other) :
    ∃ above, above <:+ parts ∧ (ensureUpwards root parts tree).2.resolve
      (Path.text ⟨root, above.reverse⟩) = .ok (other, .directory) := by
  induction parts with
  | nil => exact ⟨[], List.suffix_refl _, ensureDirectory_changes changed⟩
  | cons part above ih =>
    rw [ensureUpwards] at changed ⊢
    split
    · next missing =>
      rw [missing] at changed
      simp only at changed ⊢
      split
      · next middle made =>
        rw [made] at changed ih
        by_cases earlier : middle.node? other = tree.node? other
        · rw [← earlier] at changed
          exact ⟨_, List.suffix_refl _, ensureDirectory_changes changed⟩
        · obtain ⟨shorter, within, leads⟩ := ih earlier
          exact ⟨shorter, within.trans (List.suffix_cons _ _),
            resolve_directory (ensureDirectory_touches middle _) leads⟩
      · next failed =>
        split at changed
        · next ended => exact absurd ended (failed _)
        · obtain ⟨shorter, within, leads⟩ := ih changed
          exact ⟨shorter, within.trans (List.suffix_cons _ _), leads⟩
    · next other =>
      split at changed
      · next missing => exact absurd missing other
      · exact ⟨_, List.suffix_refl _, ensureDirectory_changes changed⟩

/-! ## Files -/

/-- A file is opened where no directory is. -/
theorem create_eq_ok (opened : tree.create path = .ok (place, after)) :
    ∃ above name, tree.locate path = .ok (above, some name) ∧ place = above ++ [name] ∧
      tree.node? place ≠ some .directory ∧ after = tree.set place (.file .empty) := by
  rw [create] at opened
  split at opened
  · cases opened
  · cases opened
  · next above name located =>
    split at opened
    · cases opened
    · next free =>
      cases opened
      exact ⟨above, name, located, rfl, free, rfl⟩

/-- A file that is opened is empty, its path leads to it, and no other file changes. -/
theorem create_touches (opened : tree.create path = .ok (place, after)) :
    Touches [place] tree after ∧ after.resolve path = .ok (place, .file .empty) := by
  obtain ⟨above, name, located, rfl, free, rfl⟩ := create_eq_ok opened
  have touches := touches_set_file (by simp) .empty free
  exact ⟨touches, resolve_located located touches⟩

/-- Nothing changes where no file is opened. -/
theorem create_changes (opened : tree.create path = .ok (place, after))
    (changed : after.node? other ≠ tree.node? other) : other = place := by
  obtain ⟨above, name, -, rfl, -, rfl⟩ := create_eq_ok opened
  rw [node?_set (by simp)] at changed
  by_cases here : other = above ++ [name]
  · exact here
  · exact absurd (if_neg here) changed

/-- Writing to an empty file puts the text in its place. -/
theorem overwrite_empty (empty : tree.node? place = some (.file .empty)) (text : ByteArray) :
    tree.overwrite place text = tree.set place (.file text) := by
  have rest : text ++ ByteArray.empty.extract text.size ByteArray.empty.size = text := by
    rw [ByteArray.extract_eq_empty_iff.2 (Nat.le_trans (Nat.min_le_right _ _) (Nat.zero_le _)),
      ByteArray.append_empty]
  simp only [overwrite, empty, rest]

/-- Writing to an empty file fills it with the text, and no other file changes. -/
theorem overwrite_touches (empty : tree.file? place = some .empty) (text : ByteArray) :
    Touches [place] tree (tree.overwrite place text) ∧
      (tree.overwrite place text).file? place = some text := by
  obtain ⟨node, stands, content⟩ := Option.bind_eq_some_iff.1 empty
  cases node with
  | directory => cases content
  | file old =>
    obtain rfl : old = .empty := Option.some.inj content
    have inner : place ≠ [] := by
      rintro rfl
      cases stands
    rw [overwrite_empty stands]
    refine ⟨touches_set_file inner text ?_, by rw [file?_set inner, if_pos rfl]⟩
    rw [stands]
    simp

end FileTree

end DelegateClasses
