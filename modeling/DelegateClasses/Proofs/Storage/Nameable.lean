import DelegateClasses.Failure
import DelegateClasses.Proofs.Steps
import DelegateClasses.Proofs.Storage.Paths
import DelegateClasses.Storage.Matching

/-! Paths without null characters. Only a null character makes a path that of nothing at
all, so other accesses fail for other reasons. Main statements: no access by such a path
fails because of the path's text, and what a pattern without null characters finds in a
tree without them holds none. -/
namespace DelegateClasses

/-- The text holds no null character. -/
abbrev Nameable (text : String) : Prop :=
  '\x00' ∉ text.toList

/-- Any other access that fails fails with what it was meant for. -/
theorem Failure.ofAccess_eq {failure : FileError → Failure} {fault : Fault} {path : String}
    (nameable : fault ≠ .unnameable) :
    Failure.ofAccess failure ⟨fault, path⟩ = failure ⟨fault, path⟩ := by
  rw [Failure.ofAccess]
  split
  · next same => exact absurd same nameable
  · rfl

namespace Path

/-- What a path's text gives consists of its characters. -/
theorem mem_of_mem_part {text part : String} {c : Char} (member : part ∈ (ofText text).parts)
    (inside : c ∈ part.toList) : c ∈ text.toList := by
  obtain ⟨among, -⟩ := List.mem_filter.1 member
  obtain ⟨piece, cut, rfl⟩ := List.mem_map.1 among
  rw [String.toList_ofList] at inside
  exact Text.mem_of_mem_splitOn (List.mem_filter.1 cut).1 inside

theorem mem_child {base : Path} {text part : String} (member : part ∈ (base.child text).parts) :
    part ∈ base.parts ∨ part ∈ (ofText text).parts := by
  rw [child, join] at member
  split at member
  · exact List.mem_append.1 member
  · exact .inr member

/-- The text of a path holds none if its components hold none. -/
theorem text_nameable {path : Path} (normal : path.Normal)
    (nameable : ∀ part ∈ path.parts, Nameable part) : Nameable path.text := by
  intro null
  by_cases inner : path.parts = []
  · obtain ⟨root, parts⟩ := path
    obtain rfl : parts = [] := inner
    revert null
    rcases normal.root with rfl | rfl | rfl <;> decide
  · rcases path.mem_of_mem_text normal inner null with slash | ⟨part, among, inside⟩
    · cases slash
    · exact nameable part among inside

private theorem part_nameable {text : String} (nameable : Nameable text) :
    ∀ part ∈ (ofText text).parts, Nameable part :=
  fun _ member null => nameable (mem_of_mem_part member null)

theorem text_ofText_nameable {text : String} (nameable : Nameable text) :
    Nameable (ofText text).text :=
  text_nameable (normal_ofText text) (part_nameable nameable)

theorem text_child_nameable {base text : String} (first : Nameable base)
    (second : Nameable text) : Nameable ((ofText base).child text).text := by
  apply text_nameable (normal_child (normal_ofText base) text)
  intro part member
  rcases mem_child member with above | below
  · exact part_nameable first part above
  · exact part_nameable second part below

end Path

namespace FileTree
open Steps

variable {tree : FileTree} {path root : String} {error : FileError}

/-! ## Accesses -/

theorem checkText_nameable (nameable : Nameable path) : checkText path ≠ .error .unnameable := by
  intro refused
  unfold checkText at refused
  split at refused
  · next null => exact nameable (by simpa using null)
  · split at refused
    · cases refused
    · split at refused <;> cases refused

private theorem step_nameable (current : List String × Node) (component : String) :
    tree.step current component ≠ .error .unnameable := by
  intro stopped
  unfold step at stopped
  split at stopped
  · cases stopped
  · split at stopped
    · cases stopped
    · split at stopped
      · cases stopped
      · split at stopped
        · cases stopped
        · simp only at stopped
          split at stopped <;> cases stopped

private theorem steps_nameable (components : List String) (current : List String × Node) :
    components.foldlM tree.step current ≠ .error .unnameable := by
  intro failed
  obtain ⟨-, component, -, state, -, -, stopped⟩ := foldlM_eq_error failed
  exact step_nameable state component stopped

private theorem resolve_nameable (nameable : Nameable path) :
    tree.resolve path ≠ .error .unnameable := by
  intro failed
  rw [resolve] at failed
  cases fits : checkText path with
  | error fault =>
    rw [fits] at failed
    cases failed
    exact checkText_nameable nameable fits
  | ok value =>
    rw [fits] at failed
    exact steps_nameable _ _ failed

theorem read_nameable (nameable : Nameable path) (refused : tree.read path = .error error) :
    error.fault ≠ .unnameable := by
  rw [FileTree.read] at refused
  split at refused
  · next failed =>
    cases refused
    rintro rfl
    exact resolve_nameable nameable failed
  · cases refused
    simp
  · cases refused

private theorem locate_nameable (nameable : Nameable path) :
    tree.locate path ≠ .error .unnameable := by
  intro failed
  rw [locate] at failed
  cases fits : checkText path with
  | error fault =>
    rw [fits] at failed
    cases failed
    exact checkText_nameable nameable fits
  | ok value =>
    rw [fits] at failed
    dsimp only at failed
    cases ending : (route path).getLast? with
    | none =>
      rw [ending] at failed
      cases failed
    | some last =>
      rw [ending] at failed
      cases reached : (route path).dropLast.foldlM tree.step (tree.origin path) with
      | error fault =>
        rw [reached] at failed
        cases failed
        exact steps_nameable _ _ reached
      | ok target =>
        obtain ⟨place, node⟩ := target
        rw [reached] at failed
        cases node with
        | file content => cases failed
        | directory =>
          change (if _ then _ else _) = _ at failed
          split at failed
          · cases failed
          · split at failed <;> cases failed

private theorem makeDirectory_nameable (nameable : Nameable path) :
    tree.makeDirectory path ≠ .error .unnameable := by
  intro failed
  rw [makeDirectory] at failed
  cases located : tree.locate path with
  | error fault =>
    rw [located] at failed
    cases failed
    exact locate_nameable nameable located
  | ok target =>
    obtain ⟨place, name?⟩ := target
    rw [located] at failed
    cases name? with
    | none => cases failed
    | some name =>
      change (if _ then _ else _) = _ at failed
      split at failed <;> cases failed

private theorem ensureDirectory_nameable (nameable : Nameable path)
    (refused : (tree.ensureDirectory path).1 = .error error) : error.fault ≠ .unnameable := by
  rw [ensureDirectory] at refused
  split at refused
  · cases refused
  · next failed =>
    split at refused
    · cases refused
    · cases refused
      rintro rfl
      exact makeDirectory_nameable nameable failed

theorem ensureUpwards_nameable {parts : List String} (normal : Path.Normal ⟨root, parts.reverse⟩)
    (nameable : ∀ part ∈ parts, Nameable part)
    (refused : (ensureUpwards root parts tree).1 = .error error) : error.fault ≠ .unnameable := by
  have itself : Nameable (Path.text ⟨root, parts.reverse⟩) :=
    Path.text_nameable normal fun part member => nameable part (List.mem_reverse.1 member)
  induction parts generalizing error with
  | nil => exact ensureDirectory_nameable itself refused
  | cons part above ih =>
    rw [ensureUpwards] at refused
    split at refused
    · split at refused
      · exact ensureDirectory_nameable itself refused
      · have higher : Path.Normal ⟨root, above.reverse⟩ := by
          refine ⟨normal.root, fun other member => normal.parts other ?_⟩
          rw [List.reverse_cons]
          exact List.mem_append_left _ member
        have others : ∀ other ∈ above, Nameable other := fun other member =>
          nameable other (List.mem_cons_of_mem _ member)
        exact ih higher others refused (Path.text_nameable higher fun other member =>
          others other (List.mem_reverse.1 member))
    · exact ensureDirectory_nameable itself refused

theorem create_nameable (nameable : Nameable path) (refused : tree.create path = .error error) :
    error.fault ≠ .unnameable := by
  rw [create] at refused
  split at refused
  · next failed =>
    cases refused
    rintro rfl
    exact locate_nameable nameable failed
  · cases refused
    simp
  · split at refused
    · cases refused
      simp
    · cases refused

/-! ## Patterns -/

/-- The names in the tree hold no null characters. -/
def NameableEntries (tree : FileTree) : Prop :=
  ∀ entry ∈ tree.entries, ∀ name ∈ entry.1, Nameable name

theorem joinText_nameable {base name : String} (first : Nameable base) (second : Nameable name) :
    Nameable (Path.joinText base name) := by
  unfold Path.joinText
  split
  · exact second
  · intro null
    split at null
    · rcases List.mem_append.1 (String.toList_append ▸ null) with front | back
      · exact first front
      · exact second back
    · rcases List.mem_append.1 (String.toList_append ▸ null) with front | back
      · rcases List.mem_append.1 (String.toList_append ▸ front) with front | slash
        · exact first front
        · revert slash
          decide
      · exact second back

private theorem joinNonEmpty_nameable {base name : String} (first : Nameable base)
    (second : Nameable name) : Nameable (joinNonEmpty base name) := by
  unfold joinNonEmpty
  split
  · exact second
  · split
    · exact first
    · exact joinText_nameable first second

/-- What holds of all names in the tree holds of the names in a directory. -/
theorem list_forall {good : String → Prop}
    (entries : ∀ entry ∈ tree.entries, ∀ name ∈ entry.1, good name) (directory : String) :
    ∀ entry ∈ tree.list directory, good entry.1 := by
  intro entry member
  rw [list] at member
  split at member
  · obtain ⟨stored, among, kept⟩ := List.mem_filterMap.1 member
    split at kept
    · obtain ⟨name, last, rfl⟩ := Option.map_eq_some_iff.1 kept
      exact entries stored among name (List.mem_of_getLast? last)
    · cases kept
  · cases member

theorem namesIn_forall {good : String → Prop}
    (entries : ∀ entry ∈ tree.entries, ∀ name ∈ entry.1, good name) (directory : String)
    (onlyDirectories : Bool) : ∀ name ∈ tree.namesIn directory onlyDirectories, good name := by
  intro name member
  obtain ⟨entry, among, kept⟩ := List.mem_filterMap.1 member
  split at kept
  · cases kept
  · cases kept
    exact list_forall entries directory entry among

private theorem namesBelow_nameable (entries : tree.NameableEntries) (onlyDirectories : Bool)
    (fuel : Nat)
    (directory : String) : ∀ name ∈ tree.namesBelow onlyDirectories fuel directory, Nameable name := by
  induction fuel generalizing directory with
  | zero =>
    intro name member
    cases member
  | succ fuel ih =>
    intro name member
    obtain ⟨first, among, inside⟩ := List.mem_flatMap.1 member
    have top := namesIn_forall entries directory onlyDirectories first (List.mem_filter.1 among).1
    rcases List.mem_cons.1 inside with rfl | below
    · exact top
    · obtain ⟨rest, deeper, rfl⟩ := List.mem_map.1 below
      exact joinNonEmpty_nameable top (ih _ rest deeper)

private theorem matchesIn_nameable (entries : tree.NameableEntries)
    (recursive onlyDirectories : Bool) (directory : String) {part : String}
    (nameable : Nameable part) :
    ∀ name ∈ tree.matchesIn recursive onlyDirectories directory part, Nameable name := by
  intro name member
  unfold matchesIn at member
  split at member
  · split at member
    · rcases List.mem_cons.1 member with rfl | below
      · decide
      · exact namesBelow_nameable entries _ _ _ name below
    · have inside := (List.mem_filter.1 member).1
      split at inside
      · exact namesIn_forall entries _ _ name inside
      · exact namesIn_forall entries _ _ name (List.mem_filter.1 inside).1
  · split at member
    · split at member
      · rwa [List.mem_singleton.1 member]
      · cases member
    · split at member
      · rwa [List.mem_singleton.1 member]
      · cases member

private theorem matchesBelow_nameable (entries : tree.NameableEntries) (recursive : Bool)
    {directories parts : List String} (tops : ∀ directory ∈ directories, Nameable directory)
    (nameable : ∀ part ∈ parts, Nameable part) :
    ∀ found ∈ tree.matchesBelow recursive directories parts, Nameable found := by
  induction parts generalizing directories with
  | nil => exact tops
  | cons part parts ih =>
    refine ih (fun found member => ?_) fun other member =>
      nameable other (List.mem_cons_of_mem _ member)
    obtain ⟨directory, among, inside⟩ := List.mem_flatMap.1 (Text.mem_ascendingOnce.1 member)
    obtain ⟨name, fits, rfl⟩ := List.mem_map.1 inside
    exact joinText_nameable (tops directory among)
      (matchesIn_nameable entries _ _ _ (nameable part List.mem_cons_self) name fits)

theorem splitText_nameable (nameable : Nameable path) :
    Nameable (Path.splitText path).1 ∧ Nameable (Path.splitText path).2 := by
  have front {c : Char} {text : List Char} (member : c ∈ text.dropWhile (· != '/')) : c ∈ text :=
    (List.dropWhile_sublist _).subset member
  constructor
  · unfold Path.splitText
    simp only [Nameable, String.toList_ofList]
    split
    · intro null
      exact nameable (List.mem_reverse.1 (front (List.mem_reverse.1 null)))
    · intro null
      have stem := (List.dropWhile_sublist _).subset (List.mem_reverse.1 null)
      exact nameable (List.mem_reverse.1 (front stem))
  · unfold Path.splitText
    simp only [Nameable, String.toList_ofList]
    intro null
    have last := (List.takeWhile_sublist _).subset (List.mem_reverse.1 null)
    exact nameable (List.mem_reverse.1 last)

private theorem patternLevels_nameable (fuel : Nat) {pattern : String}
    (nameable : Nameable pattern) :
    Nameable (patternLevels fuel pattern).1 ∧
      ∀ part ∈ (patternLevels fuel pattern).2, Nameable part := by
  induction fuel generalizing pattern with
  | zero => exact ⟨nameable, fun _ member => (by cases member)⟩
  | succ fuel ih =>
    obtain ⟨front, last⟩ := splitText_nameable nameable
    unfold patternLevels
    simp only
    split
    · obtain ⟨base, parts⟩ := ih front
      refine ⟨base, fun part member => ?_⟩
      rcases List.mem_append.1 member with inner | final
      · exact parts part inner
      · rw [List.mem_singleton.1 final]
        exact last
    · refine ⟨front, fun part member => ?_⟩
      rw [List.mem_singleton.1 member]
      exact last

/-- A pattern without null characters finds paths without them. -/
theorem matching_nameable (entries : tree.NameableEntries) (recursive : Bool) {pattern : String}
    (nameable : Nameable pattern) : ∃ found, tree.matching recursive pattern = .ok found ∧
      ∀ path ∈ found, Nameable path := by
  by_cases wild : Wildcard.isPattern pattern = true
  · obtain ⟨base, parts⟩ := patternLevels_nameable pattern.length nameable
    have inner : ¬ (patternLevels pattern.length pattern).1.toList.contains '\x00' = true := by
      simpa using base
    refine ⟨tree.matchesBelow recursive [(patternLevels pattern.length pattern).1]
      (patternLevels pattern.length pattern).2, ?_, ?_⟩
    · unfold matching
      simp only [if_pos wild, if_neg inner]
    · refine matchesBelow_nameable entries recursive (fun directory member => ?_) parts
      rwa [List.mem_singleton.1 member]
  · unfold matching
    simp only [if_neg wild]
    generalize (if (Path.splitText pattern).2 = "" then _ else _ : Bool) = present
    cases present with
    | false => exact ⟨[], rfl, fun _ member => (by cases member)⟩
    | true =>
      refine ⟨[pattern], rfl, fun path member => ?_⟩
      rwa [List.mem_singleton.1 member]

theorem filesIn_nameable (entries : tree.NameableEntries) {directory : String}
    (nameable : Nameable directory) : ∀ path ∈ tree.filesIn directory, Nameable path := by
  intro path member
  obtain ⟨⟨name, node⟩, among, kept⟩ := List.mem_filterMap.1 member
  have named := joinText_nameable nameable (list_forall entries directory _ among)
  change (if node.isDirectory then none else some (Path.joinText directory name)) = _ at kept
  split at kept
  · cases kept
  · rwa [← Option.some.inj kept]

theorem filesBelow_nameable (entries : tree.NameableEntries) (fuel : Nat) {directory : String}
    (nameable : Nameable directory) : ∀ path ∈ tree.filesBelow fuel directory, Nameable path := by
  induction fuel generalizing directory with
  | zero =>
    intro path member
    cases member
  | succ fuel ih =>
    intro path member
    obtain ⟨⟨name, node⟩, among, inside⟩ := List.mem_flatMap.1 member
    have named := joinText_nameable nameable (list_forall entries directory _ among)
    change path ∈ if node.isDirectory then tree.filesBelow fuel (Path.joinText directory name)
      else [Path.joinText directory name] at inside
    split at inside
    · exact ih named path inside
    · rwa [List.mem_singleton.1 inside]

end FileTree

end DelegateClasses
