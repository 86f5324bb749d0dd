import DelegateClasses.Proofs.Storage.Growth
import DelegateClasses.Proofs.Storage.Paths
import Mathlib.Data.List.Induction

/-! How far the directories of a path can be made. They are made one below the other
until a name is too long or a file stands in the way, and nothing else changes. How
far that is depends on the files and not on the directories that are there already.
Main statements: what is made of a path without an obstacle, and of one with an
obstacle. -/
namespace DelegateClasses.FileTree
open Steps

variable {tree middle after : FileTree} {root : String} {known place names front rest : List String}
variable {name x : String}

/-- Whatever stands somewhere stands in a directory. -/
def Rooted (tree : FileTree) : Prop :=
  ∀ place name node, tree.node? (place ++ [name]) = some node → tree.node? place = some .directory

/-- The name is that of a directory to be made or to be passed through. -/
structure Passable (tree : FileTree) (place : List String) (name : String) : Prop where
  short : name.utf8ByteSize ≤ nameLimit
  free : tree.file? (place ++ [name]) = none

/-- No name stands in the way of directories below a place. -/
def Clear (tree : FileTree) (place names : List String) : Prop :=
  ∀ front name, front ++ [name] <+: names → tree.Passable (place ++ front) name

/-- The place is behind another one on the way to a target. -/
def OnWay (place target other : List String) : Prop :=
  place <+: other ∧ other ≠ place ∧ other <+: target

instance (place target other : List String) : Decidable (OnWay place target other) :=
  inferInstanceAs (Decidable (_ ∧ _ ∧ _))

/-- The directories from a place to a target were made, and nothing else. -/
structure Made (place target : List String) (before after : FileTree) : Prop where
  workingDirectory : after.workingDirectory = before.workingDirectory
  nodes : ∀ other, after.node? other =
    if OnWay place target other then some .directory else before.node? other

/-! ## The way to a place -/

theorem not_onWay_self (place other : List String) : ¬ OnWay place place other :=
  fun ⟨above, apart, below⟩ => apart (below.eq_of_length_le above.length_le)

theorem onWay_concat {other : List String} : OnWay place (place ++ (front ++ [name])) other ↔
    OnWay place (place ++ front) other ∨ other = place ++ (front ++ [name]) := by
  rw [OnWay, OnWay, ← List.append_assoc, List.prefix_concat_iff]
  constructor
  · rintro ⟨above, apart, rfl | below⟩
    · exact .inr rfl
    · exact .inl ⟨above, apart, below⟩
  · rintro (⟨above, apart, below⟩ | rfl)
    · exact ⟨above, apart, .inr below⟩
    · refine ⟨⟨front ++ [name], by simp⟩, ?_, .inl rfl⟩
      simp

theorem clear_concat : tree.Clear place (front ++ [name]) ↔
    tree.Clear place front ∧ tree.Passable (place ++ front) name := by
  constructor
  · intro clear
    exact ⟨fun _ _ within => clear _ _ (within.trans (List.prefix_append _ _)),
      clear _ _ (List.prefix_refl _)⟩
  · rintro ⟨clear, passable⟩ before other within
    rcases List.prefix_concat_iff.1 within with same | earlier
    · obtain ⟨rfl, last⟩ := List.append_inj' same rfl
      obtain rfl : other = name := by simpa using last
      exact passable
    · exact clear _ _ earlier

theorem clear_short (clear : tree.Clear place names) :
    ∀ name ∈ names, name.utf8ByteSize ≤ nameLimit := by
  intro name member
  obtain ⟨front, rest, rfl⟩ := List.append_of_mem member
  exact (clear front name ⟨rest, by simp⟩).short

theorem made_self (there : ∀ other, OnWay place names other → tree.node? other = some .directory) :
    Made place names tree tree := by
  refine ⟨rfl, fun other => ?_⟩
  split
  · next onWay => exact there other onWay
  · rfl

theorem made_refl (place : List String) (tree : FileTree) : Made place place tree tree :=
  made_self fun other onWay => absurd onWay (not_onWay_self place other)

theorem workingDirectory_set (place : List String) (node : Node) :
    (tree.set place node).workingDirectory = tree.workingDirectory := by
  rw [set]
  split <;> rfl

/-- One more directory is made behind the others. -/
private theorem made_set (made : Made place (place ++ front) tree middle) :
    Made place (place ++ (front ++ [name])) tree
      (middle.set (place ++ (front ++ [name])) .directory) := by
  refine ⟨(workingDirectory_set _ _).trans made.workingDirectory, fun other => ?_⟩
  rw [node?_set (by simp), made.nodes]
  by_cases same : other = place ++ (front ++ [name])
  · rw [if_pos same, if_pos (onWay_concat.2 (.inr same))]
  · rw [if_neg same]
    by_cases onWay : OnWay place (place ++ front) other
    · rw [if_pos onWay, if_pos (onWay_concat.2 (.inl onWay))]
    · rw [if_neg onWay, if_neg fun way => (onWay_concat.1 way).elim onWay same]

/-- One more directory was there behind the others. -/
private theorem made_there (made : Made place (place ++ front) tree middle)
    (there : middle.node? (place ++ (front ++ [name])) = some .directory) :
    Made place (place ++ (front ++ [name])) tree middle := by
  refine ⟨made.workingDirectory, fun other => ?_⟩
  by_cases same : other = place ++ (front ++ [name])
  · rw [if_pos (onWay_concat.2 (.inr same)), same, there]
  · rw [made.nodes]
    by_cases onWay : OnWay place (place ++ front) other
    · rw [if_pos onWay, if_pos (onWay_concat.2 (.inl onWay))]
    · rw [if_neg onWay, if_neg fun way => (onWay_concat.1 way).elim onWay same]

theorem node?_of_no_file {place : List String} (free : tree.file? place = none) :
    tree.node? place = none ∨ tree.node? place = some .directory := by
  rw [file?] at free
  cases stands : tree.node? place with
  | none => exact .inl rfl
  | some node =>
    cases node with
    | directory => exact .inr rfl
    | file content =>
      rw [stands] at free
      cases free

/-- Where nothing was put but directories there is no file. -/
theorem file?_of_directories (directories : ∀ entry ∈ tree.entries, entry.2 = .directory)
    (place : List String) : tree.file? place = none := by
  rw [file?, node?]
  split
  · rfl
  · cases found : tree.entries.lookup place with
    | none => rfl
    | some node =>
      obtain ⟨before, after, parts, -⟩ := List.lookup_eq_some_iff.1 found
      obtain rfl : node = .directory := directories (place, node) (by simp [parts])
      rfl

/-- All that is above something is a directory. -/
theorem rooted_above (rooted : tree.Rooted) {node : Node} {below : List String}
    (stands : tree.node? (place ++ below) = some node) (inner : below ≠ []) :
    tree.node? place = some .directory := by
  induction below using List.reverseRecOn generalizing node with
  | nil => exact absurd rfl inner
  | append_singleton below name ih =>
    rw [← List.append_assoc] at stands
    have above := rooted _ _ _ stands
    by_cases last : below = []
    · rwa [last, List.append_nil] at above
    · exact ih above last

/-! ## Names that are followed -/

/-- The names lead down: none is a dot or two dots. -/
def Downward (names : List String) : Prop :=
  ∀ name ∈ names, name ≠ "." ∧ name ≠ ".."

theorem downward_concat (downward : Downward (front ++ [name])) :
    Downward front ∧ name ≠ "." ∧ name ≠ ".." :=
  ⟨fun other member => downward other (List.mem_append_left _ member),
    downward name (List.mem_append_right _ (List.mem_singleton.2 rfl))⟩

theorem step_down (here : name ≠ ".") (up : name ≠ "..") (short : name.utf8ByteSize ≤ nameLimit) :
    tree.step (place, .directory) name = match tree.node? (place ++ [name]) with
      | none => .error .notFound
      | some node => .ok (place ++ [name], node) := by
  rewrite [step, if_neg here, if_neg up, if_neg (Nat.not_lt.2 short)]
  rfl

theorem step_long (here : name ≠ ".") (up : name ≠ "..") (long : nameLimit < name.utf8ByteSize) :
    tree.step (place, .directory) name = .error .nameTooLong := by
  simp only [step, if_neg here, if_neg up, if_pos long]

/-- Names without an obstacle lead to a directory, unless one of them is missing. -/
theorem follow_clear (downward : Downward names) (clear : tree.Clear place names) :
    (tree.follow place names = .ok (place ++ names, .directory) ∧
      ∀ other, OnWay place (place ++ names) other → tree.node? other = some .directory) ∨
    tree.follow place names = .error .notFound := by
  induction names using List.reverseRecOn with
  | nil =>
    rw [List.append_nil]
    exact .inl ⟨rfl, fun other onWay => absurd onWay (not_onWay_self place other)⟩
  | append_singleton front name ih =>
    obtain ⟨earlier, here, up⟩ := downward_concat downward
    obtain ⟨before, passable⟩ := clear_concat.1 clear
    rcases ih earlier before with ⟨reached, there⟩ | missing
    · rw [follow_of_ok reached, step_down here up passable.short]
      rcases node?_of_no_file passable.free with none | stands
      · rw [none]
        exact .inr rfl
      · rw [stands]
        rw [List.append_assoc] at stands ⊢
        refine .inl ⟨rfl, fun other onWay => ?_⟩
        rcases onWay_concat.1 onWay with earlier | rfl
        · exact there other earlier
        · exact stands
    · exact .inr (follow_of_error name missing)

/-- Names of directories lead to the last of them. -/
theorem follow_there (downward : Downward names)
    (short : ∀ name ∈ names, name.utf8ByteSize ≤ nameLimit)
    (there : ∀ other, OnWay place (place ++ names) other → tree.node? other = some .directory) :
    tree.follow place names = .ok (place ++ names, .directory) := by
  induction names using List.reverseRecOn with
  | nil =>
    rw [List.append_nil]
    rfl
  | append_singleton front name ih =>
    obtain ⟨earlier, here, up⟩ := downward_concat downward
    have reached := ih earlier (fun other member => short other (List.mem_append_left _ member))
      fun other onWay => there other (onWay_concat.2 (.inl onWay))
    have last := there _ (onWay_concat.2 (.inr rfl))
    rw [← List.append_assoc] at last
    rw [follow_of_ok reached, step_down here up (short name (by simp)), last, List.append_assoc]

/-! ## Making directories -/

theorem checkText_of_append {shorter more : String} (fits : checkText (shorter ++ more) = .ok ())
    (some : shorter ≠ "") : checkText shorter = .ok () := by
  unfold checkText at fits ⊢
  split at fits
  · cases fits
  · next nameable =>
    split at fits
    · cases fits
    · split at fits
      · cases fits
      · next short =>
        rw [String.utf8ByteSize_append] at short
        rw [if_neg, if_neg some, if_neg (by omega)]
        intro null
        apply nameable
        rw [String.toList_append]
        simpa using Or.inl (by simpa using null)

theorem text_concat (inner : front ≠ []) :
    Path.text ⟨root, front ++ [name]⟩ = Path.text ⟨root, front⟩ ++ ("/" ++ name) := by
  rw [Path.text, if_neg (by simp), Path.text, if_neg fun none => inner none.2,
    String.intercalate_append_of_ne_nil inner (by simp), String.intercalate_singleton]
  simp only [String.append_assoc]

theorem text_ne_empty {path : Path} (normal : path.Normal) : path.text ≠ "" := by
  intro empty
  rw [Path.text] at empty
  split at empty
  · simp at empty
  · next inner =>
    rw [String.append_eq_empty_iff] at empty
    cases parts : path.parts with
    | nil => exact inner ⟨empty.1, parts⟩
    | cons part others =>
      have nonempty := (normal.parts part (by simp [parts])).nonempty
      rw [parts] at empty
      cases others <;> simp_all [String.intercalate_cons_cons]

/-- With a path's text the text of the path above fits. -/
theorem checkText_shorter (normal : Path.Normal ⟨root, front ++ [name]⟩)
    (fits : checkText (Path.text ⟨root, front ++ [name]⟩) = .ok ()) :
    checkText (Path.text ⟨root, front⟩) = .ok () := by
  by_cases inner : front = []
  · subst inner
    obtain rfl | rfl | rfl : root = "" ∨ root = "/" ∨ root = "//" := normal.root <;> decide +kernel
  · rw [text_concat inner] at fits
    apply checkText_of_append fits
    apply text_ne_empty
    exact ⟨normal.root, fun part member => normal.parts part (List.mem_append_left _ member)⟩

/-- The components lead from the start of the path to a directory, and the names
lead down from there. -/
structure Under (tree : FileTree) (root : String) (known place names : List String) : Prop where
  normal : Path.Normal ⟨root, known ++ names⟩
  downward : Downward names
  leads : tree.follow (tree.base root) known = .ok (place, .directory)
  fits : checkText (Path.text ⟨root, known ++ names⟩) = .ok ()

private theorem under_shorter (under : tree.Under root known place (front ++ [name])) :
    tree.Under root known place front where
  normal := by
    have normal := under.normal
    exact ⟨normal.root, fun part member => normal.parts part (by
      rw [← List.append_assoc]
      exact List.mem_append_left _ member)⟩
  downward := (downward_concat under.downward).1
  leads := under.leads
  fits := by
    have normal := under.normal
    have fits := under.fits
    rw [← List.append_assoc] at normal fits
    exact checkText_shorter normal fits

/-- What is under a directory stays there when directories are made. -/
theorem under_touches {places : List (List String)} (under : tree.Under root known place names)
    (touches : Touches places tree after) : after.Under root known place names where
  normal := under.normal
  downward := under.downward
  leads := by
    obtain ⟨⟨later, node⟩, followed, rfl, kind⟩ := steps_touch touches known ⟨rfl, rfl⟩ under.leads
    rw [follow, base, touches.workingDirectory]
    cases node with
    | directory => exact followed
    | file content => cases kind
  fits := under.fits

theorem follow_under (under : tree.Under root known place names) (names' : List String) :
    tree.follow (tree.base root) (known ++ names') = tree.follow place names' := by
  rw [follow_append, under.leads]
  rfl

/-- What making one directory does is told by what leads to the directory above. -/
theorem makeDirectory_under (under : tree.Under root known place (front ++ [name])) :
    tree.makeDirectory (Path.text ⟨root, known ++ (front ++ [name])⟩) = (do
      let (above, node) ← tree.follow place front
      match node with
      | .file _ => .error .notDirectory
      | .directory =>
        if name.utf8ByteSize > nameLimit then .error .nameTooLong
        else if (tree.node? (above ++ [name])).isSome then .error .alreadyExists
        else .ok (tree.set (above ++ [name]) .directory)) := by
  obtain ⟨-, here, up⟩ := downward_concat under.downward
  have normal := under.normal
  have fits := under.fits
  rw [← List.append_assoc] at normal fits ⊢
  rw [makeDirectory, locate_text normal, fits, follow_under under]
  cases tree.follow place front with
  | error fault => rfl
  | ok reached =>
    obtain ⟨above, node⟩ := reached
    cases node with
    | file content => rfl
    | directory =>
      change (if _ then _ else _) >>= _ = _
      rw [if_neg (by simp [here, up])]
      by_cases long : name.utf8ByteSize > nameLimit
      · simp only [if_pos long]
        rfl
      · simp only [if_neg long]
        rfl

private theorem isDirectory_under (under : tree.Under root known place names) :
    tree.isDirectory (Path.text ⟨root, known ++ names⟩) =
      match tree.follow place names with
      | .ok (_, node) => node.isDirectory
      | .error _ => false := by
  rw [isDirectory, resolve_text under.normal, under.fits, follow_under under]
  rfl

private theorem ensureDirectory_of_error {path : String} {fault : Fault}
    (refused : tree.makeDirectory path = .error fault) (nowhere : tree.isDirectory path = false) :
    tree.ensureDirectory path = (.error ⟨fault, path⟩, tree) := by
  rw [ensureDirectory, refused]
  simp [nowhere]

/-- A directory below one that is there is made, unless it is there itself. -/
theorem ensureDirectory_under (under : tree.Under root known place (front ++ [name]))
    (reached : tree.follow place front = .ok (place ++ front, .directory))
    (passable : tree.Passable (place ++ front) name)
    (made : Made place (place ++ front) middle tree) :
    ∃ after, tree.ensureDirectory (Path.text ⟨root, known ++ (front ++ [name])⟩) = (.ok (), after) ∧
      Made place (place ++ (front ++ [name])) middle after := by
  obtain ⟨-, here, up⟩ := downward_concat under.downward
  have making := makeDirectory_under under
  have long : ¬ name.utf8ByteSize > nameLimit := Nat.not_lt.2 passable.short
  rw [reached] at making
  simp only [bind, Except.bind, if_neg long] at making
  rw [ensureDirectory, making, List.append_assoc]
  rcases node?_of_no_file passable.free with none | stands
  · rw [List.append_assoc] at none
    simp only [none]
    exact ⟨_, rfl, made_set made⟩
  · have there : tree.isDirectory (Path.text ⟨root, known ++ (front ++ [name])⟩) = true := by
      rw [isDirectory_under under, follow_of_ok reached, step_down here up passable.short, stands]
      rfl
    rw [List.append_assoc] at stands
    simp only [stands]
    exact ⟨tree, by simp [there], made_there made stands⟩

theorem ensureUpwards_concat : ensureUpwards root (known ++ [name]).reverse tree =
    match tree.makeDirectory (Path.text ⟨root, known ++ [name]⟩) with
    | .error .notFound =>
      match ensureUpwards root known.reverse tree with
      | (.ok (), tree) => tree.ensureDirectory (Path.text ⟨root, known ++ [name]⟩)
      | failed => failed
    | _ => tree.ensureDirectory (Path.text ⟨root, known ++ [name]⟩) := by
  rewrite [List.reverse_concat, ensureUpwards, List.reverse_cons, List.reverse_reverse]
  rfl

/-- Nothing is made of a path whose text cannot be that of a directory. -/
theorem ensureUpwards_unfit (normal : Path.Normal ⟨root, known⟩) {fault : Fault}
    (refused : checkText (Path.text ⟨root, known⟩) = .error fault) :
    ensureUpwards root known.reverse tree =
      (.error ⟨fault, Path.text ⟨root, known⟩⟩, tree) := by
  have making : tree.makeDirectory (Path.text ⟨root, known⟩) = .error fault := by
    rw [makeDirectory, locate, refused]
    rfl
  have nowhere : tree.isDirectory (Path.text ⟨root, known⟩) = false := by
    rw [isDirectory, resolve, refused]
    rfl
  have ensured := ensureDirectory_of_error making nowhere
  cases known using List.reverseRecOn with
  | nil => exact ensured
  | append_singleton above last =>
    rw [ensureUpwards_concat, making, ensured]
    split
    · next missing =>
      cases missing
      unfold checkText at refused
      split at refused
      · cases refused
      · rw [if_neg (text_ne_empty normal)] at refused
        split at refused <;> cases refused
    · rfl

private theorem makeDirectory_known (under : tree.Under root known place []) :
    tree.makeDirectory (Path.text ⟨root, known⟩) = .error .alreadyExists := by
  have normal := under.normal
  have fits := under.fits
  have leads := under.leads
  rw [List.append_nil] at normal fits
  induction known using List.reverseRecOn with
  | nil =>
    rw [makeDirectory, locate, fits, route_text normal, origin_text normal]
    rfl
  | append_singleton above last =>
    rw [makeDirectory, locate_text normal, fits]
    have word := (normal.parts last (by simp)).word
    cases reached : tree.follow (tree.base root) above with
    | error fault => cases (follow_of_error last reached).symm.trans leads
    | ok target =>
      obtain ⟨here, node⟩ := target
      rw [follow_of_ok reached] at leads
      cases node with
      | file content => cases leads
      | directory =>
        change (if _ then _ else _) >>= _ = _
        by_cases up : last = ".."
        · rw [if_pos (by simp [up])]
          rfl
        · rw [if_neg (by simp [up, word])]
          by_cases long : last.utf8ByteSize > nameLimit
          · cases (step_long word up long).symm.trans leads
          · rw [step_down word up (Nat.not_lt.1 long)] at leads
            rw [if_neg long]
            change (if (tree.node? (here ++ [last])).isSome = true then _ else _) = _
            rw [if_pos]
            cases stands : tree.node? (here ++ [last]) with
            | none =>
              rw [stands] at leads
              cases leads
            | some node => rfl

/-- Nothing is made of a path that leads to a directory. -/
theorem ensureUpwards_known (under : tree.Under root known place []) :
    ensureUpwards root known.reverse tree = (.ok (), tree) := by
  have there : tree.isDirectory (Path.text ⟨root, known⟩) = true := by
    have leads := isDirectory_under under
    rwa [List.append_nil, follow_nil] at leads
  have refused := makeDirectory_known under
  have ensured : tree.ensureDirectory (Path.text ⟨root, known⟩) = (.ok (), tree) := by
    rw [ensureDirectory, refused]
    simp [there]
  cases known using List.reverseRecOn with
  | nil => exact ensured
  | append_singleton above last => rw [ensureUpwards_concat, refused, ensured]

/-- Without an obstacle all directories of a path are made. -/
theorem ensureUpwards_clear (under : tree.Under root known place names)
    (clear : tree.Clear place names) :
    ∃ after, ensureUpwards root (known ++ names).reverse tree = (.ok (), after) ∧
      Made place (place ++ names) tree after := by
  induction names using List.reverseRecOn with
  | nil =>
    rw [List.append_nil, List.append_nil]
    exact ⟨tree, ensureUpwards_known under, made_refl place tree⟩
  | append_singleton front name ih =>
    obtain ⟨before, passable⟩ := clear_concat.1 clear
    have making := makeDirectory_under under
    rw [← List.append_assoc, ensureUpwards_concat, List.append_assoc]
    rcases follow_clear (downward_concat under.downward).1 before with ⟨reached, there⟩ | missing
    · obtain ⟨after, ensured, made⟩ :=
        ensureDirectory_under under reached passable (made_self there)
      refine ⟨after, ?_, made⟩
      rw [reached] at making
      simp only [bind, Except.bind, if_neg (Nat.not_lt.2 passable.short)] at making
      rw [making]
      split
      · next absent =>
        split at absent <;> cases absent
      · exact ensured
    · rw [missing] at making
      obtain ⟨middle, above, made⟩ := ih (under_shorter under) before
      have touches := ensureUpwards_touches root (known ++ front).reverse tree
      rw [above] at touches
      have there : ∀ other, OnWay place (place ++ front) other →
          middle.node? other = some .directory := fun other onWay => by
        rw [made.nodes, if_pos onWay]
      have reached :=
        follow_there (downward_concat under.downward).1 (clear_short before) there
      have still : middle.Passable (place ++ front) name := by
        refine ⟨passable.short, ?_⟩
        rw [touches.others _ (by simp), passable.free]
      obtain ⟨after, ensured, further⟩ :=
        ensureDirectory_under (under_touches under touches) reached still made
      refine ⟨after, ?_, further⟩
      rw [making]
      simp only [bind, Except.bind, above, ensured]

/-! ## Obstacles -/

theorem downward_append {more : List String} (downward : Downward (front ++ more)) :
    Downward front ∧ Downward more :=
  ⟨fun name member => downward name (List.mem_append_left _ member),
    fun name member => downward name (List.mem_append_right _ member)⟩

/-- A directory whose path cannot be followed is not made. -/
theorem makeDirectory_of_error (under : tree.Under root known place (front ++ [name]))
    {fault : Fault} (failed : tree.follow place front = .error fault) :
    tree.makeDirectory (Path.text ⟨root, known ++ (front ++ [name])⟩) = .error fault := by
  rw [makeDirectory_under under, failed]
  rfl

private theorem nowhere_of_error (under : tree.Under root known place names) {fault : Fault}
    (failed : tree.follow place names = .error fault) :
    tree.isDirectory (Path.text ⟨root, known ++ names⟩) = false := by
  rw [isDirectory_under under, failed]

/-- A directory with a name that is too long is not made. -/
theorem ensureDirectory_long (under : tree.Under root known place (front ++ [name]))
    (reached : tree.follow place front = .ok (place ++ front, .directory))
    (long : nameLimit < name.utf8ByteSize) :
    tree.makeDirectory (Path.text ⟨root, known ++ (front ++ [name])⟩) = .error .nameTooLong ∧
    tree.ensureDirectory (Path.text ⟨root, known ++ (front ++ [name])⟩) =
      (.error ⟨.nameTooLong, Path.text ⟨root, known ++ (front ++ [name])⟩⟩, tree) := by
  obtain ⟨-, here, up⟩ := downward_concat under.downward
  have refused : tree.makeDirectory (Path.text ⟨root, known ++ (front ++ [name])⟩) =
      .error .nameTooLong := by
    rw [makeDirectory_under under, reached]
    simp only [bind, Except.bind, if_pos long]
  have nowhere : tree.follow place (front ++ [name]) = .error .nameTooLong := by
    rw [follow_of_ok reached, step_long here up long]
  exact ⟨refused, ensureDirectory_of_error refused (nowhere_of_error under nowhere)⟩

/-- The directory that is named in an error about a name that is too long: the whole one
if that which is to hold the name is there, and the one of that name if it is not. -/
inductive Blamed (tree : FileTree) (root : String) (known place front : List String) (name : String)
    (rest : List String) : String → Prop where
  | whole (reached : tree.follow place front = .ok (place ++ front, .directory)) :
      Blamed tree root known place front name rest
        (Path.text ⟨root, known ++ (front ++ name :: rest)⟩)
  | first (missing : tree.follow place front = .error .notFound) :
      Blamed tree root known place front name rest (Path.text ⟨root, known ++ (front ++ [name])⟩)

/-- Nothing is made below a directory that is there already if the next name is too long. -/
theorem ensureUpwards_reached (under : tree.Under root known place (front ++ name :: rest))
    (reached : tree.follow place front = .ok (place ++ front, .directory))
    (long : nameLimit < name.utf8ByteSize) :
    ensureUpwards root (known ++ (front ++ name :: rest)).reverse tree =
      (.error ⟨.nameTooLong, Path.text ⟨root, known ++ (front ++ name :: rest)⟩⟩, tree) := by
  induction rest using List.reverseRecOn with
  | nil =>
    obtain ⟨refused, ensured⟩ := ensureDirectory_long under reached long
    rw [← List.append_assoc, ensureUpwards_concat, List.append_assoc, refused]
    exact ensured
  | append_singleton rest last ih =>
    have whole : front ++ name :: (rest ++ [last]) = (front ++ name :: rest) ++ [last] := by simp
    rw [whole] at under ⊢
    obtain ⟨here, up⟩ := (downward_append under.downward).1 name (by simp)
    have stopped : tree.follow place (front ++ name :: rest) = .error .nameTooLong := by
      rw [follow_append, reached]
      change tree.step (place ++ front, .directory) name >>= _ = _
      rw [step_long here up long]
      rfl
    rw [← List.append_assoc, ensureUpwards_concat, List.append_assoc,
      makeDirectory_of_error under stopped]
    exact ensureDirectory_of_error (makeDirectory_of_error under stopped)
      (nowhere_of_error under (follow_of_error last stopped))

/-- Missing directories are made up to a name that is too long. -/
theorem ensureUpwards_missing (under : tree.Under root known place (front ++ name :: rest))
    (clear : tree.Clear place front) (missing : tree.follow place front = .error .notFound)
    (long : nameLimit < name.utf8ByteSize) :
    ∃ after, ensureUpwards root (known ++ (front ++ name :: rest)).reverse tree =
      (.error ⟨.nameTooLong, Path.text ⟨root, known ++ (front ++ [name])⟩⟩, after) ∧
      Made place (place ++ front) tree after := by
  induction rest using List.reverseRecOn with
  | nil =>
    rw [← List.append_assoc, ensureUpwards_concat, List.append_assoc,
      makeDirectory_of_error under missing]
    obtain ⟨middle, above, made⟩ := ensureUpwards_clear (under_shorter under) clear
    have touches := ensureUpwards_touches root (known ++ front).reverse tree
    rw [above] at touches
    have reached := follow_there (downward_append under.downward).1 (clear_short clear)
      fun other onWay => show middle.node? other = some .directory by
        rw [made.nodes, if_pos onWay]
    simp only [above, (ensureDirectory_long (under_touches under touches) reached long).2]
    exact ⟨middle, rfl, made⟩
  | append_singleton rest last ih =>
    have whole : front ++ name :: (rest ++ [last]) = (front ++ name :: rest) ++ [last] := by simp
    rw [whole] at under ⊢
    have nowhere : tree.follow place (front ++ name :: rest) = .error .notFound := by
      rw [follow_append, missing]
      rfl
    rw [← List.append_assoc, ensureUpwards_concat, List.append_assoc,
      makeDirectory_of_error under nowhere]
    obtain ⟨after, above, made⟩ := ih (under_shorter under)
    simp only [above]
    exact ⟨after, rfl, made⟩

/-- Up to a name that is too long all directories are made. Which directory the error
names depends on those that were there. -/
theorem ensureUpwards_long (under : tree.Under root known place (front ++ name :: rest))
    (clear : tree.Clear place front) (long : nameLimit < name.utf8ByteSize) :
    ∃ path after, ensureUpwards root (known ++ (front ++ name :: rest)).reverse tree =
      (.error ⟨.nameTooLong, path⟩, after) ∧ Made place (place ++ front) tree after ∧
      Blamed tree root known place front name rest path := by
  rcases follow_clear (downward_append under.downward).1 clear with ⟨reached, there⟩ | missing
  · exact ⟨_, tree, ensureUpwards_reached under reached long, made_self there, .whole reached⟩
  · obtain ⟨after, ensured, made⟩ := ensureUpwards_missing under clear missing long
    exact ⟨_, after, ensured, made, .first missing⟩

/-- What is said of a file that stands where a directory is to be made, or on the way
to one. -/
def barred (rest : List String) : Fault :=
  if rest = [] then .alreadyExists else .notDirectory

/-- Where a file stands in the way nothing is made, if all directories above the file
are there. -/
theorem ensureUpwards_file (under : tree.Under root known place (front ++ name :: rest))
    (clear : tree.Clear place front) (short : name.utf8ByteSize ≤ nameLimit) {content : ByteArray}
    (stands : tree.node? (place ++ (front ++ [name])) = some (.file content))
    (there : ∀ other, OnWay place (place ++ front) other → tree.node? other = some .directory) :
    ensureUpwards root (known ++ (front ++ name :: rest)).reverse tree =
      (.error ⟨barred rest, Path.text ⟨root, known ++ (front ++ name :: rest)⟩⟩, tree) ∧
    Made place (place ++ front) tree tree := by
  obtain ⟨earlier, later⟩ := downward_append under.downward
  obtain ⟨here, up⟩ := later name List.mem_cons_self
  have reached := follow_there earlier (clear_short clear) there
  rw [← List.append_assoc] at stands
  have arrived : tree.follow place (front ++ [name]) =
      .ok (place ++ front ++ [name], .file content) := by
    rw [follow_of_ok reached, step_down here up short, stands]
  refine ⟨?_, made_self there⟩
  cases rest using List.reverseRecOn with
  | nil =>
    have refused : tree.makeDirectory (Path.text ⟨root, known ++ (front ++ [name])⟩) =
        .error .alreadyExists := by
      rw [makeDirectory_under under, reached]
      simp only [bind, Except.bind, if_neg (Nat.not_lt.2 short), stands, Option.isSome_some,
        ↓reduceIte]
    rw [← List.append_assoc, ensureUpwards_concat, List.append_assoc, refused,
      ensureDirectory_of_error refused]
    · rfl
    · rw [isDirectory_under under, arrived]
      rfl
  | append_singleton rest last =>
    have whole : front ++ name :: (rest ++ [last]) = (front ++ name :: rest) ++ [last] := by simp
    have refused : tree.makeDirectory
        (Path.text ⟨root, known ++ (front ++ name :: (rest ++ [last]))⟩) =
        .error .notDirectory := by
      rw [whole] at under ⊢
      rw [makeDirectory_under under, List.append_cons, follow_append, arrived]
      cases rest <;> rfl
    have nowhere : tree.follow place (front ++ name :: (rest ++ [last])) =
        .error .notDirectory := by
      rw [List.append_cons, follow_append, arrived]
      cases rest <;> rfl
    rw [whole, ← List.append_assoc, ensureUpwards_concat, List.append_assoc, ← whole, refused,
      ensureDirectory_of_error refused (nowhere_of_error under nowhere)]
    simp [barred]

/-! ## What lies below a directory -/

private theorem checkText_above {more : List String} (normal : Path.Normal ⟨root, front ++ more⟩)
    (fits : checkText (Path.text ⟨root, front ++ more⟩) = .ok ()) :
    checkText (Path.text ⟨root, front⟩) = .ok () := by
  induction more using List.reverseRecOn with
  | nil => rwa [List.append_nil] at fits
  | append_singleton more last ih =>
    rw [← List.append_assoc] at normal fits
    refine ih ⟨normal.root, fun part member => ?_⟩ (checkText_shorter normal fits)
    exact normal.parts part (List.mem_append_left _ member)

/-- Names that are followed down end below the place where they start. -/
theorem steps_down (downward : Downward names) (inner : names ≠ [])
    {start target : List String × Node} (followed : names.foldlM tree.step start = .ok target) :
    start.2 = .directory ∧ target.1 = start.1 ++ names := by
  induction names generalizing start with
  | nil => exact absurd rfl inner
  | cons name rest ih =>
    obtain ⟨here, up⟩ := downward name List.mem_cons_self
    rw [List.foldlM_cons] at followed
    obtain ⟨next, first, onwards⟩ := except_bind_eq_ok followed
    obtain ⟨place, node⟩ := start
    cases node with
    | file content => cases first
    | directory =>
      have arrived : next.1 = place ++ [name] := by
        by_cases long : nameLimit < name.utf8ByteSize
        · cases (step_long here up long).symm.trans first
        · rw [step_down here up (Nat.not_lt.1 long)] at first
          split at first
          · cases first
          · cases first
            rfl
      refine ⟨rfl, ?_⟩
      by_cases last : rest = []
      · subst last
        cases onwards
        exact arrived
      · have below := ih (fun other member => downward other (List.mem_cons_of_mem _ member)) last
          onwards
        rw [below.2, arrived, List.append_assoc]
        rfl

/-- A path that goes on downwards behind another one leads to a place below the
directory that the other one leads to. -/
theorem resolve_below (normal : Path.Normal ⟨root, front ++ names⟩) (downward : Downward names)
    (inner : names ≠ []) {node : Node}
    (leads : tree.resolve (Path.text ⟨root, front ++ names⟩) = .ok (place, node)) :
    ∃ above, tree.resolve (Path.text ⟨root, front⟩) = .ok (above, .directory) ∧
      place = above ++ names := by
  have shorter : Path.Normal ⟨root, front⟩ :=
    ⟨normal.root, fun part member => normal.parts part (List.mem_append_left _ member)⟩
  rw [resolve_text normal] at leads
  obtain ⟨⟨⟩, fits, followed⟩ := except_bind_eq_ok leads
  rw [follow_append] at followed
  obtain ⟨⟨above, reached⟩, first, rest⟩ := except_bind_eq_ok followed
  obtain ⟨kind, below⟩ := steps_down downward inner rest
  cases kind
  refine ⟨above, ?_, below⟩
  rw [resolve_text shorter, checkText_above normal fits]
  exact first

end DelegateClasses.FileTree
