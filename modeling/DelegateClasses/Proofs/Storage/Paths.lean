import DelegateClasses.Proofs.Text.Joining
import DelegateClasses.Storage.Tree

/-! Paths in normal form and their texts. A path that a text gives has neither empty
components nor dots, and its own text gives it back. Main statement: to follow the
text of such a path is to follow its components, one after the other. -/
namespace DelegateClasses

namespace Path

/-- What can be a component of a path in normal form. -/
structure Component (part : String) : Prop where
  nonempty : part ≠ ""
  word : part ≠ "."
  whole : '/' ∉ part.toList

/-- The path is one that a text gives. -/
structure Normal (path : Path) : Prop where
  root : path.root = "" ∨ path.root = "/" ∨ path.root = "//"
  parts : ∀ part ∈ path.parts, Component part

variable {path base : Path} {text : String}

/-! ## The path of a text -/

private theorem rootOf_cases (text : List Char) :
    rootOf text = "" ∨ rootOf text = "/" ∨ rootOf text = "//" := by
  unfold rootOf
  split <;> simp

/-- Every path that is given by a text is in normal form. -/
theorem normal_ofText (text : String) : Normal (ofText text) where
  root := rootOf_cases _
  parts := by
    intro part member
    obtain ⟨among, word⟩ := List.mem_filter.1 member
    obtain ⟨piece, cut, rfl⟩ := List.mem_map.1 among
    obtain ⟨inside, nonempty⟩ := List.mem_filter.1 cut
    refine ⟨?_, by simpa using word, ?_⟩
    · simpa using nonempty
    · rw [String.toList_ofList]
      exact Text.not_mem_of_mem_splitOn inside

private theorem normal_join (first : Normal base) (second : Normal path) :
    Normal (base.join path) := by
  rw [join]
  split
  · refine ⟨first.root, fun part member => ?_⟩
    rcases List.mem_append.1 member with above | below
    · exact first.parts part above
    · exact second.parts part below
  · exact second

theorem normal_child (first : Normal base) (text : String) : Normal (base.child text) :=
  normal_join first (normal_ofText text)

/-! ## The text of a path -/

theorem toList_text (inner : path.parts ≠ []) :
    path.text.toList = path.root.toList ++ ['/'].intercalate (path.parts.map String.toList) := by
  rw [Path.text, if_neg fun none => inner none.2, String.toList_append, String.toList_intercalate]
  rfl

/-- Behind its root the text of a path with components does not start with a slash. -/
theorem toList_text_cons (normal : Normal path) (inner : path.parts ≠ []) :
    ∃ c rest, c ≠ '/' ∧ path.text.toList = path.root.toList ++ c :: rest := by
  obtain ⟨part, others, parts⟩ := List.exists_cons_of_ne_nil inner
  have first := normal.parts part (by rw [parts]; exact List.mem_cons_self)
  obtain ⟨c, rest, chars⟩ := List.exists_cons_of_ne_nil
    (show part.toList ≠ [] by simpa using first.nonempty)
  have other : c ≠ '/' := by
    rintro rfl
    exact first.whole (by rw [chars]; exact List.mem_cons_self)
  obtain ⟨more, starts⟩ : ∃ more,
      ['/'].intercalate (path.parts.map String.toList) = part.toList ++ more := by
    rw [parts, List.map_cons]
    exact Text.intercalate_starts _ _
  exact ⟨c, rest ++ more, other, by rw [toList_text inner, starts, chars, List.cons_append]⟩

/-- A path with components starts with a slash only because of its root. -/
theorem head?_text (normal : Normal path) (inner : path.parts ≠ []) :
    path.text.toList.head? = some '/' ↔ path.root ≠ "" := by
  obtain ⟨c, rest, other, chars⟩ := toList_text_cons normal inner
  rw [chars]
  rcases normal.root with root | root | root <;> simp [root, other]

/-- No path with components ends in a slash. -/
theorem getLast?_text (normal : Normal path) (inner : path.parts ≠ []) :
    path.text.toList.getLast? ≠ some '/' := by
  obtain ⟨others, last, parts⟩ : ∃ others last, path.parts = others ++ [last] :=
    ⟨_, _, (List.dropLast_concat_getLast inner).symm⟩
  have final := normal.parts last (by simp [parts])
  obtain ⟨start, same⟩ : ∃ start,
      ['/'].intercalate (path.parts.map String.toList) = start ++ last.toList := by
    rw [parts, List.map_append]
    exact Text.intercalate_ends _ _
  rw [toList_text inner, same, ← List.append_assoc, List.getLast?_append]
  cases ends : last.toList.getLast? with
  | none => exact absurd (List.getLast?_eq_none_iff.1 ends) (by simpa using final.nonempty)
  | some c =>
    rintro ⟨⟩
    exact final.whole (List.mem_of_getLast? ends)

/-- The components of a path's text are the components of the path. -/
theorem components_text (normal : Normal path) (inner : path.parts ≠ []) :
    components path.text = path.parts := by
  have cut : (['/'].intercalate (path.parts.map String.toList)).splitOn '/' =
      path.parts.map String.toList := by
    apply List.splitOn_intercalate
    · intro piece member
      obtain ⟨part, among, rfl⟩ := List.mem_map.1 member
      exact (normal.parts part among).whole
    · simpa using inner
  have kept : (path.parts.map String.toList).filter (!·.isEmpty) = path.parts.map String.toList := by
    apply List.filter_eq_self.2
    intro piece member
    obtain ⟨part, among, rfl⟩ := List.mem_map.1 member
    simpa using (normal.parts part among).nonempty
  have back : (path.parts.map String.toList).map String.ofList = path.parts := by
    simp [Function.comp_def]
  rw [components, toList_text inner]
  rcases normal.root with root | root | root <;>
    simp [root, List.splitOn_cons_eq_if_modifyHead, cut, kept, back]

/-- A path with components is that of its own text. -/
theorem ofText_text (normal : Normal path) (inner : path.parts ≠ []) : ofText path.text = path := by
  obtain ⟨c, rest, other, chars⟩ := toList_text_cons normal inner
  have root : rootOf path.text.toList = path.root := by
    rw [chars]
    rcases normal.root with root | root | root <;> simp [root, rootOf, other]
  have words : path.parts.filter (· != ".") = path.parts :=
    List.filter_eq_self.2 fun part member => by simpa using (normal.parts part member).word
  rw [ofText, components_text normal inner, words, root]

/-- The text of a path is made of the characters of its components and of slashes. -/
theorem mem_of_mem_text (normal : Normal path) (inner : path.parts ≠ []) {c : Char}
    (member : c ∈ path.text.toList) : c = '/' ∨ ∃ part ∈ path.parts, c ∈ part.toList := by
  rw [toList_text inner, List.mem_append] at member
  rcases member with root | inside
  · rcases normal.root with same | same | same <;> rw [same] at root <;> simp_all
  · rcases Text.mem_of_mem_intercalate inside with slash | ⟨piece, among, within⟩
    · exact .inl (List.mem_singleton.1 slash)
    · obtain ⟨part, known, rfl⟩ := List.mem_map.1 among
      exact .inr ⟨part, known, within⟩

end Path

namespace FileTree

variable {tree : FileTree} {path : Path}

/-- The place from which a path with a root is followed. -/
def base (tree : FileTree) (root : String) : List String :=
  if root = "" then tree.workingDirectory else []

/-- What is followed for the text of a path: its components, or just a dot. -/
theorem route_text (normal : path.Normal) :
    route path.text = if path.parts = [] then ["."] else path.parts := by
  split
  · next none =>
    obtain ⟨root, parts⟩ := path
    obtain rfl : parts = [] := none
    rcases normal.root with rfl | rfl | rfl <;> decide +kernel
  · next inner =>
    rw [route, if_neg (path.getLast?_text normal inner), List.append_nil,
      path.components_text normal inner]

theorem origin_text (normal : path.Normal) :
    tree.origin path.text = (tree.base path.root, .directory) := by
  rw [origin, base]
  congr 1
  by_cases inner : path.parts = []
  · obtain ⟨root, parts⟩ := path
    obtain rfl : parts = [] := inner
    rcases normal.root with rfl | rfl | rfl <;> rfl
  · simp only [path.head?_text normal inner, ne_eq, ite_not]

/-- The components of a path, followed one after the other. -/
def follow (tree : FileTree) (start : List String) (parts : List String) :
    Except Fault (List String × Node) :=
  parts.foldlM tree.step (start, .directory)

@[simp] theorem follow_nil (start : List String) :
    tree.follow start [] = .ok (start, .directory) := rfl

theorem follow_append (start front back : List String) :
    tree.follow start (front ++ back) =
      tree.follow start front >>= fun reached => back.foldlM tree.step reached := by
  rw [follow, List.foldlM_append]
  rfl

theorem follow_concat (start front : List String) (last : String) :
    tree.follow start (front ++ [last]) =
      tree.follow start front >>= fun reached => tree.step reached last := by
  rw [follow_append]
  congr 1
  funext reached
  exact bind_pure (tree.step reached last)

theorem follow_of_ok {start front place : List String} {node : Node} {last : String}
    (reached : tree.follow start front = .ok (place, node)) :
    tree.follow start (front ++ [last]) = tree.step (place, node) last := by
  rw [follow_concat, reached]
  rfl

theorem follow_of_error {start front : List String} {fault : Fault} (last : String)
    (failed : tree.follow start front = .error fault) :
    tree.follow start (front ++ [last]) = .error fault := by
  rw [follow_concat, failed]
  rfl

/-- To follow the text of a path is to follow its components. -/
theorem resolve_text (normal : path.Normal) :
    tree.resolve path.text =
      checkText path.text >>= fun _ => tree.follow (tree.base path.root) path.parts := by
  rw [resolve, route_text normal, origin_text normal]
  split
  · next none =>
    rw [none]
    rfl
  · rfl

/-- To locate the text of a path is to follow its components but the last. -/
theorem locate_text {last : String} {front : List String} {root : String}
    (normal : Path.Normal ⟨root, front ++ [last]⟩) :
    tree.locate (Path.text ⟨root, front ++ [last]⟩) = (do
      checkText (Path.text ⟨root, front ++ [last]⟩)
      let (place, node) ← tree.follow (tree.base root) front
      match node with
      | .file _ => throw .notDirectory
      | .directory =>
        if last = "." || last = ".." then return (place, none)
        else if last.utf8ByteSize > nameLimit then throw .nameTooLong
        else return (place, some last)) := by
  rw [locate, route_text normal, origin_text normal, if_neg (by simp)]
  simp only [List.getLast?_concat, List.dropLast_concat]
  rfl

end FileTree

end DelegateClasses
