import DelegateClasses.Proofs.Delegate.TwoRuns

/-! The places at which the files of a run stand, seen from the place of the output
directory. Main statement: whatever was made for other classes leaves the way to the
file of a class as it was, if no file of a class is above that of another one. -/
namespace DelegateClasses

namespace Delegate
open FileTree Steps

variable {text package : String} {directory : Path} {declared : ClassDecl} {own : State}
variable {place : List String} {before after : FileTree} {targets : List (List String)}
variable {site : Site} {c : Char}

/-! ## Characters -/

private theorem mem_of_mem_qualifiedName (member : c ∈ declared.type.qualifiedName.toList) :
    c ∈ declared.name.toList := by
  rw [TypeRef.qualifiedName, TypeTree.withoutArguments, String.toList_ofList] at member
  exact (List.takeWhile_sublist _).subset ((Text.trim_within _).subset member)

private theorem mem_of_mem_simpleName (member : c ∈ declared.simpleName.toList) :
    c ∈ declared.name.toList := by
  rw [ClassDecl.simpleName, TypeRef.simpleName, DottedName.simple, String.toList_ofList,
    DottedName.lastSegment, List.mem_reverse] at member
  have inside := (List.takeWhile_sublist _).subset member
  exact mem_of_mem_qualifiedName (List.mem_reverse.1 inside)

private theorem mem_of_mem_package (owned : declared.package? = some package)
    (member : c ∈ package.toList) : c ∈ declared.name.toList := by
  rw [ClassDecl.package?, TypeRef.package?, DottedName.package?_eq_some] at owned
  obtain ⟨rest, -, shape⟩ := owned
  apply mem_of_mem_qualifiedName
  rw [shape]
  exact List.mem_append_left _ member

/-- Without null characters in the names there are none in the path. -/
theorem outputPath_nameable (top : '\x00' ∉ text.toList) (name : '\x00' ∉ declared.name.toList)
    (suffix : '\x00' ∉ own.suffix.toList) (owned : declared.package? = some package) :
    ∀ part ∈ (outputPath (.ofText text) package (own.generatedName declared)).parts,
      '\x00' ∉ part.toList := by
  intro part member null
  rcases Path.mem_child member with inner | file
  · rcases Path.mem_child inner with above | owner
    · exact top (Path.mem_of_mem_part above null)
    · have inside := Path.mem_of_mem_part owner null
      rw [DottedName.directory, String.toList_ofList] at inside
      obtain ⟨c, among, same⟩ := List.mem_map.1 inside
      split at same
      · cases same
      · subst same
        exact name (mem_of_mem_package owned among)
  · have inside := Path.mem_of_mem_part file null
    rw [State.generatedName, String.toList_append, String.toList_append] at inside
    rcases List.mem_append.1 inside with own | ending
    · exact (List.mem_append.1 own).elim (fun simple => name (mem_of_mem_simpleName simple)) suffix
    · revert ending
      decide

/-! ## Places -/

/-- The path leads to the place: it leads to a directory as far as it is there, and
downwards from there. -/
def Aims (tree : FileTree) (directory : Path) (place : List String) : Prop :=
  ∃ known names above, directory.parts = known ++ names ∧ Downward names ∧
    tree.follow (tree.base directory.root) known = .ok (above, .directory) ∧ place = above ++ names

/-- The place of the file of a class, if the output directory is at a given place. -/
def filePlace (place : List String) (own : State) (declared : ClassDecl) : Option (List String) :=
  declared.package?.map fun package =>
    let inner := relativePath package (own.generatedName declared)
    if inner.root = "" then place ++ inner.parts else inner.parts

/-- The path of a class's file leads to its place. -/
structure Leads (tree : FileTree) (site : Site) : Prop where
  normal : site.path.Normal
  downward : Downward (site.names ++ [site.file])
  leads : tree.follow (tree.base site.root) site.known = .ok (site.place, .directory)

theorem exists_site (aims : Aims before (.ofText text) place) (plain : '/' ∉ own.suffix.toList)
    (owned : declared.package? = some package) :
    ∃ site : Site, filePlace place own declared = some site.target ∧
      outputPath (.ofText text) package (own.generatedName declared) = site.path ∧
      Leads before site := by
  obtain ⟨known, names, above, parts, down, leads, rfl⟩ := aims
  obtain ⟨inner, file, below, downward⟩ : ∃ inner file,
      (relativePath package (own.generatedName declared)).parts = inner ++ [file] ∧
      Downward (inner ++ [file]) := relativePath_downward (simpleName_dotless declared) plain
  have normal : (outputPath (.ofText text) package (own.generatedName declared)).Normal :=
    Path.normal_child (Path.normal_child (Path.normal_ofText text) _) _
  have joined := outputPath_eq (.ofText text) package (own.generatedName declared)
  rw [Path.join] at joined
  rw [filePlace, owned]
  by_cases relative : (relativePath package (own.generatedName declared)).root = ""
  · rw [if_pos relative] at joined
    have path : outputPath (.ofText text) package (own.generatedName declared) =
        Site.path ⟨(Path.ofText text).root, known, above, names ++ inner, file⟩ := by
      rw [joined, Site.path, parts, below]
      simp
    refine ⟨⟨(Path.ofText text).root, known, above, names ++ inner, file⟩, ?_, path, ?_, ?_, leads⟩
    · simp [relative, Site.target, below]
    · rwa [path] at normal
    · intro name member
      rw [List.append_assoc] at member
      exact (List.mem_append.1 member).elim (down name) (downward name)
  · rw [if_neg relative] at joined
    have path : outputPath (.ofText text) package (own.generatedName declared) =
        Site.path ⟨(relativePath package (own.generatedName declared)).root, [], [], inner, file⟩ := by
      rw [joined, Site.path, List.nil_append, ← below]
    refine ⟨_, ?_, path, ?_, downward, ?_⟩
    · simp [relative, Site.target, below]
    · rwa [path] at normal
    · rw [base, if_neg relative]
      rfl

/-! ## The way to a file -/

/-- The places between two others are above what stands at the end. -/
private theorem rooted_onWay (rooted : before.Rooted) {front : List String} {name : String}
    {node : Node} (stands : before.node? (place ++ (front ++ [name])) = some node)
    {other : List String}
    (onWay : OnWay place (place ++ front) other) : before.node? other = some .directory := by
  obtain ⟨rest, same⟩ := onWay.2.2
  rw [← List.append_assoc, ← same, List.append_assoc] at stands
  exact rooted_above rooted stands (by simp)

/-- A file can still be made where it could be made at first. -/
theorem ready_of_grown (rooted : before.Rooted) (leads : Leads before site)
    (grown : Grown targets before after)
    (apart : ∀ target ∈ targets, ¬ target <+: site.target) : site.Ready after where
  backed := by
    intro front name content within stands other onWay
    have untouched : site.place ++ (front ++ [name]) ∉ targets := fun member =>
      apart _ member (site.prefix_target within)
    rw [grown.touches.others _ untouched] at stands
    obtain ⟨node, there, -⟩ := Option.bind_eq_some_iff.1 stands
    obtain ⟨now, still, kind⟩ := grown.touches.kept _ _ (rooted_onWay rooted there onWay)
    cases now with
    | directory => exact still
    | file content => cases kind
  normal := leads.normal
  downward := leads.downward
  leads := by
    obtain ⟨⟨later, node⟩, followed, same, kind⟩ :=
      steps_touch grown.touches site.known ⟨rfl, rfl⟩ leads.leads
    obtain rfl : later = site.place := same
    rw [follow, base, grown.touches.workingDirectory]
    cases node with
    | directory => exact followed
    | file content => cases kind

/-- What was made for other classes leaves the way to the file of a class as it was. -/
theorem sameWay_of_grown (rooted : before.Rooted) (leads : Leads before site)
    (nameable : ∀ part ∈ site.path.parts, '\x00' ∉ part.toList)
    (grown : Grown targets before after)
    (apart : ∀ target ∈ targets, ¬ target <+: site.target ∧ ¬ site.target <+: target) :
    SameWay site before after where
  ready := ready_of_grown rooted leads (grown_refl before) fun _ member => (by cases member)
  counterpart := ready_of_grown rooted leads grown fun target member => (apart target member).1
  alike := by
    constructor
    · intro other onWay
      have untouched : other ∉ targets := fun member =>
        (apart other member).1 (onWay.2.2.trans (site.prefix_target (List.prefix_refl _)))
      rw [grown.touches.others other untouched]
    · rw [grown.elsewhere site.target fun target member => (apart target member).2]
  nameable := nameable

end Delegate

end DelegateClasses
