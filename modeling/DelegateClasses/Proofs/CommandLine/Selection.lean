import DelegateClasses.Proofs.CommandLine.Preparation
import DelegateClasses.Proofs.Storage.Spelling
import DelegateClasses.Proofs.Text.Ascending

/-! Which models are selected. Paths are compared as they are written, so a file that is
reached by two spellings is selected twice, and an exclusion leaves alone what it spells in
another way. Main statement: the paths that are selected ascend and are those that are
included and not excluded, and where all of them are spelled alike, none leads to a file that
another one leads to, or that is excluded. -/
namespace DelegateClasses.CommandLine
open FileTree DelegateClasses.Path

variable {tree : FileTree} {root top path : String} {texts paths excludes found : List String}
variable {recursive : Bool} {stands : String → Except FileError (List String)}

/-- The path is one of those that texts stand for. -/
def StandFor (stands : String → Except FileError (List String)) (texts : List String)
    (path : String) : Prop :=
  ∃ text ∈ texts, ∃ found, stands text = .ok found ∧ path ∈ found

private theorem mem_flatten_iff_standFor {results : List (List String)}
    (ran : texts.mapM stands = .ok results) :
    path ∈ results.flatten ↔ StandFor stands texts path := by
  rw [List.mem_flatten]
  constructor
  · rintro ⟨found, among, inside⟩
    obtain ⟨text, member, gave⟩ := Steps.mapM_eq_ok ran found among
    exact ⟨text, member, found, gave, inside⟩
  · rintro ⟨text, member, found, gave, inside⟩
    obtain ⟨result, among, same⟩ := Steps.mapM_eq_ok_of_mem ran text member
    cases gave.symm.trans same
    exact ⟨found, among, inside⟩

/-- A selection has the paths that are included and not excluded, in order. -/
theorem modelPaths_eq_ok (selected : modelPaths tree root paths excludes recursive = .ok found) :
    found.Pairwise (· < ·) ∧ ∀ path, path ∈ found ↔
      StandFor (includedBy tree root recursive) paths path ∧
        ¬ StandFor (excludedBy tree root recursive) excludes path := by
  unfold modelPaths at selected
  obtain ⟨excluded, leaving, rest⟩ := Steps.except_bind_eq_ok selected
  obtain ⟨included, taking, last⟩ := Steps.except_bind_eq_ok rest
  cases last
  refine ⟨Text.ascendingOnce_strict _, fun path => ?_⟩
  rw [Text.mem_ascendingOnce, List.mem_filter, mem_flatten_iff_standFor taking]
  simp only [Bool.not_eq_true', List.contains_eq_mem, decide_eq_false_iff_not,
    mem_flatten_iff_standFor leaving]

/-- What is included is spelled like the text that stands for it. -/
theorem includedBy_alike (entries : tree.NamedEntries) (firm : Firm top)
    (plain : Wildcard.isPattern top = false) {text : String}
    (alike : Alike top (joinText root text))
    (stood : includedBy tree root recursive text = .ok found) : ∀ path ∈ found, Alike top path := by
  unfold includedBy at stood
  simp only at stood
  split at stood
  · cases stood
    intro path member
    have inside := (List.mem_filter.1 member).1
    split at inside
    · exact filesBelow_alike entries _ alike path inside
    · exact filesIn_alike entries alike path inside
  · exact matching_alike entries firm plain recursive alike stood

private theorem excludedBy_alike (entries : tree.NamedEntries) (firm : Firm top)
    (plain : Wildcard.isPattern top = false) {text : String}
    (alike : Alike top (joinText root text))
    (stood : excludedBy tree root recursive text = .ok found) : ∀ path ∈ found, Alike top path := by
  unfold excludedBy at stood
  simp only at stood
  split at stood
  · cases stood
    intro path member
    rwa [List.mem_singleton.1 member]
  · exact matching_alike entries firm plain recursive alike stood

/-- **The selection ascends and has what is included and not excluded, as it is written.**
Where all inclusions go down from one directory by the same text, no file is selected twice,
and where the exclusions do so too, no file that an exclusion stands for is selected. -/
theorem selection_tells_spellings_apart (tree : FileTree) (root : String)
    (paths excludes : List String) (recursive : Bool) :
    (Nameable root → tree.NameableEntries → (∀ path ∈ paths, Nameable path) →
      (∀ path ∈ excludes, Nameable path) →
      ∃ found, modelPaths tree root paths excludes recursive = .ok found) ∧
    ∀ found, modelPaths tree root paths excludes recursive = .ok found →
      found.Pairwise (· < ·) ∧
      (∀ path, path ∈ found ↔ StandFor (includedBy tree root recursive) paths path ∧
        ¬ StandFor (excludedBy tree root recursive) excludes path) ∧
      ∀ top, tree.NamedEntries → Firm top → Wildcard.isPattern top = false →
        (∀ path ∈ paths, Alike top (joinText root path)) →
        (∀ place, ∀ path ∈ found, ∀ other ∈ found,
          tree.LeadsToFile path place → tree.LeadsToFile other place → path = other) ∧
        ((∀ exclude ∈ excludes, Alike top (joinText root exclude)) →
          ∀ place, ∀ path ∈ found, ∀ other,
            StandFor (excludedBy tree root recursive) excludes other →
            tree.LeadsToFile path place → ¬ tree.LeadsToFile other place) := by
  constructor
  · intro above entries including excluding
    obtain ⟨found, selected, -⟩ := modelPaths_ok above entries including excluding recursive
    exact ⟨found, selected⟩
  · intro found selected
    obtain ⟨ascends, members⟩ := modelPaths_eq_ok selected
    refine ⟨ascends, members, fun top entries firm plain including => ?_⟩
    have alike : ∀ path ∈ found, Alike top path := by
      intro path member
      obtain ⟨text, among, stood, gave, inside⟩ := ((members path).1 member).1
      exact includedBy_alike entries firm plain (including text among) gave path inside
    constructor
    · intro place path member other also leads too
      exact eq_of_same_file (alike path member) (alike other also) leads too
    · intro excluding place path member other stands leads too
      have different : Alike top other := by
        obtain ⟨text, among, stood, gave, inside⟩ := stands
        exact excludedBy_alike entries firm plain (excluding text among) gave other inside
      obtain rfl := eq_of_same_file (alike path member) different leads too
      exact ((members path).1 member).2 stands

/-- A model that is given by its directory and by its path is selected once, and one that is
excluded is not selected. -/
theorem model_given_twice_selected_once :
    let tree : FileTree := ⟨["w"], [(["w"], .directory), (["w", "models"], .directory),
      (["w", "models", "a.model.json"], .file .empty),
      (["w", "models", "b.model.json"], .file .empty)]⟩
    let paths := ["models", "models/a.model.json"]
    let excludes := ["models/b.model.json"]
    let found := ["/w/models/a.model.json"]
    modelPaths tree "/w" paths excludes false = .ok found ∧
    tree.NamedEntries ∧ Firm "/w" ∧ Wildcard.isPattern "/w" = false ∧
    (∀ path ∈ paths, Alike "/w" (joinText "/w" path)) ∧
    (∀ exclude ∈ excludes, Alike "/w" (joinText "/w" exclude)) ∧
    ∀ place, ∀ path ∈ found, ∀ other,
      StandFor (excludedBy tree "/w" false) excludes other →
      tree.LeadsToFile path place → ¬ tree.LeadsToFile other place := by
  intro tree paths excludes found
  have taking : paths.mapM (includedBy tree "/w" false) =
      .ok [["/w/models/a.model.json", "/w/models/b.model.json"], ["/w/models/a.model.json"]] := by
    decide +kernel
  have leaving : excludes.mapM (excludedBy tree "/w" false) = .ok [["/w/models/b.model.json"]] := by
    decide +kernel
  have selected : modelPaths tree "/w" paths excludes false = .ok found := by
    rw [modelPaths_of_ok taking leaving]
    exact congrArg _ (Text.eq_of_ascending (Text.ascendingOnce_strict _) (by decide)
      fun path => by simp [Text.mem_ascendingOnce, found])
  have entries : tree.NamedEntries := by
    unfold NamedEntries
    decide
  have including : ∀ path ∈ paths, Alike "/w" (joinText "/w" path) := by
    intro path member
    rcases List.mem_pair.1 member with rfl | rfl
    · exact ⟨["models"], by decide, .inl (by decide)⟩
    · exact ⟨["models", "a.model.json"], by decide, .inl (by decide)⟩
  have excluding : ∀ exclude ∈ excludes, Alike "/w" (joinText "/w" exclude) := by
    intro exclude member
    obtain rfl := List.mem_singleton.1 member
    exact ⟨["models", "b.model.json"], by decide, .inl (by decide)⟩
  have fine := (selection_tells_spellings_apart tree "/w" paths excludes false).2 found selected
  exact ⟨selected, entries, by decide, by decide, including, excluding,
    (fine.2.2 "/w" entries (by decide) (by decide) including).2 excluding⟩

/-- In two spellings one file is selected twice, and an exclusion in another spelling leaves
it selected. -/
theorem respelled_file_selected_again :
    let tree : FileTree := ⟨["w"], [(["w"], .directory), (["w", "models"], .directory),
      (["w", "models", "a.model.json"], .file .empty)]⟩
    let place := ["w", "models", "a.model.json"]
    modelPaths tree "/w" ["models", "./models"] [] false =
      .ok ["/w/./models/a.model.json", "/w/models/a.model.json"] ∧
    modelPaths tree "/w" ["models"] ["./models/a.model.json"] false =
      .ok ["/w/models/a.model.json"] ∧
    tree.LeadsToFile "/w/./models/a.model.json" place ∧
    tree.LeadsToFile "/w/models/a.model.json" place := by
  intro tree place
  have twice : ["models", "./models"].mapM (includedBy tree "/w" false) =
      .ok [["/w/models/a.model.json"], ["/w/./models/a.model.json"]] := by
    decide +kernel
  refine ⟨?_, by decide +kernel, by decide +kernel, by decide +kernel⟩
  rw [modelPaths_of_ok twice rfl]
  exact congrArg _ (Text.eq_of_ascending (Text.ascendingOnce_strict _) (by decide)
    fun path => by simp [Text.mem_ascendingOnce, or_comm])

end DelegateClasses.CommandLine
