import DelegateClasses.Proofs.Storage.Directories

/-! Changes to a tree that are told place by place. Each of them puts directories on the
way to one target and perhaps a file at the target. Main statements: changes with targets
that are not above one another leave the same in any order, and a path that keeps away
from the targets reads the same all the while. -/
namespace DelegateClasses

/-- What is put at each place, if anything. -/
abbrev Patch := List String → Option Node

namespace Patch

/-- Nothing is put anywhere. -/
def nothing : Patch := fun _ => none

/-- Directories are put above the target only, and nothing elsewhere. -/
def Ends (patch : Patch) (target? : Option (List String)) : Prop :=
  ∀ place node, patch place = some node →
    ∃ target, target? = some target ∧ place <+: target ∧ (place ≠ target → node = .directory)

/-- Both patches put the same wherever both put something. -/
def Compatible (patch other : Patch) : Prop :=
  ∀ place node counterpart, patch place = some node → other place = some counterpart →
    node = counterpart

variable {patch other : Patch} {target? other? : Option (List String)}

theorem ends_nothing : nothing.Ends target? := by
  intro place node put
  cases put

/-- Neither target is above the other one, or the same. -/
def Apart (targets others : Option (List String)) : Prop :=
  ∀ target other, targets = some target → others = some other →
    ¬ target <+: other ∧ ¬ other <+: target

/-- Patches that lead to targets that are apart put nothing but directories in common. -/
theorem compatible_of_apart (ends : patch.Ends target?) (counterparts : other.Ends other?)
    (apart : Apart target? other?) : patch.Compatible other := by
  intro place node counterpart put again
  obtain ⟨target, here, within, directory⟩ := ends place node put
  obtain ⟨last, there, inside, likewise⟩ := counterparts place counterpart again
  obtain ⟨below, above⟩ := apart target last here there
  have early : place ≠ target := by
    rintro rfl
    exact below inside
  have soon : place ≠ last := by
    rintro rfl
    exact above within
  rw [directory early, likewise soon]

end Patch

namespace FileTree
open Steps

variable {before middle after other : FileTree} {patch : Patch}
variable {target? : Option (List String)} {targets more : List (List String)} {path : String}

/-- The patch was put on the tree. It fits there: no directory takes the place of a file,
and no file that of a directory. -/
structure Patched (patch : Patch) (before after : FileTree) : Prop where
  workingDirectory : after.workingDirectory = before.workingDirectory
  nodes : ∀ place, after.node? place = (patch place).or (before.node? place)
  kinds : ∀ place node old, patch place = some node → before.node? place = some old →
    node.isDirectory = old.isDirectory

theorem patched_nothing (tree : FileTree) : Patched .nothing tree tree :=
  ⟨rfl, fun _ => rfl, fun _ _ _ put => (by cases put)⟩

private theorem touches_of_patched (patched : Patched patch before after)
    (ends : patch.Ends target?) :
    Touches target?.toList before after where
  workingDirectory := patched.workingDirectory
  kept := by
    intro place node stands
    rw [patched.nodes]
    cases put : patch place with
    | none => exact ⟨node, stands, rfl⟩
    | some now => exact ⟨now, rfl, patched.kinds place now node put stands⟩
  others := by
    intro place outside
    rw [file?, file?, patched.nodes]
    cases put : patch place with
    | none => rfl
    | some node =>
      obtain ⟨target, rfl, within, directory⟩ := ends place node put
      have early : place ≠ target := by
        rintro rfl
        exact outside (by simp)
      cases stands : before.node? place with
      | none =>
        rw [directory early]
        rfl
      | some old =>
        have kind := patched.kinds place node old put stands
        rw [directory early] at kind ⊢
        cases old with
        | directory => rfl
        | file content => cases kind

/-! ## One patch after the other -/

/-- All that differs in one of the results is as it is there, and nothing else is
different. -/
structure Overlaid (results : List FileTree) (before after : FileTree) : Prop where
  put : ∀ result ∈ results, ∀ place, result.node? place ≠ before.node? place →
    after.node? place = result.node? place
  others : ∀ place, (∀ result ∈ results, result.node? place = before.node? place) →
    after.node? place = before.node? place

theorem overlaid_nil (tree : FileTree) : Overlaid [] tree tree :=
  ⟨fun _ member => (by cases member), fun _ _ => rfl⟩

/-- A patch that does not contradict the earlier ones adds what it makes by itself. -/
theorem overlaid_concat {results : List FileTree} {alone : FileTree}
    (overlaid : Overlaid results before middle) (solo : Patched patch before alone)
    (patched : Patched patch middle after)
    (compatible : ∀ result ∈ results, ∃ other : Patch, Patched other before result ∧
      patch.Compatible other) :
    Overlaid (results ++ [alone]) before after where
  put := by
    intro result member place differs
    rw [patched.nodes]
    rcases List.mem_append.1 member with earlier | last
    · cases now : patch place with
      | none => exact overlaid.put result earlier place differs
      | some node =>
        obtain ⟨other, made, agrees⟩ := compatible result earlier
        rw [made.nodes] at differs ⊢
        cases again : other place with
        | none => exact absurd (by rw [again, Option.none_or]) differs
        | some counterpart =>
          rw [agrees place node counterpart now again, Option.some_or, Option.some_or]
    · rw [List.mem_singleton.1 last] at differs ⊢
      rw [solo.nodes] at differs ⊢
      cases now : patch place with
      | none => exact absurd (by rw [now, Option.none_or]) differs
      | some node => rw [Option.some_or, Option.some_or]
  others := by
    intro place untouched
    have same := untouched alone (by simp)
    rw [solo.nodes] at same
    rw [patched.nodes]
    cases now : patch place with
    | none =>
      rw [Option.none_or]
      exact overlaid.others place fun result member =>
        untouched result (List.mem_append_left _ member)
    | some node =>
      rw [now] at same
      exact same

/-- The same results are overlaid to the same, whatever their order is. -/
theorem overlaid_unique {results others : List FileTree} (overlaid : Overlaid results before after)
    (again : Overlaid others before other) (same : ∀ result, result ∈ results ↔ result ∈ others)
    (place : List String) : after.node? place = other.node? place := by
  by_cases untouched : ∀ result ∈ results, result.node? place = before.node? place
  · rw [overlaid.others place untouched, again.others place fun result member =>
      untouched result ((same result).2 member)]
  · obtain ⟨result, differs⟩ := not_forall.1 untouched
    obtain ⟨member, differs⟩ := Classical.not_imp.1 differs
    rw [overlaid.put result member place differs,
      again.put result ((same result).1 member) place differs]

/-! ## What patches leave alone -/

/-- The tree grew on the way to some targets, and nowhere else. -/
structure Grown (targets : List (List String)) (before after : FileTree) : Prop where
  touches : Touches targets before after
  elsewhere : ∀ place, (∀ target ∈ targets, ¬ place <+: target) →
    after.node? place = before.node? place

theorem grown_refl (tree : FileTree) : Grown [] tree tree :=
  ⟨touches_refl tree, fun _ _ => rfl⟩

theorem grown_mono (grown : Grown targets before after) (within : targets ⊆ more) :
    Grown more before after :=
  ⟨touches_mono grown.touches within, fun place outside =>
    grown.elsewhere place fun target member => outside target (within member)⟩

theorem grown_patched (grown : Grown targets before middle) (patched : Patched patch middle after)
    (ends : patch.Ends target?) : Grown (targets ++ target?.toList) before after where
  touches := touches_trans grown.touches (touches_of_patched patched ends)
  elsewhere := by
    intro place outside
    have earlier := grown.elsewhere place fun target member =>
      outside target (List.mem_append_left _ member)
    rw [patched.nodes, earlier]
    cases put : patch place with
    | none => rfl
    | some node =>
      obtain ⟨target, rfl, within, -⟩ := ends place node put
      exact absurd within (outside target (by simp))

/-! ## Reading beside the targets -/

/-- The path keeps away from the targets. If it leads to a file, this is no target. If it
leads nowhere, it does not lead to a target or above or below one, and it does not pass
through directories that may be made on the way there with two dots or a name that is
too long. -/
structure Undisturbed (tree : FileTree) (targets : List (List String)) (path : String) : Prop where
  file : ∀ place content, tree.resolve path = .ok (place, .file content) → place ∉ targets
  missing : ∀ front name rest above, route path = front ++ name :: rest →
    front.foldlM tree.step (tree.origin path) = .ok (above, .directory) →
    tree.node? (above ++ [name]) = none → ∀ target ∈ targets, above ++ [name] <+: target →
    Downward rest ∧ (∀ part ∈ rest, part.utf8ByteSize ≤ nameLimit) ∧
      ¬ above ++ name :: rest <+: target ∧ ¬ target <+: above ++ name :: rest

/-- Below a place where nothing stands nothing stands. -/
private theorem missing_below (rooted : before.Rooted) {lost place : List String}
    (missing : before.node? lost = none) (below : lost <+: place) : before.node? place = none := by
  obtain ⟨rest, rfl⟩ := below
  by_cases inner : rest = []
  · rwa [inner, List.append_nil]
  · cases stands : before.node? (lost ++ rest) with
    | none => rfl
    | some node => cases missing.symm.trans (rooted_above rooted stands inner)

section Missing

variable {lost whole place names : List String}
variable (rooted : before.Rooted) (grown : Grown targets before after)
variable (missing : before.node? lost = none)
variable (apart : ∀ target ∈ targets, lost <+: target →
  ¬ whole <+: target ∧ ¬ target <+: whole)

include rooted grown missing apart

/-- On a way that keeps away from the targets nothing is made but directories, and
nothing at its end. -/
private theorem made_missing (below : lost <+: place) (within : place <+: whole) :
    after.node? place = none ∨ after.node? place = some .directory ∧ place ≠ whole := by
  have gone := missing_below rooted missing below
  by_cases outside : place ∈ targets
  · exact absurd within (apart place outside below).2
  · have free : after.file? place = none := by
      rw [grown.touches.others place outside, file?, gone]
      rfl
    rcases node?_of_no_file free with none | stands
    · exact .inl none
    · refine .inr ⟨stands, ?_⟩
      rintro rfl
      have same := grown.elsewhere place fun target member within =>
        (apart target member (below.trans within)).1 within
      cases (stands.symm.trans same).trans gone

/-- Such a way leads nowhere. -/
private theorem steps_missing (parts : place ++ names = whole) (inner : names ≠ [])
    (downward : Downward names) (short : ∀ name ∈ names, name.utf8ByteSize ≤ nameLimit)
    (behind : ∀ name rest, names = name :: rest → lost <+: place ++ [name]) :
    names.foldlM after.step (place, .directory) = .error .notFound := by
  induction names generalizing place with
  | nil => exact absurd rfl inner
  | cons name rest ih =>
    obtain ⟨here, up⟩ := downward name List.mem_cons_self
    have below := behind name rest rfl
    have within : place ++ [name] <+: whole := ⟨rest, by rw [← parts]; simp⟩
    rw [List.foldlM_cons, step_down here up (short name List.mem_cons_self)]
    rcases made_missing rooted grown missing apart below within with gone | ⟨stands, early⟩
    · rw [gone]
      rfl
    · rw [stands]
      apply ih
      · rw [← parts, List.append_assoc]
        rfl
      · rintro rfl
        exact early parts
      · exact fun other member => downward other (List.mem_cons_of_mem _ member)
      · exact fun other member => short other (List.mem_cons_of_mem _ member)
      · exact fun other _ _ => below.trans (List.prefix_append _ _)

end Missing

/-- What could not be followed cannot be followed later, for the same reason. -/
theorem steps_undisturbed (rooted : before.Rooted) (grown : Grown targets before after)
    {name : String} {rest above : List String} {fault : Fault}
    (stopped : before.step (above, .directory) name = .error fault)
    (kept : before.node? (above ++ [name]) = none → ∀ target ∈ targets,
      above ++ [name] <+: target →
      Downward rest ∧ (∀ part ∈ rest, part.utf8ByteSize ≤ nameLimit) ∧
        ¬ above ++ name :: rest <+: target ∧ ¬ target <+: above ++ name :: rest) :
    (name :: rest).foldlM after.step (above, .directory) = .error fault := by
  have here : name ≠ "." := by
    rintro rfl
    cases stopped
  have up : name ≠ ".." := by
    rintro rfl
    cases stopped
  by_cases long : nameLimit < name.utf8ByteSize
  · rw [step_long here up long] at stopped
    rw [List.foldlM_cons, step_long here up long]
    exact stopped
  · have short := Nat.not_lt.1 long
    rw [step_down here up short] at stopped
    split at stopped
    · next missing =>
      cases stopped
      by_cases aside : ∀ target ∈ targets, ¬ above ++ [name] <+: target
      · rw [List.foldlM_cons, step_down here up short, grown.elsewhere _ aside, missing]
        rfl
      · obtain ⟨target, aside⟩ := not_forall.1 aside
        obtain ⟨member, within⟩ := Classical.not_imp.1 aside
        obtain ⟨downward, fit, -⟩ := kept missing target member (not_not.1 within)
        have apart (target : List String) (member : target ∈ targets)
            (within : above ++ [name] <+: target) :=
          (kept missing target member within).2.2
        apply steps_missing rooted grown missing apart rfl (by simp)
        · exact List.forall_mem_cons.2 ⟨⟨here, up⟩, downward⟩
        · exact List.forall_mem_cons.2 ⟨short, fit⟩
        · rintro other tail cut
          rewrite [(List.cons.inj cut).1]
          exact List.prefix_refl _
    · cases stopped

/-- A path that keeps away from the targets leads nowhere as long as it did before. -/
theorem resolve_missing (rooted : before.Rooted) (undisturbed : Undisturbed before targets path)
    (grown : Grown targets before after) {fault : Fault}
    (failed : before.resolve path = .error fault) : after.resolve path = .error fault := by
  have origin : after.origin path = before.origin path := by
    rw [FileTree.origin, FileTree.origin, grown.touches.workingDirectory]
  rw [resolve] at failed ⊢
  rw [origin]
  cases fits : checkText path with
  | error refused =>
    rw [fits] at failed
    exact failed
  | ok value =>
    rw [fits] at failed
    obtain ⟨front, name, rest, ⟨above, node⟩, parts, reached, stopped⟩ := foldlM_eq_error failed
    obtain ⟨⟨place, now⟩, again, same, kind⟩ :=
      steps_touch grown.touches front ⟨rfl, rfl⟩ reached
    obtain rfl : place = above := same
    change (route path).foldlM after.step (before.origin path) = .error fault
    rw [parts, List.foldlM_append, again]
    cases node with
    | file content =>
      cases now with
      | directory => cases kind
      | file content => exact stopped
    | directory =>
      cases now with
      | file content => cases kind
      | directory =>
        exact steps_undisturbed rooted grown stopped
          (undisturbed.missing front name rest place parts reached)

/-- A path that keeps away from the targets reads the same all the while. -/
theorem read_undisturbed (rooted : before.Rooted) (undisturbed : Undisturbed before targets path)
    (grown : Grown targets before after) : after.read path = before.read path := by
  rw [read, read]
  cases found : before.resolve path with
  | error fault => rw [resolve_missing rooted undisturbed grown found]
  | ok reached =>
    obtain ⟨place, node⟩ := reached
    cases node with
    | directory => rw [resolve_directory grown.touches found]
    | file content =>
      rw [resolve_untouched grown.touches found (undisturbed.file place content found)]

end FileTree

end DelegateClasses
