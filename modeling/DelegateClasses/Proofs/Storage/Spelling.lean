import DelegateClasses.Proofs.Storage.Nameable
import Mathlib.Data.List.Basic
import Mathlib.Data.List.Induction
import Mathlib.Data.List.TakeWhile

/-! Paths that are spelled alike. Below one directory, paths that only go down are spelled
alike when nothing but names is joined to the text of that directory. Main statements: paths
that are spelled alike and lead to one file are the same text, and what is found by patterns
and in directories is spelled like the text that it is found by. -/
namespace DelegateClasses

namespace Path

/-- What can be the name of a file or a directory. -/
structure FileName (name : String) : Prop extends Component name where
  up : name ≠ ".."

instance : DecidablePred FileName := fun name =>
  decidable_of_iff (name ≠ "" ∧ name ≠ "." ∧ '/' ∉ name.toList ∧ name ≠ "..")
    ⟨fun ⟨nonempty, word, whole, up⟩ => ⟨⟨nonempty, word, whole⟩, up⟩,
      fun named => ⟨named.nonempty, named.word, named.whole, named.up⟩⟩

/-- The text of a path that goes down from a directory by its text. -/
def spelled (top : String) (names : List String) : String :=
  names.foldl joinText top

/-- No slash ends the text, unless it consists of slashes. -/
def Firm (text : String) : Prop :=
  text.toList.getLast? ≠ some '/' ∨ ∀ c ∈ text.toList, c = '/'

instance (text : String) : Decidable (Firm text) :=
  inferInstanceAs (Decidable (_ ∨ _))

/-- The text goes down from a directory by its text. A slash may end it. -/
def Alike (top text : String) : Prop :=
  ∃ names, (∀ name ∈ names, FileName name) ∧
    (text = spelled top names ∨ text = joinText (spelled top names) "")

variable {top base text name : String} {names : List String}

/-! ## Joining -/

/-- What is put between two texts to join them. -/
def gap (base : String) : String :=
  if base = "" || base.toList.getLast? = some '/' then "" else "/"

theorem joinText_eq (relative : name.toList.head? ≠ some '/') :
    joinText base name = base ++ gap base ++ name := by
  rw [joinText, if_neg relative, gap]
  split <;> simp

private theorem head?_of_whole (whole : '/' ∉ name.toList) : name.toList.head? ≠ some '/' :=
  fun first => whole (List.mem_of_mem_head? first)

private theorem joinText_name (whole : '/' ∉ name.toList) :
    joinText base name = base ++ gap base ++ name :=
  joinText_eq (head?_of_whole whole)

theorem gap_append (inner : name ≠ "") : gap (base ++ name) = gap name := by
  have ends : (base ++ name).toList.getLast? = name.toList.getLast? := by
    rw [String.toList_append, List.getLast?_append_of_ne_nil _ (by simpa using inner)]
  have full : base ++ name ≠ "" := fun empty => inner (String.append_eq_empty_iff.1 empty).2
  simp only [gap, ends, inner, full]

private theorem joinText_empty_left (text : String) : joinText "" text = text := by
  rw [joinText]
  split <;> simp

/-- Texts without a slash in front can be joined in any order. -/
theorem joinText_assoc {middle : String} (relative : middle.toList.head? ≠ some '/')
    (inner : middle ≠ "") (whole : '/' ∉ name.toList) :
    joinText base (joinText middle name) = joinText (joinText base middle) name := by
  have joined : (joinText middle name).toList.head? ≠ some '/' := by
    obtain ⟨c, rest, chars⟩ := List.exists_cons_of_ne_nil
      (show middle.toList ≠ [] by simpa using inner)
    rw [joinText_name whole, String.toList_append, String.toList_append, chars]
    simpa [chars] using relative
  rw [joinText_eq joined, joinText_name whole, joinText_eq relative, joinText_name whole,
    gap_append inner]
  simp only [String.append_assoc]

/-- A slash at the end makes no difference to what is joined behind it. -/
theorem joinText_slash (whole : '/' ∉ name.toList) :
    joinText (joinText base "") name = joinText base name := by
  have closing : joinText base "" = base ++ gap base := by
    rw [joinText_name (by decide), String.append_empty]
  rw [joinText_name whole, joinText_name whole, closing]
  by_cases closed : base = "" ∨ base.toList.getLast? = some '/'
  · have none : gap base = "" := by
      rw [gap, if_pos (by simpa using closed)]
    rw [none, String.append_empty, none, String.append_empty]
  · have slash : gap base = "/" := by simpa [gap] using closed
    rw [slash, gap_append (by decide), show gap "/" = "" from rfl, String.append_empty]

theorem Alike.behind (alike : Alike top text) (named : FileName name) :
    Alike top (joinText text name) := by
  obtain ⟨names, all, written⟩ := alike
  refine ⟨names ++ [name], fun other member => ?_, .inl ?_⟩
  · rcases List.mem_append.1 member with front | last
    · exact all other front
    · rwa [List.mem_singleton.1 last]
  · rw [spelled, List.foldl_append]
    rcases written with rfl | rfl
    · rfl
    · exact joinText_slash named.whole

theorem Alike.slash (alike : Alike top text) : Alike top (joinText text "") := by
  obtain ⟨names, all, rfl | rfl⟩ := alike
  · exact ⟨names, all, .inr rfl⟩
  · exact ⟨names, all, .inr (joinText_slash (by decide))⟩

theorem Alike.below (alike : Alike top text) (all : ∀ name ∈ names, FileName name) :
    Alike top (spelled text names) := by
  induction names generalizing text with
  | nil => exact alike
  | cons name names ih =>
    exact ih (alike.behind (all name List.mem_cons_self)) fun other member =>
      all other (List.mem_cons_of_mem _ member)

/-! ## Components -/

private theorem components_slash (front behind : String) :
    components (front ++ "/" ++ behind) = components front ++ components behind := by
  have chars : (front ++ "/" ++ behind).toList = front.toList ++ '/' :: behind.toList := by
    simp
  rw [components, chars, List.splitOn_append_cons_self, List.filter_append, List.map_append]
  rfl

/-- Joining puts the components of a text behind those of another. -/
theorem components_joinText (whole : '/' ∉ name.toList) :
    components (joinText base name) = components base ++ components name := by
  rw [joinText_name whole]
  by_cases empty : base = ""
  · rw [empty, show gap "" = "" from rfl, String.empty_append, String.empty_append]
    rfl
  · by_cases closed : base.toList.getLast? = some '/'
    · obtain ⟨front, chars⟩ := List.getLast?_eq_some_iff.1 closed
      obtain rfl : base = String.ofList front ++ "/" := by
        rw [← String.toList_inj]
        simpa using chars
      have none : gap (String.ofList front ++ "/") = "" := by
        rw [gap_append (by decide)]
        rfl
      have stem := components_slash (String.ofList front) ""
      rw [String.append_empty] at stem
      rw [none, String.append_empty, components_slash, stem]
      simp [components]
    · have slash : gap base = "/" := by simp [gap, empty, closed]
      rw [slash, components_slash]

private theorem components_component (component : Component name) : components name = [name] := by
  rw [components, List.splitOn_eq_singleton component.whole]
  simp [component.nonempty]

theorem spelled_concat (top : String) (front : List String) (last : String) :
    spelled top (front ++ [last]) = joinText (spelled top front) last := by
  rw [spelled, List.foldl_append]
  rfl

private theorem components_spelled (all : ∀ name ∈ names, FileName name) :
    components (spelled top names) = components top ++ names := by
  induction names using List.reverseRecOn with
  | nil => simp [spelled]
  | append_singleton front last ih =>
    have final := all last (by simp)
    rw [spelled_concat, components_joinText final.whole, components_component final.toComponent,
      ih fun name member => all name (List.mem_append_left _ member), List.append_assoc]

private theorem head?_joinText (whole : '/' ∉ name.toList) :
    (joinText base name).toList.head? = some '/' ↔ base.toList.head? = some '/' := by
  rw [joinText_name whole, String.toList_append, String.toList_append]
  cases chars : base.toList with
  | nil =>
    obtain rfl : base = "" := by simpa using chars
    simpa [gap] using head?_of_whole whole
  | cons c rest => simp

private theorem head?_spelled (all : ∀ name ∈ names, FileName name) :
    (spelled top names).toList.head? = some '/' ↔ top.toList.head? = some '/' := by
  induction names generalizing top with
  | nil => rfl
  | cons name names ih =>
    change (spelled (joinText top name) names).toList.head? = some '/' ↔ _
    rw [ih fun other member => all other (List.mem_cons_of_mem _ member),
      head?_joinText (all name List.mem_cons_self).whole]

private theorem spelled_nonempty (all : ∀ name ∈ names, FileName name) (inner : names ≠ []) :
    spelled top names ≠ "" := by
  intro empty
  have parts : components (spelled top names) = components top ++ names :=
    components_spelled all
  rw [empty] at parts
  exact inner (List.append_eq_nil_iff.1 parts.symm).2

/-- A path that is seen from a directory is the same behind the directory's text. -/
theorem joinText_spelled (all : ∀ name ∈ names, FileName name) (inner : names ≠ []) :
    joinText base (spelled "" names) = spelled base names := by
  induction names using List.reverseRecOn with
  | nil => exact absurd rfl inner
  | append_singleton front last ih =>
    rw [spelled_concat, spelled_concat]
    have earlier : ∀ name ∈ front, FileName name := fun name member =>
      all name (List.mem_append_left _ member)
    have final := all last (by simp)
    by_cases none : front = []
    · rw [none]
      change joinText base (joinText "" last) = joinText base last
      rw [joinText_empty_left]
    · have relative : (spelled "" front).toList.head? ≠ some '/' := fun first =>
        absurd ((head?_spelled earlier).1 first) (by decide)
      rw [joinText_assoc relative (spelled_nonempty earlier none) final.whole, ih earlier none]

/-! ## Cutting -/

private theorem getLast?_joinText (inner : name ≠ "") (whole : '/' ∉ name.toList) :
    (joinText base name).toList.getLast? ≠ some '/' := by
  rw [joinText_name whole, String.toList_append,
    List.getLast?_append_of_ne_nil _ (by simpa using inner)]
  exact fun last => whole (List.mem_of_getLast? last)

private theorem firm_spelled (firm : Firm top) (all : ∀ name ∈ names, FileName name) :
    Firm (spelled top names) := by
  cases names using List.reverseRecOn with
  | nil => exact firm
  | append_singleton front last =>
    have final := all last (by simp)
    rw [spelled_concat]
    exact .inl (getLast?_joinText final.nonempty final.whole)

/-- A joined text is cut where it was joined. -/
theorem splitText_joinText (firm : Firm base) (whole : '/' ∉ name.toList) :
    splitText (joinText base name) = (base, name) := by
  have free : ∀ c ∈ name.toList.reverse, (c != '/') = true := by
    intro c member
    simpa using fun (slash : c = '/') => whole (slash ▸ List.mem_reverse.1 member)
  have reversed : (joinText base name).toList.reverse =
      name.toList.reverse ++ ((gap base).toList.reverse ++ base.toList.reverse) := by
    rw [joinText_name whole, String.toList_append, String.toList_append]
    simp
  rw [splitText]
  simp only [reversed]
  rw [List.takeWhile_append_of_pos free, List.dropWhile_append_of_pos free]
  by_cases empty : base = ""
  · subst empty
    simp [gap]
  · obtain ⟨c, rest, chars⟩ := List.exists_cons_of_ne_nil
      (show base.toList.reverse ≠ [] by simpa using empty)
    have ending : base.toList.getLast? = some c := by
      rw [← List.head?_reverse, chars]
      rfl
    by_cases slash : c = '/'
    · -- Slashes at the end of the front are dropped, unless there is nothing else in it.
      have none : gap base = "" := by simp [gap, ending, slash]
      have slashes : ∀ c ∈ base.toList.reverse, c = '/' := by
        rcases firm with other | only
        · exact absurd (ending.trans (by rw [slash])) other
        · exact fun c member => only c (List.mem_reverse.1 member)
      have stem : base.toList.reverse.dropWhile (· == '/') = [] := by
        rw [List.dropWhile_eq_nil_iff]
        exact fun c member => by simpa using slashes c member
      have taken : base.toList.reverse.takeWhile (· != '/') = [] := by
        rw [chars, slash]
        rfl
      have kept : base.toList.reverse.dropWhile (· != '/') = base.toList.reverse := by
        rw [chars, slash]
        rfl
      rw [none]
      simp [stem, taken, kept]
    · have between : gap base = "/" := by simp [gap, empty, ending, slash]
      have stem : base.toList.reverse.dropWhile (· == '/') = base.toList.reverse := by
        rw [chars]
        simp [slash]
      rw [between]
      simp [stem, empty]

end Path

namespace FileTree
open DelegateClasses.Path

variable {tree : FileTree} {top path other name : String} {names place : List String}

/-! ## What is spelled alike -/

/-- The path leads to the file at a place. -/
def LeadsToFile (tree : FileTree) (path : String) (place : List String) : Prop :=
  ∃ content, tree.resolve path = .ok (place, .file content)

theorem leadsToFile_iff : tree.LeadsToFile path place ↔
    (tree.resolve path).toOption.any (fun found => found.1 == place && !found.2.isDirectory) := by
  unfold LeadsToFile
  cases tree.resolve path with
  | error fault =>
    refine ⟨fun ⟨_, leads⟩ => (by cases leads), fun none => (by cases none)⟩
  | ok found =>
    obtain ⟨reached, node⟩ := found
    cases node <;> simp [Except.toOption, Node.isDirectory]

instance (tree : FileTree) (path : String) (place : List String) :
    Decidable (tree.LeadsToFile path place) :=
  decidable_of_iff _ leadsToFile_iff.symm

private theorem step_place {current after : List String × Node} (named : FileName name)
    (stepped : tree.step current name = .ok after) : after.1 = current.1 ++ [name] := by
  unfold step at stepped
  split at stepped
  · cases stepped
  · rw [if_neg named.word, if_neg named.up] at stepped
    split at stepped
    · cases stepped
    · simp only at stepped
      split at stepped
      · cases stepped
      · cases stepped
        rfl

/-- Names lead down to the place that they name. -/
theorem steps_place {current after : List String × Node} (all : ∀ name ∈ names, FileName name)
    (went : names.foldlM tree.step current = .ok after) : after.1 = current.1 ++ names := by
  induction names generalizing current with
  | nil =>
    cases went
    simp
  | cons name names ih =>
    rw [List.foldlM_cons] at went
    obtain ⟨next, stepped, rest⟩ := Steps.except_bind_eq_ok went
    rw [ih (fun other member => all other (List.mem_cons_of_mem _ member)) rest,
      step_place (all name List.mem_cons_self) stepped, List.append_assoc]
    rfl

private theorem no_slash_behind_file (leads : tree.LeadsToFile path place) :
    path.toList.getLast? ≠ some '/' := by
  intro slash
  obtain ⟨content, resolved⟩ := leads
  rw [resolve] at resolved
  obtain ⟨-, -, went⟩ := Steps.except_bind_eq_ok resolved
  rw [route, if_pos slash, List.foldlM_append] at went
  obtain ⟨⟨above, node⟩, -, last⟩ := Steps.except_bind_eq_ok went
  obtain ⟨after, stepped, same⟩ := Steps.except_bind_eq_ok last
  cases same
  cases node with
  | directory => cases stepped
  | file content => cases stepped

private theorem path_of_file_nonempty (leads : tree.LeadsToFile path place) : path ≠ "" := by
  rintro rfl
  obtain ⟨content, resolved⟩ := leads
  cases resolved

/-- No slash ends a path to a file. -/
theorem spelled_of_alike (alike : Alike top path) (leads : tree.LeadsToFile path place) :
    ∃ names, (∀ name ∈ names, FileName name) ∧ path = spelled top names := by
  obtain ⟨names, all, rfl | rfl⟩ := alike
  · exact ⟨names, all, rfl⟩
  · have filled := path_of_file_nonempty leads
    have unslashed := no_slash_behind_file leads
    rw [joinText_name (by decide), String.append_empty] at filled unslashed
    exfalso
    by_cases empty : spelled top names = ""
    · rw [empty] at filled
      exact filled rfl
    · by_cases closed : (spelled top names).toList.getLast? = some '/'
      · have none : gap (spelled top names) = "" := by simp [gap, closed]
        rw [none, String.append_empty] at unslashed
        exact unslashed closed
      · have between : gap (spelled top names) = "/" := by simp [gap, empty, closed]
        rw [between] at unslashed
        simp at unslashed

/-- The place of a file is told by the names that lead down to it. -/
theorem place_of_spelled (all : ∀ name ∈ names, FileName name)
    (leads : tree.LeadsToFile (spelled top names) place) :
    ∃ above, (components top).foldlM tree.step (tree.origin top) = .ok above ∧
      place = above.1 ++ names := by
  have unslashed := no_slash_behind_file leads
  obtain ⟨content, resolved⟩ := leads
  rw [resolve] at resolved
  obtain ⟨-, -, went⟩ := Steps.except_bind_eq_ok resolved
  have start : tree.origin (spelled top names) = tree.origin top := by
    simp only [origin, head?_spelled all]
  rw [route, if_neg unslashed, List.append_nil, components_spelled all, start,
    List.foldlM_append] at went
  obtain ⟨above, reached, down⟩ := Steps.except_bind_eq_ok went
  exact ⟨above, reached, steps_place all down⟩

/-- Paths that are spelled alike and lead to one file are the same. -/
theorem eq_of_same_file (first : Alike top path) (second : Alike top other)
    (leads : tree.LeadsToFile path place) (also : tree.LeadsToFile other place) :
    path = other := by
  obtain ⟨names, all, rfl⟩ := spelled_of_alike first leads
  obtain ⟨others, every, rfl⟩ := spelled_of_alike second also
  obtain ⟨above, reached, down⟩ := place_of_spelled all leads
  obtain ⟨again, same, below⟩ := place_of_spelled every also
  -- Both go on from the place of the directory, so the names behind it agree.
  cases reached.symm.trans same
  rw [List.append_cancel_left (down.symm.trans below)]

/-! ## What is found -/

/-- The names in the tree can be those of files and directories. -/
def NamedEntries (tree : FileTree) : Prop :=
  ∀ entry ∈ tree.entries, ∀ name ∈ entry.1, FileName name

/-- What lies below a directory is told by names. -/
private theorem namesBelow_spelled (entries : tree.NamedEntries) (onlyDirectories : Bool)
    (fuel : Nat) (directory : String) : ∀ found ∈ tree.namesBelow onlyDirectories fuel directory,
      ∃ names, names ≠ [] ∧ (∀ name ∈ names, FileName name) ∧ found = spelled "" names := by
  induction fuel generalizing directory with
  | zero =>
    intro found member
    cases member
  | succ fuel ih =>
    intro found member
    obtain ⟨first, among, inside⟩ := List.mem_flatMap.1 member
    have named := namesIn_forall entries directory onlyDirectories first (List.mem_filter.1 among).1
    rcases List.mem_cons.1 inside with rfl | below
    · exact ⟨[found], by simp, by simpa using named, (joinText_empty_left found).symm⟩
    · obtain ⟨rest, deeper, rfl⟩ := List.mem_map.1 below
      obtain ⟨names, inner, all, rfl⟩ := ih _ rest deeper
      refine ⟨first :: names, by simp, fun name member => ?_, ?_⟩
      · rcases List.mem_cons.1 member with rfl | later
        · exact named
        · exact all name later
      · rw [joinNonEmpty, if_neg named.nonempty, if_neg (spelled_nonempty all inner),
          joinText_spelled all inner, spelled, spelled, List.foldl_cons, joinText_empty_left]

/-- What can be a part of a pattern: nothing, or what can be a name. -/
def Level (part : String) : Prop :=
  part = "" ∨ FileName part

private theorem alike_level (alike : Alike top path) (level : Level name) :
    Alike top (joinText path name) := by
  rcases level with rfl | named
  · exact alike.slash
  · exact alike.behind named

private theorem matchesIn_alike (entries : tree.NamedEntries) (recursive onlyDirectories : Bool)
    {part : String} (level : Level part) (alike : Alike top path) :
    ∀ found ∈ tree.matchesIn recursive onlyDirectories path part,
      Alike top (joinText path found) := by
  intro found member
  unfold matchesIn at member
  split at member
  · split at member
    · rcases List.mem_cons.1 member with rfl | below
      · exact alike.slash
      · obtain ⟨names, inner, all, rfl⟩ := namesBelow_spelled entries _ _ _ found below
        rw [joinText_spelled all inner]
        exact alike.below all
    · have inside := (List.mem_filter.1 member).1
      refine alike.behind ?_
      split at inside
      · exact namesIn_forall entries _ _ found inside
      · exact namesIn_forall entries _ _ found (List.mem_filter.1 inside).1
  · obtain rfl : found = part := by
      split at member <;> split at member <;> simp_all
    exact alike_level alike level

private theorem matchesBelow_alike (entries : tree.NamedEntries) (recursive : Bool)
    {directories parts : List String} (tops : ∀ directory ∈ directories, Alike top directory)
    (levels : ∀ part ∈ parts, Level part) :
    ∀ found ∈ tree.matchesBelow recursive directories parts, Alike top found := by
  induction parts generalizing directories with
  | nil => exact tops
  | cons part parts ih =>
    refine ih (fun found member => ?_) fun other member =>
      levels other (List.mem_cons_of_mem _ member)
    obtain ⟨directory, among, inside⟩ := List.mem_flatMap.1 (Text.mem_ascendingOnce.1 member)
    obtain ⟨name, fits, rfl⟩ := List.mem_map.1 inside
    exact matchesIn_alike entries _ _ (levels part List.mem_cons_self) (tops directory among)
      name fits

/-- A pattern that goes down from a directory is cut below it. -/
theorem splitText_alike (firm : Firm top) (alike : Alike top path) (apart : path ≠ top) :
    Alike top (splitText path).1 ∧ Level (splitText path).2 := by
  obtain ⟨names, all, rfl | rfl⟩ := alike
  · cases names using List.reverseRecOn with
    | nil => exact absurd rfl apart
    | append_singleton front last =>
      have earlier : ∀ name ∈ front, FileName name := fun name member =>
        all name (List.mem_append_left _ member)
      have final := all last (by simp)
      rw [spelled_concat, splitText_joinText (firm_spelled firm earlier) final.whole]
      exact ⟨⟨front, earlier, .inl rfl⟩, .inr final⟩
  · rw [splitText_joinText (firm_spelled firm all) (by decide)]
    exact ⟨⟨names, all, .inl rfl⟩, .inl rfl⟩

private theorem patternLevels_alike (firm : Firm top) (plain : Wildcard.isPattern top = false)
    (fuel : Nat) (alike : Alike top path) (wild : Wildcard.isPattern path = true) :
    Alike top (patternLevels fuel path).1 ∧ ∀ part ∈ (patternLevels fuel path).2, Level part := by
  induction fuel generalizing path with
  | zero => exact ⟨alike, fun _ member => (by cases member)⟩
  | succ fuel ih =>
    have apart : path ≠ top := by
      rintro rfl
      cases plain.symm.trans wild
    obtain ⟨front, last⟩ := splitText_alike firm alike apart
    unfold patternLevels
    simp only
    split
    · next inner =>
      obtain ⟨base, parts⟩ := ih front (by simp_all)
      refine ⟨base, fun part member => ?_⟩
      rcases List.mem_append.1 member with within | final
      · exact parts part within
      · rwa [List.mem_singleton.1 final]
    · refine ⟨front, fun part member => ?_⟩
      rwa [List.mem_singleton.1 member]

/-- What a pattern finds is spelled like the pattern. -/
theorem matching_alike (entries : tree.NamedEntries) (firm : Firm top)
    (plain : Wildcard.isPattern top = false) (recursive : Bool) (alike : Alike top path)
    {found : List String} (matched : tree.matching recursive path = .ok found) :
    ∀ other ∈ found, Alike top other := by
  unfold matching at matched
  split at matched
  · next wild =>
    obtain ⟨base, parts⟩ := patternLevels_alike firm plain path.length alike wild
    generalize patternLevels path.length path = levels at matched base parts
    simp only at matched
    split at matched
    · cases matched
    · cases matched
      refine matchesBelow_alike entries recursive (fun directory member => ?_) parts
      rwa [List.mem_singleton.1 member]
  · intro other member
    simp only [Except.ok.injEq] at matched
    generalize (if (Path.splitText path).2 = "" then _ else _ : Bool) = present at matched
    cases present with
    | false =>
      subst matched
      cases member
    | true =>
      subst matched
      rwa [List.mem_singleton.1 member]

theorem filesIn_alike (entries : tree.NamedEntries) (alike : Alike top path) :
    ∀ found ∈ tree.filesIn path, Alike top found := by
  intro found member
  obtain ⟨⟨name, node⟩, among, kept⟩ := List.mem_filterMap.1 member
  simp only at kept
  split at kept
  · cases kept
  · cases kept
    exact alike.behind (list_forall entries path _ among)

theorem filesBelow_alike (entries : tree.NamedEntries) (fuel : Nat) (alike : Alike top path) :
    ∀ found ∈ tree.filesBelow fuel path, Alike top found := by
  induction fuel generalizing path with
  | zero =>
    intro found member
    cases member
  | succ fuel ih =>
    intro found member
    obtain ⟨⟨name, node⟩, among, inside⟩ := List.mem_flatMap.1 member
    have deeper : Alike top (joinText path name) :=
      alike.behind (list_forall entries path _ among)
    simp only at inside
    split at inside
    · exact ih deeper found inside
    · rwa [List.mem_singleton.1 inside]

end FileTree

end DelegateClasses
