import DelegateClasses.Proofs.TypeTree.Grammar
import Mathlib.Data.List.Basic

/-! Balance as a matter of counting, and what it is relied upon for. Main statements: a
text is balanced unless it closes more brackets than it opened, at some point or in the
end, and on a balanced text the later readers of brackets find what they look for, which
is balanced again. -/
namespace DelegateClasses.TypeTree
open Text

/-- Some start of the text has more closing brackets than opening ones, or there are not as
many of both in all. -/
def Unbalanced (text : List Char) : Prop :=
  (∃ front, front <+: text ∧ front.count '<' < front.count '>') ∨ text.count '<' ≠ text.count '>'

theorem forall_starts_cons {holds : List Char → Prop} :
    (∀ front, front <+: c :: text → holds front) ↔
      holds [] ∧ ∀ front, front <+: text → holds (c :: front) := by
  constructor
  · exact fun all => ⟨all [] List.nil_prefix, fun front start =>
      all (c :: front) (List.cons_prefix_cons.2 ⟨rfl, start⟩)⟩
  · rintro ⟨empty, later⟩ front start
    rcases List.prefix_cons_iff.1 start with rfl | ⟨rest, rfl, within⟩
    · exact empty
    · exact later rest within

/-- The count of open brackets is that of the opening ones less that of the closing ones. -/
theorem depthAfter_eq_some_iff : depthAfter depth text = some final ↔
    (∀ front, front <+: text → front.count '>' ≤ depth + front.count '<') ∧
      depth + text.count '<' = final + text.count '>' := by
  induction text generalizing depth with
  | nil => simp [depthAfter]
  | cons c text ih =>
    rw [forall_starts_cons]
    by_cases opening : c = '<'
    · subst opening
      have one (rest : List Char) : ('<' :: rest).count '<' = rest.count '<' + 1 :=
        List.count_cons_self
      have same (rest : List Char) : ('<' :: rest).count '>' = rest.count '>' :=
        List.count_cons_of_ne (by decide)
      simp only [depthAfter, if_true, ih, one, same, Nat.add_assoc, Nat.add_comm 1]
      simp
    · by_cases closing : c = '>'
      · subst closing
        have one (rest : List Char) : ('>' :: rest).count '>' = rest.count '>' + 1 :=
          List.count_cons_self
        have same (rest : List Char) : ('>' :: rest).count '<' = rest.count '<' :=
          List.count_cons_of_ne (by decide)
        cases depth with
        | zero =>
          refine ⟨fun reached => ?_, fun counted => ?_⟩
          · cases reached
          · have first := counted.1.2 [] List.nil_prefix
            rw [one, same] at first
            simp at first
        | succ outer =>
          have rest : depthAfter (outer + 1) ('>' :: text) = depthAfter outer text := rfl
          simp only [rest, ih, one, same, Nat.add_right_comm outer 1, ← Nat.add_assoc,
            Nat.add_le_add_iff_right, Nat.add_right_cancel_iff]
          simp
      · simp [depthAfter, opening, closing, ih]

theorem balanced_iff : Balanced text ↔ ¬Unbalanced text := by
  rw [Balanced, depthAfter_eq_some_iff, Unbalanced]
  simp only [Nat.zero_add, not_or, not_exists, not_and, Nat.not_lt, ne_eq, Decidable.not_not]

/-- A text without brackets does not matter to the balance of what stands behind it. -/
theorem balanced_quiet_append (quiet : Quiet front) : Balanced (front ++ text) ↔ Balanced text := by
  rw [Balanced, depthAfter_append, balanced_of_quiet quiet]
  exact Iff.rfl

/-- A text without brackets does not matter to the balance of what stands in front of it. -/
theorem balanced_append_quiet (quiet : Quiet rear) : Balanced (text ++ rear) ↔ Balanced text := by
  rw [Balanced, depthAfter_append]
  cases counted : depthAfter 0 text with
  | none => simp [Balanced, counted]
  | some depth =>
    rw [Option.bind_some, depthAfter_of_balanced (balanced_of_quiet quiet), Balanced, counted]

theorem balanced_trim : Balanced (trim text) ↔ Balanced text := by
  obtain ⟨front, rear, before, after, shape⟩ := exists_padding text
  have same : Balanced (front ++ trim text ++ rear) ↔ Balanced (trim text) := by
    rw [balanced_append_quiet (quiet_of_blanks after),
      balanced_quiet_append (quiet_of_blanks before)]
  rw [← same, ← shape]

/-! ## The last group -/

/-- The last bracket that is still open has a balanced text behind it. -/
theorem exists_last_open (counted : depthAfter 0 text = some (level + 1)) :
    ∃ before content, text = before ++ '<' :: content ∧ depthAfter 0 before = some level ∧
      Balanced content := by
  obtain rfl | ⟨front, c, rfl⟩ := List.eq_nil_or_concat' text
  · cases counted
  · rw [depthAfter_append] at counted
    obtain ⟨reached, first, last⟩ := Option.bind_eq_some_iff.1 counted
    by_cases opening : c = '<'
    · subst opening
      obtain rfl : reached = level := by simpa [depthAfter] using last
      exact ⟨front, [], rfl, first, rfl⟩
    · by_cases closing : c = '>'
      · subst closing
        -- The bracket closes the last open one; behind the one before stands its whole group.
        obtain rfl : reached = level + 1 + 1 := by
          cases reached with
          | zero => cases last
          | succ outer => simpa [depthAfter] using last
        obtain ⟨before, inner, rfl, again, inside⟩ := exists_last_open first
        obtain ⟨start, outer, rfl, there, around⟩ := exists_last_open again
        refine ⟨start, outer ++ ('<' :: inner ++ ['>']), by simp, there, ?_⟩
        exact balanced_append around (balanced_group inside)
      · obtain rfl : reached = level + 1 := by simpa [depthAfter, opening, closing] using last
        obtain ⟨before, inner, rfl, there, inside⟩ := exists_last_open first
        refine ⟨before, inner ++ [c], by simp, there, balanced_append inside ?_⟩
        exact depthAfter_plain (by simpa using ⟨opening, closing⟩)
termination_by text.length
decreasing_by
  all_goals
    subst_vars
    simp only [List.length_append, List.length_cons]
    omega

/-- A balanced text that ends in a closing bracket has a last group, and is balanced in front
of it and inside of it. -/
theorem splitLastGroup_of_balanced (balanced : Balanced text) (closed : text.getLast? = some '>') :
    ∃ before content, splitLastGroup text = some (before, content) ∧ Balanced before ∧
      Balanced content := by
  obtain ⟨front, rfl⟩ := List.getLast?_eq_some_iff.1 closed
  rw [Balanced, depthAfter_append] at balanced
  obtain ⟨reached, first, last⟩ := Option.bind_eq_some_iff.1 balanced
  obtain rfl : reached = 0 + 1 := by
    cases reached with
    | zero => cases last
    | succ outer => simpa [depthAfter] using last
  obtain ⟨before, content, rfl, outside, inside⟩ := exists_last_open first
  refine ⟨before, content, ?_, outside, inside⟩
  rw [List.append_assoc]
  exact splitLastGroup_group inside before

/-! ## The arguments of a group -/

/-- Nothing is missing to cut the rest of a balanced text at its commas. -/
theorem pieces_of_balanced (piece seen : List Char)
    (opened : depthAfter 0 piece.reverse = some depth) (counted : depthAfter depth text = some 0) :
    ∃ found, pieces depth piece seen text = .ok found ∧ ∀ part ∈ found, Balanced part := by
  induction text generalizing depth piece seen with
  | nil =>
    obtain rfl : depth = 0 := by simpa [depthAfter] using counted
    refine ⟨_, rfl, fun part member => ?_⟩
    rw [List.mem_singleton.1 member]
    exact balanced_trim.2 opened
  | cons c text ih =>
    have grown (level : Nat) (next : depthAfter depth [c] = some level) :
        depthAfter 0 (c :: piece).reverse = some level := by
      rw [List.reverse_cons, depthAfter_append, opened]
      exact next
    by_cases opening : c = '<'
    · subst opening
      exact ih _ _ (grown _ rfl) counted
    · by_cases closing : c = '>'
      · subst closing
        cases depth with
        | zero => cases counted
        | succ outer => exact ih _ _ (grown _ rfl) counted
      · have same : depthAfter depth [c] = some depth := by simp [depthAfter, opening, closing]
        simp only [depthAfter, if_neg opening, if_neg closing] at counted
        simp only [pieces, if_neg opening, if_neg closing]
        split
        · next divides =>
          obtain ⟨rfl, rfl⟩ := divides
          obtain ⟨found, cut, each⟩ := ih [] (',' :: seen) rfl counted
          refine ⟨_, by rw [cut]; rfl, List.forall_mem_cons.2 ⟨balanced_trim.2 opened, each⟩⟩
        · exact ih _ _ (grown _ same) counted

/-- No argument is empty. -/
theorem ne_nil_of_mem_splitArguments (cut : splitArguments text = .ok found)
    (among : part ∈ found) : part ≠ [] := by
  unfold splitArguments at cut
  split at cut
  · cases cut
    cases among
  · split at cut
    · cases cut
    · split at cut
      · cases cut
      · next filled =>
        cases cut
        rintro rfl
        exact filled (List.any_eq_true.2 ⟨[], among, rfl⟩)

/-- A balanced group can only have an empty argument wrong. -/
theorem splitArguments_of_balanced (balanced : Balanced text) :
    (∃ found, splitArguments text = .ok found ∧ ∀ part ∈ found, Balanced part) ∨
      splitArguments text = .error ⟨.emptyArgument, text⟩ := by
  obtain ⟨found, cut, each⟩ := pieces_of_balanced [] [] rfl balanced
  rw [splitArguments, cut]
  split
  · exact .inl ⟨[], rfl, by simp⟩
  · by_cases empty : found.any List.isEmpty
    · exact .inr (if_pos empty)
    · exact .inl ⟨found, if_neg empty, each⟩

end DelegateClasses.TypeTree
