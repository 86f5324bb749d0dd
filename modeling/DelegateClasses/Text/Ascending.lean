/-! Texts in ascending order of their code points. Main statement: putting texts
in order, each once, loses none and adds none. -/
namespace DelegateClasses.Text

/-- The texts in ascending order. -/
def ascending (texts : List String) : List String :=
  texts.mergeSort fun first second => decide (first ≤ second)

/-- Keeps one of equal texts that stand side by side. -/
def dropRepeats : List String → List String
  | [] => []
  | [text] => [text]
  | first :: second :: rest =>
    if first = second then dropRepeats (second :: rest)
    else first :: dropRepeats (second :: rest)

/-- The texts in ascending order, each once. -/
def ascendingOnce (texts : List String) : List String :=
  dropRepeats (ascending texts)

theorem mem_dropRepeats {text : String} {texts : List String} :
    text ∈ dropRepeats texts ↔ text ∈ texts := by
  fun_induction dropRepeats texts with
  | case1 => rfl
  | case2 => rfl
  | case3 second rest ih => simp [ih]
  | case4 first second rest different ih => simp [ih]

theorem mem_ascendingOnce {text : String} {texts : List String} :
    text ∈ ascendingOnce texts ↔ text ∈ texts := by
  rw [ascendingOnce, mem_dropRepeats, ascending, List.mem_mergeSort]

theorem ascending_pairwise (texts : List String) : (ascending texts).Pairwise (· ≤ ·) := by
  have sorted : (ascending texts).Pairwise fun first second => decide (first ≤ second) = true := by
    refine List.pairwise_mergeSort ?_ ?_ texts
    · intro first second third below above
      simp only [decide_eq_true_eq] at below above ⊢
      exact String.le_trans below above
    · intro first second
      simpa using String.le_total first second
  exact sorted.imp fun below => by simpa using below

/-- Texts that differ from each other ascend strictly once they are in order. -/
theorem ascending_strict (distinct : texts.Nodup) : (ascending texts).Pairwise (· < ·) := by
  have different : (ascending texts).Nodup := (List.mergeSort_perm texts _).nodup_iff.2 distinct
  refine ((ascending_pairwise texts).and different).imp ?_
  rintro first second ⟨below, apart⟩
  exact Decidable.byContradiction fun above =>
    apart (String.le_antisymm below (String.not_lt.1 above))

end DelegateClasses.Text
