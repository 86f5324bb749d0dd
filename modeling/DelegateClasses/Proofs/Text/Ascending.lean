import DelegateClasses.Text.Ascending
import Mathlib.Data.List.Nodup

/-! Texts in ascending order, each once. Main statement: which texts they are is all that
there is to tell of them. -/
namespace DelegateClasses.Text

variable {texts others : List String}

/-- Once equal texts that stand side by side are dropped, the texts ascend strictly. -/
theorem dropRepeats_strict (ascending : texts.Pairwise (· ≤ ·)) :
    (dropRepeats texts).Pairwise (· < ·) := by
  fun_induction dropRepeats texts with
  | case1 => exact .nil
  | case2 text => exact List.pairwise_singleton _ _
  | case3 second rest ih => exact ih (List.pairwise_cons.1 ascending).2
  | case4 first second rest different ih =>
    obtain ⟨above, ordered⟩ := List.pairwise_cons.1 ascending
    refine List.pairwise_cons.2 ⟨fun text member => ?_, ih ordered⟩
    have among : text ∈ second :: rest := mem_dropRepeats.1 member
    have apart : first ≠ text := by
      rintro rfl
      rcases List.mem_cons.1 among with same | later
      · exact different same
      · have back : second ≤ first := (List.pairwise_cons.1 ordered).1 first later
        exact different (String.le_antisymm (above second List.mem_cons_self) back)
    exact Decidable.byContradiction fun reversed =>
      apart (String.le_antisymm (above text among) (String.not_lt.1 reversed))

theorem ascendingOnce_strict (texts : List String) : (ascendingOnce texts).Pairwise (· < ·) :=
  dropRepeats_strict (ascending_pairwise texts)

theorem nodup_of_ascending (ascending : texts.Pairwise (· < ·)) : texts.Nodup := by
  refine ascending.imp ?_
  rintro text _ below rfl
  exact String.lt_irrefl text below

/-- Two strictly ascending lists of the same texts are the same list. -/
theorem eq_of_ascending (first : texts.Pairwise (· < ·)) (second : others.Pairwise (· < ·))
    (same : ∀ text, text ∈ texts ↔ text ∈ others) : texts = others := by
  have perm : texts.Perm others :=
    (List.perm_ext_iff_of_nodup (nodup_of_ascending first) (nodup_of_ascending second)).2 same
  refine perm.eq_of_pairwise (fun text other _ _ below above => ?_) first second
  exact absurd (String.lt_trans below above) (String.lt_irrefl text)

end DelegateClasses.Text
