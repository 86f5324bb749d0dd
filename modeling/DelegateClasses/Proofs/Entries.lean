/-! Entries with keys, of which the first with a key is looked up. -/
namespace DelegateClasses.Entries

variable {α β : Type} [BEq α] [LawfulBEq α] [DecidableEq α]

theorem lookup_pair_cons (key : α) (value : β) (rest : List (α × β)) (asked : α) :
    ((key, value) :: rest).lookup asked =
      if asked = key then some value else rest.lookup asked := by
  rw [List.lookup_cons]
  split
  · next same => rw [if_pos (beq_iff_eq.1 same)]
  · next different => rw [if_neg (beq_eq_false_iff_ne.1 different)]

/-- A value that replaces all those with its key is found where there was one. -/
theorem lookup_replaced (entries : List (α × β)) (key : α) (value : β) (asked : α) :
    (entries.map fun entry => if entry.1 = key then (key, value) else entry).lookup asked =
      if asked = key then (entries.lookup key).map fun _ => value else entries.lookup asked := by
  induction entries with
  | nil => simp
  | cons entry entries ih =>
    obtain ⟨first, before⟩ := entry
    rw [List.map_cons, lookup_pair_cons, lookup_pair_cons]
    by_cases replaced : first = key
    · subst replaced
      rw [if_pos rfl, if_pos rfl, lookup_pair_cons, ih]
      by_cases same : asked = first <;> simp [same]
    · rw [if_neg replaced, if_neg (Ne.symm replaced), lookup_pair_cons, ih]
      by_cases same : asked = key
      · rw [if_pos same, if_pos same, if_neg (same ▸ Ne.symm replaced)]
      · rw [if_neg same, if_neg same]

end DelegateClasses.Entries
