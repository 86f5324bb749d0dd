/-! Texts that were put together, taken apart again. A text is cut at a character that
one of the parts around it does not hold, or wherever a mark stands in it, and a list at a
separator whose mark no entry holds. -/
namespace DelegateClasses.Text

variable {α : Type} {front rear other rest separator : List α} {mark : α}
variable {parts others : List (List α)}

theorem cut_at_first (free : mark ∉ front) (likewise : mark ∉ other)
    (same : front ++ mark :: rear = other ++ mark :: rest) : front = other ∧ rear = rest := by
  induction front generalizing other with
  | nil =>
    cases other with
    | nil => exact ⟨rfl, (List.cons.inj same).2⟩
    | cons first others => exact absurd ((List.cons.inj same).1 ▸ List.mem_cons_self) likewise
  | cons first front ih =>
    cases other with
    | nil => exact absurd ((List.cons.inj same).1 ▸ List.mem_cons_self) free
    | cons head other =>
      obtain ⟨rfl, behind⟩ := List.cons.inj same
      obtain ⟨rfl, rfl⟩ := ih (fun member => free (List.mem_cons_of_mem _ member))
        (fun member => likewise (List.mem_cons_of_mem _ member)) behind
      exact ⟨rfl, rfl⟩

theorem cut_at_last (free : mark ∉ rear) (likewise : mark ∉ rest)
    (same : front ++ mark :: rear = other ++ mark :: rest) : front = other ∧ rear = rest := by
  have backwards := congrArg List.reverse same
  simp only [List.reverse_append, List.reverse_cons, List.append_assoc, List.singleton_append]
    at backwards
  obtain ⟨behind, before⟩ := cut_at_first (fun member => free (List.mem_reverse.1 member))
    (fun member => likewise (List.mem_reverse.1 member)) backwards
  exact ⟨List.reverse_inj.1 before, List.reverse_inj.1 behind⟩

/-- A joined text starts with its first part. -/
theorem intercalate_starts (part : List α) (others : List (List α)) :
    ∃ rest, separator.intercalate (part :: others) = part ++ rest := by
  cases others with
  | nil => exact ⟨[], by rw [List.intercalate_singleton, List.append_nil]⟩
  | cons next others => exact ⟨_, by rw [List.intercalate_cons_cons, List.append_assoc]⟩

/-- A joined text ends with its last part. -/
theorem intercalate_ends (others : List (List α)) (part : List α) :
    ∃ start, separator.intercalate (others ++ [part]) = start ++ part := by
  induction others with
  | nil => exact ⟨[], by rw [List.nil_append, List.intercalate_singleton, List.nil_append]⟩
  | cons other others ih =>
    obtain ⟨start, ends⟩ := ih
    refine ⟨other ++ separator ++ start, ?_⟩
    rw [List.cons_append, List.intercalate_cons_of_ne_nil (by simp), ends, ← List.append_assoc]

/-- A joined text is made of what the separator and the parts are made of. -/
theorem mem_of_mem_intercalate {c : α} (member : c ∈ separator.intercalate parts) :
    c ∈ separator ∨ ∃ part ∈ parts, c ∈ part := by
  induction parts with
  | nil => cases member
  | cons part others ih =>
    cases others with
    | nil =>
      rw [List.intercalate_singleton] at member
      exact .inr ⟨part, List.mem_cons_self, member⟩
    | cons next others =>
      rw [List.intercalate_cons_cons, List.append_assoc, List.mem_append, List.mem_append]
        at member
      rcases member with first | between | later
      · exact .inr ⟨part, List.mem_cons_self, first⟩
      · exact .inl between
      · refine (ih later).imp_right fun ⟨another, among, within⟩ => ?_
        exact ⟨another, List.mem_cons_of_mem _ among, within⟩

/-- What a part is made of is in the joined text. -/
theorem mem_intercalate {part : List α} {c : α} (among : part ∈ parts) (inside : c ∈ part) :
    c ∈ separator.intercalate parts := by
  induction parts with
  | nil => cases among
  | cons first parts ih =>
    rcases List.mem_cons.1 among with rfl | later
    · obtain ⟨rest, starts⟩ : ∃ rest, separator.intercalate (part :: parts) = part ++ rest :=
        intercalate_starts part parts
      rw [starts]
      exact List.mem_append_left _ inside
    · rw [List.intercalate_cons_of_ne_nil (List.ne_nil_of_mem later)]
      exact List.mem_append_right _ (ih later)

/-- With one more separator at its end a joined text has one behind each part. -/
theorem intercalate_append (nonempty : parts ≠ []) :
    separator.intercalate parts ++ separator = parts.flatMap (· ++ separator) := by
  induction parts with
  | nil => exact absurd rfl nonempty
  | cons part others ih =>
    cases others with
    | nil => simp
    | cons next others =>
      rw [List.intercalate_cons_cons, List.append_assoc, ih (List.cons_ne_nil _ _)]
      rfl

/-- Parts with a separator behind each are known from the text, if the separator has a mark
that no part holds. -/
theorem terminated_inj (early : mark ∉ front) (free : ∀ part ∈ parts, mark ∉ part)
    (likewise : ∀ part ∈ others, mark ∉ part)
    (same : parts.flatMap (· ++ (front ++ mark :: rear)) =
      others.flatMap (· ++ (front ++ mark :: rear))) : parts = others := by
  induction parts generalizing others with
  | nil =>
    cases others with
    | nil => rfl
    | cons other others => simp at same
  | cons part parts ih =>
    cases others with
    | nil => simp at same
    | cons other others =>
      have single := free part List.mem_cons_self
      have alone := likewise other List.mem_cons_self
      have cut : (part ++ front) ++ mark :: (rear ++ parts.flatMap (· ++ (front ++ mark :: rear))) =
          (other ++ front) ++ mark :: (rear ++ others.flatMap (· ++ (front ++ mark :: rear))) := by
        simpa only [List.flatMap_cons, List.append_assoc, List.cons_append] using same
      obtain ⟨first, behind⟩ := cut_at_first (by simp [single, early]) (by simp [alone, early]) cut
      rw [List.append_cancel_right first, ih (fun part member => free part (.tail _ member))
        (fun part member => likewise part (.tail _ member)) (List.append_cancel_left behind)]

/-- Parts that were joined are known from the text in the same way, if none is empty. -/
theorem intercalate_inj (early : mark ∉ front)
    (free : ∀ part ∈ parts, part ≠ [] ∧ mark ∉ part)
    (likewise : ∀ part ∈ others, part ≠ [] ∧ mark ∉ part)
    (same : (front ++ mark :: rear).intercalate parts =
      (front ++ mark :: rear).intercalate others) : parts = others := by
  have filled {parts : List (List α)} (each : ∀ part ∈ parts, part ≠ [] ∧ mark ∉ part)
      (nothing : (front ++ mark :: rear).intercalate parts = []) : parts = [] := by
    cases parts with
    | nil => rfl
    | cons part others =>
      refine absurd ?_ (each part List.mem_cons_self).1
      cases others with
      | nil => simpa using nothing
      | cons next others => simp at nothing
  by_cases none : parts = []
  · rw [none] at same ⊢
    exact (filled likewise same.symm).symm
  · have some : others ≠ [] := by
      rintro rfl
      exact none (filled free same)
    have terminated : parts.flatMap (· ++ (front ++ mark :: rear)) =
        others.flatMap (· ++ (front ++ mark :: rear)) := by
      rw [← intercalate_append none, ← intercalate_append some, same]
    exact terminated_inj early (fun part member => (free part member).2)
      (fun part member => (likewise part member).2) terminated

section Cutting

variable [BEq α] [LawfulBEq α] {text part : List α}

/-- What is cut out of a text at a mark does not hold it. -/
theorem not_mem_of_mem_splitOn (member : part ∈ text.splitOn mark) : mark ∉ part := by
  induction text generalizing part with
  | nil =>
    rw [List.splitOn_nil, List.mem_singleton] at member
    simp [member]
  | cons first rest ih =>
    obtain ⟨head, others, cut⟩ := List.exists_cons_of_ne_nil (List.splitOn_ne_nil mark rest)
    rw [List.splitOn_cons_eq_if_modifyHead, cut] at member
    rw [cut] at ih
    split at member
    · rcases List.mem_cons.1 member with rfl | later
      · exact List.not_mem_nil
      · exact ih later
    · next other =>
      rcases List.mem_cons.1 member with rfl | later
      · have behind := ih List.mem_cons_self
        have before : mark ≠ first := by
          rintro rfl
          exact other (beq_self_eq_true mark)
        simp [before, behind]
      · exact ih (List.mem_cons_of_mem _ later)

/-- What is cut out of a text consists of its entries. -/
theorem mem_of_mem_splitOn {c : α} (member : part ∈ text.splitOn mark) (inside : c ∈ part) :
    c ∈ text := by
  have joined : [mark].intercalate (text.splitOn mark) = text := List.intercalate_splitOn mark
  rw [← joined]
  exact mem_intercalate member inside

/-- An ending without the mark belongs to the last part. -/
theorem splitOn_ending {ending : List α} (whole : mark ∉ ending) (text : List α) :
    ∃ front last, text.splitOn mark = front ++ [last] ∧
      (text ++ ending).splitOn mark = front ++ [last ++ ending] := by
  induction text with
  | nil =>
    refine ⟨[], [], List.splitOn_nil .., ?_⟩
    rw [List.nil_append, List.splitOn_eq_singleton whole]
    rfl
  | cons first rest ih =>
    obtain ⟨front, last, plain, ended⟩ := ih
    rw [List.cons_append, List.splitOn_cons_eq_if_modifyHead, List.splitOn_cons_eq_if_modifyHead,
      plain, ended]
    split
    · exact ⟨[] :: front, last, rfl, rfl⟩
    · cases front with
      | nil => exact ⟨[], first :: last, rfl, rfl⟩
      | cons head others => exact ⟨(first :: head) :: others, last, rfl, rfl⟩

end Cutting

end DelegateClasses.Text
