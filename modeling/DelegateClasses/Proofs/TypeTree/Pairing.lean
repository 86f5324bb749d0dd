import DelegateClasses.Proofs.TypeTree.Balance

/-! Which bracket closes which. A forward scan that keeps a stack of positions pairs an
opening bracket with the closing one behind a balanced text, and with no other. Main
statement: the check of a whole text and the backward search for its last group agree with
these pairs. -/
namespace DelegateClasses.TypeTree

/-- The pairs of brackets from a position on, when `opened` holds the positions of those that
are open there, the last of them first. A closing bracket that closes none is passed over. -/
def pairsFrom (position : Nat) (opened : List Nat) : List Char → List (Nat × Nat)
  | [] => []
  | c :: rest =>
    if c = '<' then pairsFrom (position + 1) (position :: opened) rest
    else if c = '>' then match opened with
      | [] => pairsFrom (position + 1) [] rest
      | top :: outer => (top, position) :: pairsFrom (position + 1) outer rest
    else pairsFrom (position + 1) opened rest

/-- The positions of every bracket that is closed and of the one that closes it. -/
def bracketPairs (text : List Char) : List (Nat × Nat) :=
  pairsFrom 0 [] text

/-- Of the brackets open before the text, the one with `depth` others inside of it is closed
after this many characters. -/
def ClosesAfter (depth count : Nat) (text : List Char) : Prop :=
  ∃ content rest, text = content ++ '>' :: rest ∧ count = content.length ∧
    depthAfter depth content = some 0

/-! ## Where a bracket is closed -/

theorem not_closesAfter_nil : ¬ClosesAfter depth count [] := by
  rintro ⟨content, rest, shape, -⟩
  simp at shape

theorem closesAfter_closing_zero : ClosesAfter 0 count ('>' :: text) ↔ count = 0 := by
  constructor
  · rintro ⟨content, rest, shape, rfl, counted⟩
    cases content with
    | nil => rfl
    | cons c content =>
      obtain ⟨rfl, -⟩ := List.cons.inj shape
      cases counted
  · rintro rfl
    exact ⟨[], text, rfl, rfl, rfl⟩

/-- A character that closes none of the bracket's own is one more on the way to its end. -/
theorem closesAfter_cons (step : ∀ rest, depthAfter depth (c :: rest) = depthAfter level rest)
    (further : ¬(c = '>' ∧ depth = 0)) :
    ClosesAfter depth count (c :: text) ↔
      ∃ later, count = later + 1 ∧ ClosesAfter level later text := by
  constructor
  · rintro ⟨content, rest, shape, rfl, counted⟩
    cases content with
    | nil =>
      obtain ⟨rfl, -⟩ := List.cons.inj shape
      exact absurd ⟨rfl, Option.some.inj counted⟩ further
    | cons d content =>
      obtain ⟨rfl, rfl⟩ := List.cons.inj shape
      exact ⟨content.length, rfl, content, rest, rfl, rfl, step content ▸ counted⟩
  · rintro ⟨later, rfl, content, rest, rfl, rfl, counted⟩
    exact ⟨c :: content, rest, rfl, rfl, (step content).trans counted⟩

private theorem closesAfter_opening :
    ClosesAfter depth count ('<' :: text) ↔
      ∃ later, count = later + 1 ∧ ClosesAfter (depth + 1) later text :=
  closesAfter_cons (fun _ => if_pos rfl) (by simp)

private theorem closesAfter_closing_succ :
    ClosesAfter (depth + 1) count ('>' :: text) ↔
      ∃ later, count = later + 1 ∧ ClosesAfter depth later text :=
  closesAfter_cons (fun _ => by simp [depthAfter]) (by simp)

private theorem closesAfter_other (noOpening : c ≠ '<') (noClosing : c ≠ '>') :
    ClosesAfter depth count (c :: text) ↔
      ∃ later, count = later + 1 ∧ ClosesAfter depth later text :=
  closesAfter_cons (fun _ => by simp [depthAfter, noOpening, noClosing]) (by simp [noClosing])

/-- A text closes a bracket that is not its own just when its count of open brackets fails. -/
theorem depthAfter_eq_none_iff :
    depthAfter depth text = none ↔ ∃ count, ClosesAfter depth count text := by
  fun_induction depthAfter depth text with
  | case1 => simp [not_closesAfter_nil]
  | case2 depth rest ih => simp [ih, closesAfter_opening]
  | case3 rest different => simp [closesAfter_closing_zero]
  | case4 rest outer different ih => simp [ih, closesAfter_closing_succ]
  | case5 depth c rest noOpening noClosing ih =>
    simp [ih, closesAfter_other noOpening noClosing]

/-! ## The pairs of the forward scan -/

/-- The positions, counted from the given one, of a bracket of the text and of the one that
closes it. -/
def ClosedWithin (position : Nat) (text : List Char) (opening closing : Nat) : Prop :=
  ∃ before rest count, text = before ++ '<' :: rest ∧ ClosesAfter 0 count rest ∧
    opening = position + before.length ∧ closing = opening + 1 + count

/-- The positions of a bracket that was open before the text and of the one in the text that
closes it. -/
def ClosedLater (position : Nat) (opened : List Nat) (text : List Char) (opening closing : Nat) :
    Prop :=
  ∃ depth count, opened[depth]? = some opening ∧ ClosesAfter depth count text ∧
    closing = position + count

theorem closedWithin_cons : ClosedWithin position (c :: text) opening closing ↔
    (c = '<' ∧ opening = position ∧
      ∃ count, ClosesAfter 0 count text ∧ closing = position + 1 + count) ∨
    ClosedWithin (position + 1) text opening closing := by
  constructor
  · rintro ⟨before, rest, count, shape, closes, rfl, rfl⟩
    cases before with
    | nil =>
      obtain ⟨rfl, rfl⟩ := List.cons.inj shape
      exact .inl ⟨rfl, rfl, count, closes, rfl⟩
    | cons d before =>
      obtain ⟨rfl, rfl⟩ := List.cons.inj shape
      exact .inr ⟨before, rest, count, rfl, closes, by simp only [List.length_cons]; omega, rfl⟩
  · rintro (⟨rfl, rfl, count, closes, rfl⟩ | ⟨before, rest, count, rfl, closes, rfl, rfl⟩)
    · exact ⟨[], text, count, rfl, closes, rfl, rfl⟩
    · exact ⟨c :: before, rest, count, rfl, closes, by simp only [List.length_cons]; omega, rfl⟩

/-- The last of the open brackets, and those around it. -/
theorem closedLater_cons : ClosedLater position (top :: outer) text opening closing ↔
    (opening = top ∧ ∃ count, ClosesAfter 0 count text ∧ closing = position + count) ∨
    ∃ depth count, outer[depth]? = some opening ∧ ClosesAfter (depth + 1) count text ∧
      closing = position + count := by
  rw [ClosedLater, ← Nat.or_exists_add_one]
  simp [eq_comm]

/-- The pairs of a scan that is under way: a bracket of the text is paired with the one that
closes it, and so is each bracket that was open before. -/
theorem mem_pairsFrom_iff : (opening, closing) ∈ pairsFrom position opened text ↔
    ClosedWithin position text opening closing ∨
      ClosedLater position opened text opening closing := by
  induction text generalizing position opened with
  | nil => simp [pairsFrom, ClosedWithin, ClosedLater, not_closesAfter_nil]
  | cons c text ih =>
    rw [closedWithin_cons]
    by_cases isOpening : c = '<'
    · subst isOpening
      -- The new bracket is the innermost one, and each of the others is one further out.
      have later : ClosedLater position opened ('<' :: text) opening closing ↔
          ∃ depth count, opened[depth]? = some opening ∧ ClosesAfter (depth + 1) count text ∧
            closing = position + 1 + count := by
        simp only [ClosedLater, closesAfter_opening]
        grind
      simp only [pairsFrom, if_true, ih, closedLater_cons, later, true_and, or_assoc]
      exact or_left_comm
    · by_cases isClosing : c = '>'
      · subst isClosing
        cases opened with
        | nil => simp [pairsFrom, ih, ClosedLater]
        | cons top outer =>
          -- The innermost bracket is closed here, and each of the others is one further in.
          have later : ClosedLater position (top :: outer) ('>' :: text) opening closing ↔
              (opening = top ∧ closing = position) ∨
                ClosedLater (position + 1) outer text opening closing := by
            simp only [closedLater_cons, closesAfter_closing_zero, closesAfter_closing_succ]
            grind [ClosedLater]
          simp only [pairsFrom, if_neg isOpening, if_true, List.mem_cons, Prod.mk.injEq, ih, later]
          tauto
      · have later : ClosedLater position opened (c :: text) opening closing ↔
            ClosedLater (position + 1) opened text opening closing := by
          simp only [ClosedLater, closesAfter_other isOpening isClosing]
          grind
        simp [pairsFrom, isOpening, isClosing, ih, later]

/-- The scan pairs the bracket in front of a balanced text with the one behind it. -/
theorem mem_bracketPairs_iff : (opening, closing) ∈ bracketPairs text ↔
    ∃ before content rest, text = before ++ '<' :: (content ++ '>' :: rest) ∧ Balanced content ∧
      opening = before.length ∧ closing = opening + 1 + content.length := by
  rw [bracketPairs, mem_pairsFrom_iff]
  constructor
  · rintro (⟨before, _, _, rfl, ⟨content, rest, rfl, rfl, balanced⟩, rfl, rfl⟩ | ⟨_, _, none, -⟩)
    · exact ⟨before, content, rest, rfl, balanced, Nat.zero_add _, rfl⟩
    · cases none
  · rintro ⟨before, content, rest, rfl, balanced, rfl, rfl⟩
    exact .inl ⟨before, _, _, rfl, ⟨content, rest, rfl, rfl, balanced⟩, (Nat.zero_add _).symm, rfl⟩

/-! ## The check of a whole text -/

/-- The shortest start of the text that has more closing brackets than opening ones. -/
structure FirstExcess (text fragment : List Char) : Prop where
  start : fragment <+: text
  excess : fragment.count '<' < fragment.count '>'
  shortest : ∀ front, front <+: text → front.count '<' < front.count '>' → fragment <+: front

/-- The first opening bracket of the text that is in no pair stands between the two parts. -/
structure FirstUnclosed (text before rest : List Char) : Prop where
  joined : text = before ++ '<' :: rest
  unpaired : ∀ closing, (before.length, closing) ∉ bracketPairs text
  earlier : ∀ front rear, front.length < before.length → text = front ++ '<' :: rear →
    ∃ closing, (front.length, closing) ∈ bracketPairs text

/-- No start of the text has more closing brackets than opening ones. -/
def NoExcess (text : List Char) : Prop :=
  ∀ front, front <+: text → front.count '>' ≤ front.count '<'

/-- What a check of the brackets should report: a closing bracket too many comes first. -/
inductive Reported (text : List Char) : Malformed → Prop where
  | unmatchedClosing (first : FirstExcess text fragment) :
      Reported text ⟨.unmatchedClosing, fragment⟩
  | unclosed (none : NoExcess text) (first : FirstUnclosed text before rest) :
      Reported text ⟨.unclosed, '<' :: rest⟩

private theorem firstExcess_unique (first : FirstExcess text fragment)
    (again : FirstExcess text other) :
    fragment = other :=
  List.IsPrefix.eq_of_length_le (first.shortest other again.start again.excess)
    (again.shortest fragment first.start first.excess).length_le

/-- An opening bracket is in a pair just when what stands behind it closes one bracket more
than it opens. -/
theorem exists_pair_iff : (∃ closing, (before.length, closing) ∈
    bracketPairs (before ++ '<' :: rest)) ↔ depthAfter 0 rest = none := by
  rw [depthAfter_eq_none_iff]
  constructor
  · rintro ⟨closing, paired⟩
    obtain ⟨front, content, rear, shape, balanced, same, -⟩ := mem_bracketPairs_iff.1 paired
    obtain ⟨rfl, behind⟩ := List.append_inj shape same
    obtain ⟨-, rfl⟩ := List.cons.inj behind
    exact ⟨content.length, content, rear, rfl, rfl, balanced⟩
  · rintro ⟨count, content, rear, rfl, rfl, balanced⟩
    exact ⟨_, mem_bracketPairs_iff.2 ⟨before, content, rear, rfl, balanced, rfl, rfl⟩⟩

private theorem firstUnclosed_unique (first : FirstUnclosed text before rest)
    (again : FirstUnclosed text front rear) : before = front ∧ rest = rear := by
  have sameLength : before.length = front.length := by
    rcases Nat.lt_trichotomy before.length front.length with shorter | same | longer
    · obtain ⟨closing, paired⟩ := again.earlier before rest shorter first.joined
      exact absurd paired (first.unpaired closing)
    · exact same
    · obtain ⟨closing, paired⟩ := first.earlier front rear longer again.joined
      exact absurd paired (again.unpaired closing)
  obtain ⟨same, behind⟩ := List.append_inj (first.joined.symm.trans again.joined) sameLength
  exact ⟨same, (List.cons.inj behind).2⟩

private theorem firstExcess_of_balanced (balanced : Balanced front) :
    FirstExcess (front ++ '>' :: rest) (front ++ ['>']) := by
  obtain ⟨starts, total⟩ := depthAfter_eq_some_iff.1 balanced
  refine ⟨⟨rest, by simp⟩, by simp at total ⊢; omega, fun start within excess => ?_⟩
  have whole : front ++ ['>'] <+: front ++ '>' :: rest := ⟨rest, by simp⟩
  rcases List.prefix_or_prefix_of_prefix within whole with shorter | longer
  · rcases List.prefix_concat_iff.1 shorter with rfl | inside
    · exact List.prefix_refl _
    · -- A start of the balanced text has no excess.
      exact absurd (starts start inside) (by omega)
  · exact longer

/-- In a balanced text every bracket is closed. -/
theorem closed_of_balanced (balanced : Balanced (front ++ '<' :: rear)) :
    depthAfter 0 rear = none := by
  rw [Balanced, depthAfter_append] at balanced
  obtain ⟨level, -, counted⟩ := Option.bind_eq_some_iff.1 balanced
  have inside : depthAfter (level + 1) rear = some 0 := counted
  cases reached : depthAfter 0 rear with
  | none => rfl
  | some own =>
    have lifted := depthAfter_lift reached (level + 1)
    rw [Nat.zero_add, inside] at lifted
    cases lifted

private theorem firstUnclosed_of_balanced (balanced : Balanced before)
    (counted : depthAfter 0 rest = some final) :
    FirstUnclosed (before ++ '<' :: rest) before rest where
  joined := rfl
  unpaired closing paired := by
    rw [exists_pair_iff.1 ⟨closing, paired⟩] at counted
    cases counted
  earlier front rear shorter shape := by
    rw [shape]
    refine exists_pair_iff.2 ?_
    rcases List.append_eq_append_iff.1 shape with ⟨between, rfl, behind⟩ | ⟨between, rfl, behind⟩
    · rw [List.length_append] at shorter
      omega
    · cases between with
      | nil => simp at shorter
      | cons c between =>
        obtain ⟨rfl, rfl⟩ := List.cons.inj behind
        -- The bracket is closed in front of the other one already.
        have inside : depthAfter 0 (between ++ '<' :: rest) = none := by
          rw [depthAfter_append, closed_of_balanced balanced, Option.bind_none]
        exact inside

/-- The stack of the check loses and gains brackets on the top only. -/
theorem checkBrackets_append (inner opened : List (List Char))
    (counted : depthAfter inner.length front = some final) (seen rest : List Char) :
    ∃ top : List (List Char), top.length = final ∧
      checkBrackets seen (inner ++ opened) (front ++ rest) =
        checkBrackets (front.reverse ++ seen) (top ++ opened) rest := by
  induction front generalizing inner seen with
  | nil => exact ⟨inner, Option.some.inj counted, rfl⟩
  | cons c front ih =>
    rw [List.reverse_cons, List.append_assoc]
    by_cases opening : c = '<'
    · subst opening
      exact ih (('<' :: (front ++ rest)) :: inner) counted _
    · by_cases closing : c = '>'
      · subst closing
        cases inner with
        | nil => cases counted
        | cons top inner => exact ih inner counted _
      · simp only [depthAfter, if_neg opening, if_neg closing] at counted
        simpa [checkBrackets, opening, closing] using ih inner counted (c :: seen)

/-- The check goes on behind a balanced text as it began. -/
theorem checkBrackets_of_balanced (balanced : Balanced front) (seen : List Char)
    (opened : List (List Char)) (rest : List Char) :
    checkBrackets seen opened (front ++ rest) =
      checkBrackets (front.reverse ++ seen) opened rest := by
  obtain ⟨top, none, read⟩ := checkBrackets_append [] opened balanced seen rest
  obtain rfl := List.length_eq_zero_iff.1 none
  exact read

/-- The first of the brackets that are still open. -/
theorem exists_first_open (counted : depthAfter 0 text = some (level + 1)) :
    ∃ before rest, text = before ++ '<' :: rest ∧ Balanced before ∧
      depthAfter 0 rest = some level := by
  induction level generalizing text with
  | zero => exact exists_last_open counted
  | succ level ih =>
    obtain ⟨front, content, rfl, outside, inside⟩ := exists_last_open counted
    obtain ⟨before, rest, rfl, balanced, reached⟩ := ih outside
    refine ⟨before, rest ++ '<' :: content, by simp, balanced, ?_⟩
    rw [depthAfter_append, reached]
    exact depthAfter_of_balanced inside (level + 1)

private theorem noExcess_of_reached (reached : depthAfter 0 text = some final) : NoExcess text := by
  simpa only [NoExcess, Nat.zero_add] using (depthAfter_eq_some_iff.1 reached).1

private theorem not_noExcess (first : FirstExcess text fragment) : ¬NoExcess text := fun none =>
  absurd (none fragment first.start) (Nat.not_le.2 first.excess)

private theorem reported_unique (report : Reported text fault) (again : Reported text other) :
    fault = other := by
  cases report with
  | unmatchedClosing first =>
    cases again with
    | unmatchedClosing second => rw [firstExcess_unique first second]
    | unclosed none second => exact absurd none (not_noExcess first)
  | unclosed none first =>
    cases again with
    | unmatchedClosing second => exact absurd none (not_noExcess second)
    | unclosed none second => rw [(firstUnclosed_unique first second).2]

private theorem not_reported_of_balanced (balanced : Balanced text) : ¬Reported text fault := by
  intro report
  cases report with
  | unmatchedClosing first => exact not_noExcess first (noExcess_of_reached balanced)
  | unclosed none first =>
    obtain ⟨closing, paired⟩ := exists_pair_iff.2 (closed_of_balanced (first.joined ▸ balanced))
    exact first.unpaired closing (first.joined ▸ paired)

/-- A text that is not balanced is refused with the report that it should get. -/
theorem reported_of_not_balanced (uneven : ¬Balanced text) :
    ∃ fault, checkBalance text = .error fault ∧ Reported text fault := by
  cases counted : depthAfter 0 text with
  | none =>
    obtain ⟨_, front, rest, rfl, -, balanced⟩ := depthAfter_eq_none_iff.1 counted
    refine ⟨_, ?_, .unmatchedClosing (firstExcess_of_balanced balanced)⟩
    rw [checkBalance, checkBrackets_of_balanced balanced]
    simp [checkBrackets]
  | some final =>
    obtain _ | level := final
    · exact absurd counted uneven
    · obtain ⟨before, rest, rfl, balanced, reached⟩ := exists_first_open counted
      refine ⟨⟨.unclosed, '<' :: rest⟩, ?_, .unclosed (noExcess_of_reached counted)
        (firstUnclosed_of_balanced balanced reached)⟩
      -- The bracket stays at the bottom of the stack to the end.
      obtain ⟨top, -, read⟩ := checkBrackets_append [] ['<' :: rest] reached
        ('<' :: (before.reverse ++ [])) []
      rw [List.nil_append, List.append_nil rest] at read
      rw [checkBalance, checkBrackets_of_balanced balanced]
      refine Eq.trans read ?_
      rw [checkBrackets, List.getLast?_concat]

theorem checkBalance_eq_error_iff : checkBalance text = .error fault ↔ Reported text fault := by
  constructor
  · intro refused
    have uneven : ¬Balanced text := by
      rw [← checkBalance_eq_ok_iff, refused]
      nofun
    obtain ⟨other, again, report⟩ := reported_of_not_balanced uneven
    obtain rfl : fault = other := Except.error.inj (refused.symm.trans again)
    exact report
  · intro report
    obtain ⟨other, refused, again⟩ := reported_of_not_balanced (not_reported_of_balanced · report)
    rw [refused, reported_unique report again]

/-! ## The last group -/

/-- The bracket that closes a text is paired with the one that opens its last group. -/
theorem last_pair_iff (inside : Balanced content) :
    (opening, before.length + 1 + content.length) ∈
      bracketPairs (before ++ '<' :: (content ++ ['>'])) ↔ opening = before.length := by
  rw [mem_bracketPairs_iff]
  constructor
  · rintro ⟨front, other, rest, shape, balanced, rfl, last⟩
    have total := congrArg List.length shape
    obtain rfl : rest = [] := by
      rw [← List.length_eq_zero_iff]
      simp at total
      omega
    have found := splitLastGroup_group inside before
    rw [shape, splitLastGroup_group balanced] at found
    cases found
    rfl
  · rintro rfl
    exact ⟨before, content, [], rfl, inside, rfl, rfl⟩

/-- **The scans of brackets agree.** The check accepts the balanced texts. Otherwise it shows
the shortest start with a closing bracket too many or, where there is none, the text from the
first bracket on that is in no pair of the forward scan. In a balanced text that ends in a
closing bracket, the backward search stops at the very bracket that the forward scan pairs
with the last one, and what stands before it and inside of it is balanced. -/
theorem bracket_scans_agree (text : List Char) :
    (checkBalance text = .ok () ↔ ¬Unbalanced text) ∧
    (∀ fault, checkBalance text = .error fault ↔ Reported text fault) ∧
    (¬Unbalanced text → text.getLast? = some '>' →
      ∃ before content, splitLastGroup text = some (before, content) ∧
        text = before ++ '<' :: (content ++ ['>']) ∧
        (∀ opening, (opening, text.length - 1) ∈ bracketPairs text ↔ opening = before.length) ∧
        ¬Unbalanced before ∧ ¬Unbalanced content) := by
  refine ⟨checkBalance_eq_ok_iff.trans balanced_iff, fun _ => checkBalance_eq_error_iff,
    fun level closed => ?_⟩
  obtain ⟨before, content, group, outside, inside⟩ :=
    splitLastGroup_of_balanced (balanced_iff.2 level) closed
  have shape := splitLastGroup_eq_some closed group
  refine ⟨before, content, group, shape, fun opening => ?_, balanced_iff.1 outside,
    balanced_iff.1 inside⟩
  have last : text.length - 1 = before.length + 1 + content.length := by
    rw [shape]
    simp
    omega
  rw [last, shape]
  exact last_pair_iff inside

/-- Two groups inside of a third: the last bracket closes the first one. -/
theorem outer_group_is_last :
    let text := "M<A<B>, C<D>>".toList
    checkBalance text = .ok () ∧
      bracketPairs text = [(3, 5), (9, 11), (1, 12)] ∧
      (∃ before content, splitLastGroup text = some (before, content) ∧ before = ['M'] ∧
        ¬Unbalanced content) ∧
      Reported "A>B<C".toList ⟨.unmatchedClosing, "A>".toList⟩ ∧
      Reported "A<B>C<D<E>".toList ⟨.unclosed, "<D<E>".toList⟩ := by
  intro text
  have level : ¬Unbalanced text := balanced_iff.1 (by unfold Balanced; decide +kernel)
  obtain ⟨accepted, -, group⟩ := bracket_scans_agree text
  obtain ⟨before, content, found, shape, pairs, -, inside⟩ := group level (by decide +kernel)
  refine ⟨accepted.2 level, by decide +kernel, ⟨before, content, found, ?_, inside⟩, ?_, ?_⟩
  · have computed : splitLastGroup text = some (['M'], "A<B>, C<D>".toList) := by decide +kernel
    rw [computed] at found
    cases found
    rfl
  · exact ((bracket_scans_agree _).2.1 _).1 (by decide +kernel)
  · exact ((bracket_scans_agree _).2.1 _).1 (by decide +kernel)

end DelegateClasses.TypeTree
