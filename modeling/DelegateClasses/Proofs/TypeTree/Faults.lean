import DelegateClasses.Proofs.TypeTree.Balance
import DelegateClasses.Proofs.TypeTree.Derivations

/-! The faults of the reader, told from the texts that it reads one inside the other. The
check of the brackets is made once, on the whole text, and relied upon in every part of it.
Main statement: a fault shows a part of the text, and which fault it is can be told from the
first part that is refused; when the brackets are balanced no part is refused for its
brackets. -/
namespace DelegateClasses.TypeTree
open Text

/-- The texts with which the reader goes on, in their order: that of a bound, or those of
arguments. -/
inductive GoesOn : List Char → List (List Char) → Prop where
  | bound (marked : trim text = '?' :: rest) (found : splitBound rest = some (kind, content)) :
      GoesOn text [content]
  | arguments (grouped : Grouped text count base before content)
      (parts : splitArguments content = .ok texts) : GoesOn text texts

/-- The texts that may be read in the course of reading a text. -/
inductive Reads : List Char → List Char → Prop where
  | itself : Reads text text
  | further (goes : GoesOn text texts) (among : next ∈ texts) (others : Reads next part) :
      Reads text part

/-- What a text is refused for when the reader has read all that it goes on with. -/
inductive Refuses : List Char → Malformed → Prop where
  | wildcard (marked : trim text = '?' :: rest) (more : ¬Blanks rest)
      (unbound : splitBound rest = none) : Refuses text ⟨.invalidWildcard, '?' :: rest⟩
  | unopened (ordinary : ∀ rest, trim text ≠ '?' :: rest)
      (cut : splitSuffixes (trim text) = (count, base)) (closed : base.getLast? = some '>')
      (lost : splitLastGroup base = none) : Refuses text ⟨.unmatchedClosing, base⟩
  | arguments (grouped : Grouped text count base before content)
      (uncut : splitArguments content = .error fault) : Refuses text fault
  | generic (grouped : Grouped text count base before content)
      (parts : splitArguments content = .ok texts) (read : texts.mapM readType = .ok given)
      (unnamed : assemble base (trim before) true given count = .error fault) :
      Refuses text fault
  | plain (ordinary : ∀ rest, trim text ≠ '?' :: rest)
      (cut : splitSuffixes (trim text) = (count, base)) (bare : base.getLast? ≠ some '>')
      (unnamed : assemble base base false [] count = .error fault) : Refuses text fault

/-- The part of a text at which the text is refused. Of the texts that the reader goes on
with, it is looked for in the first that is not read. -/
inductive RejectedAt : List Char → List Char → Malformed → Prop where
  | itself (refuses : Refuses text fault) : RejectedAt text text fault
  | further (goes : GoesOn text (front ++ next :: others))
      (read : ∀ earlier ∈ front, ∃ tree, readType earlier = .ok tree)
      (rejected : RejectedAt next part fault) : RejectedAt text part fault

/-! ## The texts that are read -/

private theorem infix_commaJoined {parts : List (List Char)} (member : part ∈ parts) :
    part <:+: commaJoined parts := by
  induction parts with
  | nil => cases member
  | cons first others ih =>
    cases others with
    | nil =>
      rw [List.mem_singleton.1 member]
      exact List.infix_rfl
    | cons next others =>
      rcases List.mem_cons.1 member with rfl | later
      · exact (List.prefix_append _ _).isInfix
      · have behind : commaJoined (next :: others) <:+: commaJoined (first :: next :: others) :=
          ((List.suffix_cons _ _).trans (List.suffix_append _ _)).isInfix
        exact (ih later).trans behind

private theorem base_within (cut : splitSuffixes (trim text) = (count, base)) : base <:+: text := by
  obtain ⟨rear, -, shape⟩ := splitSuffixes_eq cut
  refine List.IsInfix.trans ?_ (trim_within text)
  rw [shape]
  exact (List.prefix_append _ _).isInfix

namespace Grouped

variable {text base before content : List Char} {count : Nat}

private theorem content_within (grouped : Grouped text count base before content) :
    content <:+: text := by
  refine List.IsInfix.trans ⟨before ++ ['<'], ['>'], ?_⟩ (base_within grouped.cut)
  rw [grouped.shape]
  simp

private theorem name_within (grouped : Grouped text count base before content) :
    trim before <:+: text := by
  refine (trim_within before).trans (List.IsInfix.trans ?_ (base_within grouped.cut))
  rw [grouped.shape]
  exact (List.prefix_append _ _).isInfix

end Grouped

/-- The reader goes on inside of the text that it reads. -/
private theorem infix_of_goesOn (goes : GoesOn text texts) (among : part ∈ texts) :
    part <:+: text := by
  cases goes with
  | bound marked found =>
    obtain ⟨space, between, -, -, -, -, -, -, -, rfl⟩ := splitBound_eq_some found
    refine List.IsInfix.trans ?_ (trim_within text)
    rw [marked, List.mem_singleton.1 among]
    exact ((List.suffix_append _ _).trans (List.suffix_cons _ _)).isInfix
  | arguments grouped parts =>
    rcases splitArguments_eq_ok parts with ⟨-, rfl⟩ | ⟨pieces, -, rfl, rfl⟩
    · cases among
    · obtain ⟨piece, member, rfl⟩ := List.mem_map.1 among
      exact ((trim_within piece).trans (infix_commaJoined member)).trans grouped.content_within

/-- The reader goes on with nothing that is blank. -/
private theorem solid_of_goesOn (goes : GoesOn text texts) (among : part ∈ texts) :
    trim part ≠ [] := by
  cases goes with
  | bound marked found =>
    obtain ⟨-, -, -, -, -, -, -, nonempty, starts, -⟩ := splitBound_eq_some found
    rw [List.mem_singleton.1 among, ne_eq, trim_eq_nil_iff]
    intro blanks
    obtain ⟨c, rest, shape⟩ := List.exists_cons_of_ne_nil nonempty
    have solid := starts c (by rw [shape]; rfl)
    rw [blanks c (by rw [shape]; exact List.mem_cons_self)] at solid
    cases solid
  | arguments grouped parts =>
    have filled := ne_nil_of_mem_splitArguments parts among
    rcases splitArguments_eq_ok parts with ⟨-, rfl⟩ | ⟨pieces, -, -, rfl⟩
    · cases among
    · obtain ⟨piece, -, rfl⟩ := List.mem_map.1 among
      rwa [trim_trim]

private theorem balanced_of_cut (balanced : Balanced text)
    (cut : splitSuffixes (trim text) = (count, base)) : Balanced base := by
  obtain ⟨rear, suffixes, shape⟩ := splitSuffixes_eq cut
  rwa [← balanced_append_quiet (quiet_of_suffixes suffixes), ← shape, balanced_trim]

theorem Grouped.balanced (grouped : Grouped text count base before content)
    (whole : Balanced text) : Balanced content := by
  obtain ⟨_, _, group, -, inside⟩ :=
    splitLastGroup_of_balanced (balanced_of_cut whole grouped.cut) grouped.closed
  cases group.symm.trans grouped.group
  exact inside

/-- What the reader goes on with is balanced, if the text is. -/
private theorem balanced_of_goesOn (balanced : Balanced text) (goes : GoesOn text texts)
    (among : part ∈ texts) : Balanced part := by
  cases goes with
  | @bound rest kind content marked found =>
    obtain ⟨space, between, word, gap, -, pause, -, -, -, rfl⟩ := splitBound_eq_some found
    have quiet : Quiet ('?' :: (space ++ kind.toList ++ between)) :=
      List.forall_mem_cons.2 ⟨by decide, quiet_append (quiet_append (quiet_of_blanks gap)
        (quiet_of_bound_word word)) (quiet_of_blanks pause)⟩
    rw [← balanced_trim, marked, ← List.cons_append] at balanced
    rw [List.mem_singleton.1 among]
    exact (balanced_quiet_append quiet).1 balanced
  | arguments grouped parts =>
    rcases splitArguments_of_balanced (grouped.balanced balanced) with ⟨found, cut, each⟩ | refused
    · cases cut.symm.trans parts
      exact each _ among
    · rw [refused] at parts
      cases parts

/-- Whatever holds of a text and of what the reader goes on with holds of all that is read. -/
theorem reads_induction (holds : List Char → Prop)
    (step : ∀ {text texts part}, GoesOn text texts → part ∈ texts → holds text → holds part)
    (reads : Reads text part) (first : holds text) : holds part := by
  induction reads with
  | itself => exact first
  | further goes among others ih => exact ih (step goes among first)

/-! ## The part that is refused -/

private theorem mapM_cons_of_error {act : α → Except ε β} (first : act value = .error fault)
    (values : List α) : (value :: values).mapM act = .error fault := by
  rw [List.mapM_cons, first]
  rfl

private theorem mapM_cons_of_ok {act : α → Except ε β} (first : act value = .ok result)
    (values : List α) : (value :: values).mapM act = .error fault ↔
      values.mapM act = .error fault := by
  rw [List.mapM_cons, first]
  cases values.mapM act <;> simp [bind, Except.bind, pure, Except.pure]

/-- The first value for which the work fails decides. -/
theorem mapM_eq_error_iff {values : List α} {act : α → Except ε β} :
    values.mapM act = .error fault ↔ ∃ front value others, values = front ++ value :: others ∧
      (∀ earlier ∈ front, ∃ result, act earlier = .ok result) ∧ act value = .error fault := by
  constructor
  · intro failed
    induction values with
    | nil => cases failed
    | cons first values ih =>
      cases done : act first with
      | error other =>
        cases (mapM_cons_of_error done values).symm.trans failed
        exact ⟨[], first, values, rfl, nofun, done⟩
      | ok result =>
        obtain ⟨front, value, others, rfl, before, refused⟩ :=
          ih ((mapM_cons_of_ok done values).1 failed)
        exact ⟨first :: front, value, others, rfl,
          List.forall_mem_cons.2 ⟨⟨result, done⟩, before⟩, refused⟩
  · rintro ⟨front, value, others, rfl, before, refused⟩
    induction front with
    | nil => exact mapM_cons_of_error refused others
    | cons first front ih =>
      obtain ⟨⟨result, done⟩, later⟩ := List.forall_mem_cons.1 before
      exact (mapM_cons_of_ok done _).2 (ih later)

/-- Whenever the text is not read, it is refused at some part of it. -/
def Located (text : List Char) : Prop :=
  ∀ fault, readType text = .error fault → ∃ part, RejectedAt text part fault

private theorem located_bound (marked : trim text = '?' :: rest)
    (found : splitBound rest = some (kind, content)) (bound : Located content) :
    Located text := by
  intro fault failed
  have goes : GoesOn text ([] ++ content :: []) := .bound marked found
  rw [readType_bound marked found] at failed
  cases inner : readType content with
  | ok tree =>
    rw [inner] at failed
    cases failed
  | error other =>
    rw [inner] at failed
    cases failed
    obtain ⟨part, rejected⟩ := bound fault inner
    exact ⟨part, .further goes nofun rejected⟩

private theorem located_arguments (grouped : Grouped text count base before content)
    (parts : splitArguments content = .ok texts) (located : ∀ part ∈ texts, Located part) :
    Located text := by
  intro fault failed
  rw [grouped.readType_eq, parts] at failed
  simp only at failed
  cases all : texts.mapM readType with
  | ok given =>
    rw [all] at failed
    exact ⟨text, .itself (.generic grouped parts all failed)⟩
  | error other =>
    rw [all] at failed
    cases failed
    obtain ⟨front, next, others, rfl, read, inner⟩ := mapM_eq_error_iff.1 all
    obtain ⟨part, rejected⟩ := located next (by simp) fault inner
    exact ⟨part, .further (.arguments grouped parts) read rejected⟩

private theorem located_all (text : List Char) : Located text := by
  induction text using readType_induction with
  | anything marked blanks =>
    intro fault failed
    cases (readType_anything marked blanks).symm.trans failed
  | unbound marked more lost =>
    intro fault failed
    cases (readType_unbound marked more lost).symm.trans failed
    exact ⟨_, .itself (.wildcard marked more lost)⟩
  | bound marked found ih => exact located_bound marked found ih
  | unopened ordinary cut closed lost =>
    intro fault failed
    cases (readType_unopened ordinary cut closed lost).symm.trans failed
    exact ⟨_, .itself (.unopened ordinary cut closed lost)⟩
  | uncut grouped refused =>
    intro fault failed
    rw [grouped.readType_eq, refused] at failed
    cases failed
    exact ⟨_, .itself (.arguments grouped refused)⟩
  | arguments grouped parts ih => exact located_arguments grouped parts ih
  | plain ordinary cut bare =>
    intro fault failed
    rw [readType_plain ordinary cut bare] at failed
    exact ⟨_, .itself (.plain ordinary cut bare failed)⟩

theorem readType_of_refuses (refuses : Refuses text fault) :
    readType text = .error fault := by
  cases refuses with
  | wildcard marked more unbound => exact readType_unbound marked more unbound
  | unopened ordinary cut closed lost => exact readType_unopened ordinary cut closed lost
  | arguments grouped uncut => rw [grouped.readType_eq, uncut]
  | generic grouped parts read unnamed =>
    rw [grouped.readType_eq, parts]
    simp only [read, unnamed]
  | plain ordinary cut bare unnamed => rw [readType_plain ordinary cut bare, unnamed]

/-- Of the texts that the reader goes on with, the first that is not read decides. -/
theorem readType_of_goesOn (goes : GoesOn text texts)
    (failed : texts.mapM readType = .error fault) : readType text = .error fault := by
  cases goes with
  | @bound rest kind content marked found =>
    obtain ⟨front, next, others, shape, -, refused⟩ := mapM_eq_error_iff.1 failed
    have same : next = content := List.mem_singleton.1 (by rw [shape]; simp)
    rw [readType_bound marked found, ← same, refused]
    rfl
  | arguments grouped parts =>
    rw [grouped.readType_eq, parts]
    simp only [failed]

/-- A text is refused for what one part of it is refused for. -/
theorem readType_of_rejectedAt (rejected : RejectedAt text part fault) :
    readType text = .error fault := by
  induction rejected with
  | itself refuses => exact readType_of_refuses refuses
  | further goes read rejected ih =>
    exact readType_of_goesOn goes (mapM_eq_error_iff.2 ⟨_, _, _, rfl, read, ih⟩)

private theorem reads_of_rejectedAt (rejected : RejectedAt text part fault) :
    Reads text part ∧ Refuses part fault := by
  induction rejected with
  | itself refuses => exact ⟨.itself, refuses⟩
  | further goes read rejected ih => exact ⟨.further goes (by simp) ih.1, ih.2⟩

private theorem goesOn_unique (goes : GoesOn text texts) (again : GoesOn text others) :
    texts = others := by
  cases goes with
  | bound marked found =>
    cases again with
    | bound markedAgain foundAgain =>
      cases marked.symm.trans markedAgain
      cases found.symm.trans foundAgain
      rfl
    | arguments grouped parts => exact absurd marked (grouped.ordinary _)
  | arguments grouped parts =>
    cases again with
    | bound marked found => exact absurd marked (grouped.ordinary _)
    | arguments groupedAgain partsAgain =>
      cases grouped.cut.symm.trans groupedAgain.cut
      cases grouped.group.symm.trans groupedAgain.group
      cases parts.symm.trans partsAgain
      rfl

/-- A text is refused itself only if the reader reads all that it goes on with. -/
theorem read_of_refuses (refuses : Refuses text fault) (goes : GoesOn text texts) :
    ∃ given, texts.mapM readType = .ok given := by
  cases goes with
  | bound marked found =>
    cases refuses with
    | wildcard again more unbound =>
      cases marked.symm.trans again
      cases unbound.symm.trans found
    | unopened ordinary => exact absurd marked (ordinary _)
    | arguments grouped => exact absurd marked (grouped.ordinary _)
    | generic grouped => exact absurd marked (grouped.ordinary _)
    | plain ordinary => exact absurd marked (ordinary _)
  | arguments grouped parts =>
    cases refuses with
    | wildcard marked => exact absurd marked (grouped.ordinary _)
    | unopened ordinary cut closed lost =>
      cases cut.symm.trans grouped.cut
      cases lost.symm.trans grouped.group
    | arguments again uncut =>
      cases grouped.cut.symm.trans again.cut
      cases grouped.group.symm.trans again.group
      cases parts.symm.trans uncut
    | generic again others read =>
      cases goesOn_unique (.arguments grouped parts) (.arguments again others)
      exact ⟨_, read⟩
    | plain ordinary cut bare =>
      cases cut.symm.trans grouped.cut
      exact absurd grouped.closed bare

/-- A text that is not read, with nothing but read texts in front of it, comes no later than
any other that is not read. -/
private theorem unread_eq_or_mem {front others others' : List (List Char)}
    (front' : List (List Char)) (same : front ++ first :: others = front' ++ second :: others')
    (read : ∀ earlier ∈ front, ∃ tree, readType earlier = .ok tree)
    (failed : readType second = .error fault) : first = second ∨ first ∈ front' := by
  rcases List.append_eq_append_iff.1 same with ⟨between, rfl, rest⟩ | ⟨between, rfl, rest⟩
  · cases between with
    | nil => exact .inl (List.cons.inj rest).1
    | cons c between =>
      rw [(List.cons.inj rest).1]
      exact .inr (by simp)
  · cases between with
    | nil => exact .inl (List.cons.inj rest).1.symm
    | cons c between =>
      obtain ⟨tree, succeeded⟩ := read c (by simp)
      rw [← (List.cons.inj rest).1, failed] at succeeded
      cases succeeded

/-- There is one part at which a text is refused. -/
theorem rejectedAt_unique (rejected : RejectedAt text part fault)
    (again : RejectedAt text other reason) : part = other := by
  induction rejected generalizing other with
  | itself refuses =>
    cases again with
    | itself => rfl
    | further goes read rejected =>
      obtain ⟨given, all⟩ := read_of_refuses refuses goes
      have failed := readType_of_rejectedAt rejected
      cases all.symm.trans (mapM_eq_error_iff.2 ⟨_, _, _, rfl, read, failed⟩)
  | further goes read rejected ih =>
    have failed := readType_of_rejectedAt rejected
    cases again with
    | itself refuses =>
      obtain ⟨given, all⟩ := read_of_refuses refuses goes
      cases all.symm.trans (mapM_eq_error_iff.2 ⟨_, _, _, rfl, read, failed⟩)
    | further goesAgain readAgain rejectedAgain =>
      have same := goesOn_unique goes goesAgain
      have failedAgain := readType_of_rejectedAt rejectedAgain
      rcases unread_eq_or_mem _ same read failedAgain with rfl | before
      · exact ih rejectedAgain
      · obtain ⟨tree, succeeded⟩ := readAgain _ before
        cases succeeded.symm.trans failed

theorem readType_eq_error_iff :
    readType text = .error fault ↔ ∃! part, RejectedAt text part fault := by
  refine ⟨fun failed => ?_, fun ⟨_, rejected, _⟩ => readType_of_rejectedAt rejected⟩
  obtain ⟨part, rejected⟩ := located_all text fault failed
  exact ⟨part, rejected, fun other again => rejectedAt_unique again rejected⟩

/-! ## What a fault shows -/

/-- The faults that can be found in a text whose brackets are balanced. -/
def innerCauses : List Malformation :=
  [.emptyArgument, .invalidWildcard, .primitiveArguments, .invalidName]

private theorem assemble_eq_error
    (failed : assemble base written generic given count = .error fault) :
    (generic = true ∧ fault = ⟨.primitiveArguments, base⟩) ∨
      fault = ⟨.invalidName, if written = [] then base else written⟩ := by
  simp only [assemble] at failed
  split at failed
  · split at failed
    · next brackets =>
      cases failed
      exact .inl ⟨brackets, rfl⟩
    · cases failed
  · split at failed
    · cases failed
    · cases failed
      exact .inr (by simp [List.isEmpty_iff])

/-- No text with balanced brackets is refused for its brackets. -/
theorem innerCause_of_refuses (balanced : Balanced text) (refuses : Refuses text fault) :
    fault.cause ∈ innerCauses := by
  cases refuses with
  | wildcard marked more unbound => simp [innerCauses]
  | unopened ordinary cut closed lost =>
    obtain ⟨_, _, found, -⟩ := splitLastGroup_of_balanced (balanced_of_cut balanced cut) closed
    rw [lost] at found
    cases found
  | arguments grouped uncut =>
    rcases splitArguments_of_balanced (grouped.balanced balanced) with ⟨_, cut, -⟩ | refused
    · cases cut.symm.trans uncut
    · cases refused.symm.trans uncut
      simp [innerCauses]
  | generic grouped parts read unnamed =>
    rcases assemble_eq_error unnamed with ⟨-, rfl⟩ | rfl <;> simp [innerCauses]
  | plain ordinary cut bare unnamed =>
    rcases assemble_eq_error unnamed with ⟨-, rfl⟩ | rfl <;> simp [innerCauses]

private theorem fragment_infix_of_refuses (balanced : Balanced text)
    (refuses : Refuses text fault) :
    fault.fragment <:+: text := by
  cases refuses with
  | wildcard marked more unbound => exact marked ▸ trim_within text
  | unopened ordinary cut closed lost => exact base_within cut
  | arguments grouped uncut =>
    rcases splitArguments_of_balanced (grouped.balanced balanced) with ⟨_, cut, -⟩ | refused
    · cases cut.symm.trans uncut
    · cases refused.symm.trans uncut
      exact grouped.content_within
  | generic grouped parts read unnamed =>
    rcases assemble_eq_error unnamed with ⟨-, rfl⟩ | rfl
    · exact base_within grouped.cut
    · split
      · exact base_within grouped.cut
      · exact grouped.name_within
  | plain ordinary cut bare unnamed =>
    rcases assemble_eq_error unnamed with ⟨-, rfl⟩ | rfl
    · exact base_within cut
    · split <;> exact base_within cut

theorem suffixes_chars (suffixes : Suffixes count rear) :
    ∀ c ∈ rear, isBlank c = true ∨ c ∈ ['[', ']'] := by
  induction suffixes with
  | none => simp
  | more others gap ih =>
    intro c member
    rcases List.mem_append.1 member with before | mark
    · exact (List.mem_append.1 before).elim (ih c) fun within => .inl (gap c within)
    · exact .inr mark

/-- There is nothing in front of the array suffixes just when there is nothing else. -/
theorem base_eq_nil_iff (cut : splitSuffixes (trim text) = (count, base)) :
    base = [] ↔ ∃ count, Suffixes count (trim text) := by
  constructor
  · rintro rfl
    obtain ⟨rear, suffixes, shape⟩ := splitSuffixes_eq cut
    exact ⟨count, shape ▸ suffixes⟩
  · rintro ⟨amount, suffixes⟩
    have empty : Tight [] := ⟨nofun, nofun⟩
    have again := splitSuffixes_append empty (by decide) suffixes
    rw [List.nil_append, cut] at again
    exact (Prod.mk.inj again).2

/-- A fault shows nothing just when there is nothing but array suffixes. -/
theorem fragment_eq_nil_of_refuses (balanced : Balanced text) (refuses : Refuses text fault) :
    fault.fragment = [] ↔ ∃ count, Suffixes count (trim text) := by
  have filled {base : List Char} (closed : base.getLast? = some '>') : base ≠ [] := by
    rintro rfl
    cases closed
  cases refuses with
  | wildcard marked more unbound =>
    refine iff_of_false (List.cons_ne_nil _ _) ?_
    rintro ⟨count, suffixes⟩
    rw [marked] at suffixes
    exact absurd (suffixes_chars suffixes '?' List.mem_cons_self) (by decide)
  | unopened ordinary cut closed lost => exact base_eq_nil_iff cut
  | arguments grouped uncut =>
    rw [← base_eq_nil_iff grouped.cut]
    refine iff_of_false ?_ (filled grouped.closed)
    rcases splitArguments_of_balanced (grouped.balanced balanced) with ⟨_, cut, -⟩ | refused
    · cases cut.symm.trans uncut
    · cases refused.symm.trans uncut
      rintro rfl
      cases refused
  | generic grouped parts read unnamed =>
    rw [← base_eq_nil_iff grouped.cut]
    refine iff_of_false ?_ (filled grouped.closed)
    rcases assemble_eq_error unnamed with ⟨-, rfl⟩ | rfl
    · exact filled grouped.closed
    · split
      · exact filled grouped.closed
      · assumption
  | plain ordinary cut bare unnamed =>
    rcases assemble_eq_error unnamed with ⟨brackets, -⟩ | rfl
    · cases brackets
    · rw [ite_self]
      exact base_eq_nil_iff cut

/-! ## The whole reader -/

/-- The check of the brackets shows a part of the text that is not empty. -/
theorem checkBrackets_eq_error (refused : checkBrackets seen opened text = .error fault)
    (whole : seen.reverse ++ text = all) (within : ∀ rest ∈ opened, rest ≠ [] ∧ rest <:+: all) :
    fault.fragment ≠ [] ∧ fault.fragment <:+: all := by
  have moved (c : Char) (seen rest : List Char) :
      (c :: seen).reverse ++ rest = seen.reverse ++ c :: rest := by simp
  fun_induction checkBrackets seen opened text with
  | case1 => cases refused
  | case2 seen opened rest unclosed =>
    cases refused
    exact within rest (List.mem_of_getLast? unclosed)
  | case3 seen opened rest ih =>
    have own : '<' :: rest <:+: all := whole ▸ (List.suffix_append _ _).isInfix
    exact ih refused (by rwa [moved])
      (List.forall_mem_cons.2 ⟨⟨List.cons_ne_nil _ _, own⟩, within⟩)
  | case4 seen rest different =>
    cases refused
    refine ⟨by simp, ?_⟩
    rw [← whole, ← moved]
    exact (List.prefix_append _ _).isInfix
  | case5 seen rest different top outer ih =>
    exact ih refused (by rwa [moved]) (List.forall_mem_cons.1 within).2
  | case6 seen opened c rest noOpening noClosing ih => exact ih refused (by rwa [moved]) within

private theorem unbalanced_trim : Unbalanced (trim text) ↔ Unbalanced text := by
  rw [← not_iff_not, ← balanced_iff, ← balanced_iff]
  exact balanced_trim

/-- When the brackets are not balanced, the fault is that of their check. -/
theorem parse_of_unbalanced (unbalanced : Unbalanced descriptor.toList) :
    ∃ fault, checkBalance (trim descriptor.toList) = .error fault ∧
      parse descriptor = .error fault ∧ fault.fragment ≠ [] ∧
      fault.fragment <:+: descriptor.toList := by
  have whole := unbalanced_trim.2 unbalanced
  have solid : trim descriptor.toList ≠ [] := by
    intro empty
    rw [empty, ← balanced_iff.not_left] at whole
    exact whole rfl
  cases checked : checkBalance (trim descriptor.toList) with
  | ok accepted => exact absurd whole (balanced_iff.1 (checkBalance_eq_ok_iff.1 checked))
  | error fault =>
    obtain ⟨some, part⟩ := checkBrackets_eq_error checked rfl (by simp)
    refine ⟨fault, rfl, ?_, some, part.trans (trim_within _)⟩
    simp [parse, solid, checked]

private theorem balanced_of_reads (balanced : Balanced text) (reads : Reads text part) :
    Balanced part :=
  reads_induction Balanced (fun goes among whole => balanced_of_goesOn whole goes among) reads
    balanced

/-- A balanced text is not refused for its brackets, nor is any part of it. -/
theorem innerCause_of_readType (balanced : Balanced text) (failed : readType text = .error fault) :
    fault.cause ∈ innerCauses := by
  obtain ⟨part, rejected⟩ := located_all text fault failed
  obtain ⟨reads, refuses⟩ := reads_of_rejectedAt rejected
  exact innerCause_of_refuses (balanced_of_reads balanced reads) refuses

private theorem fragment_infix_of_rejectedAt (balanced : Balanced text)
    (rejected : RejectedAt text part fault) : fault.fragment <:+: text := by
  obtain ⟨reads, refuses⟩ := reads_of_rejectedAt rejected
  have own : part <:+: text := reads_induction (· <:+: text)
    (fun goes among within => (infix_of_goesOn goes among).trans within) reads List.infix_rfl
  exact (fragment_infix_of_refuses (balanced_of_reads balanced reads) refuses).trans own

/-- The fault shows nothing only if there are array suffixes, and nothing else. -/
theorem suffixes_of_rejectedAt (solid : trim text ≠ []) (balanced : Balanced text)
    (rejected : RejectedAt text part fault) (nothing : fault.fragment = []) :
    ∃ count, Suffixes (count + 1) (trim part) := by
  obtain ⟨reads, refuses⟩ := reads_of_rejectedAt rejected
  have filled : trim part ≠ [] := reads_induction (trim · ≠ [])
    (fun goes among _ => solid_of_goesOn goes among) reads solid
  obtain ⟨count, suffixes⟩ :=
    (fragment_eq_nil_of_refuses (balanced_of_reads balanced reads) refuses).1 nothing
  generalize trim part = core at suffixes filled
  cases suffixes with
  | none => exact absurd rfl filled
  | more others gap => exact ⟨_, .more others gap⟩

private theorem fragment_of_suffixes (rejected : RejectedAt text part fault)
    (suffixes : Suffixes count (trim part)) : fault.fragment = [] := by
  have level : Balanced part := balanced_trim.1 (balanced_of_quiet (quiet_of_suffixes suffixes))
  exact (fragment_eq_nil_of_refuses level (reads_of_rejectedAt rejected).2).2 ⟨count, suffixes⟩

theorem parse_eq_error_iff : parse descriptor = .error fault ↔
    (Blanks descriptor.toList ∧ fault = ⟨.emptyDescriptor, descriptor.toList⟩) ∨
    (Unbalanced descriptor.toList ∧ checkBalance (trim descriptor.toList) = .error fault) ∨
    (¬Blanks descriptor.toList ∧ ¬Unbalanced descriptor.toList ∧
      ∃! part, RejectedAt (trim descriptor.toList) part fault) := by
  by_cases blank : Blanks descriptor.toList
  · have level : ¬Unbalanced descriptor.toList :=
      balanced_iff.1 (balanced_of_quiet (quiet_of_blanks blank))
    have refused : parse descriptor = .error ⟨.emptyDescriptor, descriptor.toList⟩ := by
      simp [parse, trim_eq_nil_iff.2 blank]
    simp [refused, blank, level, eq_comm]
  · by_cases unbalanced : Unbalanced descriptor.toList
    · obtain ⟨shown, checked, refused, -⟩ := parse_of_unbalanced unbalanced
      simp [refused, checked, blank, unbalanced]
    · have level := balanced_trim.2 (balanced_iff.2 unbalanced)
      rw [parse_of_balanced (by rwa [ne_eq, trim_eq_nil_iff]) level, readType_eq_error_iff]
      simp [blank, unbalanced]

private theorem fragment_infix_of_parse (failed : parse descriptor = .error fault) :
    fault.fragment <:+: descriptor.toList := by
  rcases parse_eq_error_iff.1 failed with ⟨-, rfl⟩ | ⟨unbalanced, -⟩ | ⟨-, level, part, rejected, -⟩
  · exact List.infix_rfl
  · obtain ⟨shown, -, refused, -, within⟩ := parse_of_unbalanced unbalanced
    cases refused.symm.trans failed
    exact within
  · have balanced := balanced_trim.2 (balanced_iff.2 level)
    exact (fragment_infix_of_rejectedAt balanced rejected).trans (trim_within _)

private theorem fragment_eq_nil_of_parse (failed : parse descriptor = .error fault) :
    fault.fragment = [] ↔ descriptor = "" ∨
      ∃ part count, RejectedAt (trim descriptor.toList) part fault ∧
        Suffixes (count + 1) (trim part) := by
  constructor
  · intro nothing
    rcases parse_eq_error_iff.1 failed with
      ⟨-, rfl⟩ | ⟨unbalanced, -⟩ | ⟨solid, level, part, rejected, -⟩
    · exact .inl (String.toList_eq_nil_iff.1 nothing)
    · obtain ⟨shown, -, refused, some, -⟩ := parse_of_unbalanced unbalanced
      cases refused.symm.trans failed
      exact absurd nothing some
    · have filled : trim (trim descriptor.toList) ≠ [] := by
        rwa [trim_trim, ne_eq, trim_eq_nil_iff]
      have balanced := balanced_trim.2 (balanced_iff.2 level)
      obtain ⟨count, suffixes⟩ := suffixes_of_rejectedAt filled balanced rejected nothing
      exact .inr ⟨part, count, rejected, suffixes⟩
  · rintro (rfl | ⟨part, count, rejected, suffixes⟩)
    · cases failed
      rfl
    · exact fragment_of_suffixes rejected suffixes

/-- **The faults of the reader are exact.** It gives a tree or a fault for every text. The
fault shows a part of the text, and shows nothing only of an empty text or when array suffixes
are all there is of the part that is refused. It is a fault of the brackets, found by their
check, just when they are not balanced; otherwise no text that is read on the way is refused
for its brackets. -/
theorem faults_are_exact (descriptor : String) :
    ((∃ tree, parse descriptor = .ok tree) ∨ ∃ fault, parse descriptor = .error fault) ∧
    (∀ fault, parse descriptor = .error fault ↔
      (Blanks descriptor.toList ∧ fault = ⟨.emptyDescriptor, descriptor.toList⟩) ∨
      (Unbalanced descriptor.toList ∧ checkBalance (trim descriptor.toList) = .error fault) ∨
      (¬Blanks descriptor.toList ∧ ¬Unbalanced descriptor.toList ∧
        ∃! part, RejectedAt (trim descriptor.toList) part fault)) ∧
    (∀ fault, parse descriptor = .error fault →
      fault.fragment <:+: descriptor.toList ∧
      (fault.fragment = [] ↔ descriptor = "" ∨
        ∃ part count, RejectedAt (trim descriptor.toList) part fault ∧
          Suffixes (count + 1) (trim part))) ∧
    (Unbalanced descriptor.toList → ∃ fault,
      checkBalance (trim descriptor.toList) = .error fault ∧ parse descriptor = .error fault) ∧
    (¬Unbalanced descriptor.toList →
      ∀ part, Reads (trim descriptor.toList) part → ∀ fault, readType part = .error fault →
        fault.cause ∈ innerCauses) := by
  refine ⟨?_, fun fault => parse_eq_error_iff, fun fault failed => ?_, ?_, ?_⟩
  · cases parse descriptor with
    | ok tree => exact .inl ⟨tree, rfl⟩
    | error fault => exact .inr ⟨fault, rfl⟩
  · exact ⟨fragment_infix_of_parse failed, fragment_eq_nil_of_parse failed⟩
  · intro unbalanced
    obtain ⟨fault, checked, refused, -⟩ := parse_of_unbalanced unbalanced
    exact ⟨fault, checked, refused⟩
  · intro level part reads fault failed
    have balanced := balanced_trim.2 (balanced_iff.2 level)
    exact innerCause_of_readType (balanced_of_reads balanced reads) failed

/-- The second argument has no name, and the second text closes a bracket too many. -/
theorem lone_suffixes_are_not_shown :
    parse "A<a.C, [] [] >" = .error ⟨.invalidName, []⟩ ∧
    (∃ part count, RejectedAt (trim "A<a.C, [] [] >".toList) part ⟨.invalidName, []⟩ ∧
      Suffixes (count + 1) (trim part)) ∧
    Unbalanced " a.B>[]".toList ∧
    parse " a.B>[]" = .error ⟨.unmatchedClosing, "a.B>".toList⟩ := by
  have shown : (match parse "A<a.C, [] [] >" with
      | .error fault => some fault
      | .ok _ => none) = some ⟨.invalidName, []⟩ := by
    decide +kernel
  have refused : parse "A<a.C, [] [] >" = .error ⟨.invalidName, []⟩ := by
    split at shown
    · next fault failed => rw [failed, Option.some.inj shown]
    · cases shown
  have unbalanced : Unbalanced " a.B>[]".toList := .inr (by decide)
  have excess : checkBalance (trim " a.B>[]".toList) =
      .error ⟨.unmatchedClosing, "a.B>".toList⟩ := by decide +kernel
  obtain ⟨-, -, parts, -, -⟩ := faults_are_exact "A<a.C, [] [] >"
  obtain ⟨-, -, -, checked, -⟩ := faults_are_exact " a.B>[]"
  obtain ⟨fault, found, failed⟩ := checked unbalanced
  cases excess.symm.trans found
  exact ⟨refused, ((parts _ refused).2.1 rfl).resolve_left (by decide), unbalanced, failed⟩

end DelegateClasses.TypeTree
