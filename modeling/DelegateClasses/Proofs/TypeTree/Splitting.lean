import DelegateClasses.Proofs.TypeTree.Balance
import Mathlib.Data.List.Forall2

/-! The cutting of a group at its outer commas, told by the pieces that stand between them.
A text with balanced brackets has such pieces, and only one way to have them. Main statement:
cutting gives back the arguments that were joined, whatever blanks were put around them, gives
nothing else, and refuses exactly the texts that are no joined arguments. -/
namespace DelegateClasses.TypeTree
open Text

/-- The pieces of a text between the commas that stand outside of all brackets. -/
structure OuterPieces (text : List Char) (pieces : List (List Char)) : Prop where
  nonempty : pieces ≠ []
  joined : text = commaJoined pieces
  balanced : ∀ piece ∈ pieces, Balanced piece
  undivided : ∀ piece ∈ pieces, Undivided 0 piece

/-- The first text is the second with blanks around it. -/
def Padded (text part : List Char) : Prop :=
  ∃ front rear, Blanks front ∧ Blanks rear ∧ text = front ++ part ++ rear

/-! ## The pieces of a text -/

/-- Where a comma ends the first piece of two texts, the pieces and the rests are the same. -/
private theorem cut_at_outer_comma (first : Balanced piece) (single : Undivided 0 piece)
    (second : Balanced other) (alone : Undivided 0 other)
    (same : piece ++ ',' :: rest = other ++ ',' :: more) : piece = other ∧ rest = more := by
  rcases List.append_eq_append_iff.1 same with ⟨between, rfl, behind⟩ | ⟨between, rfl, behind⟩
  · cases between with
    | nil => exact ⟨(List.append_nil _).symm, (List.cons.inj behind).2⟩
    | cons c between =>
      obtain ⟨rfl, -⟩ := List.cons.inj behind
      exact absurd first (alone piece between rfl)
  · cases between with
    | nil => exact ⟨List.append_nil _, (List.cons.inj behind).2.symm⟩
    | cons c between =>
      obtain ⟨rfl, -⟩ := List.cons.inj behind
      exact absurd second (single other between rfl)

private theorem outerPieces_unique (outer : OuterPieces text parts)
    (again : OuterPieces text others) :
    parts = others := by
  induction parts generalizing text others with
  | nil => exact absurd rfl outer.nonempty
  | cons part parts ih =>
    obtain ⟨-, rfl, balanced, undivided⟩ := outer
    obtain ⟨nonempty, joined, level, whole⟩ := again
    obtain ⟨other, others, rfl⟩ := List.exists_cons_of_ne_nil nonempty
    have first := balanced part List.mem_cons_self
    have single := undivided part List.mem_cons_self
    have second := level other List.mem_cons_self
    have alone := whole other List.mem_cons_self
    cases parts with
    | nil =>
      cases others with
      | nil => exact congrArg (· :: []) joined
      | cons next others => exact absurd second (single other _ joined)
    | cons next parts =>
      cases others with
      | nil => exact absurd first (alone part _ joined.symm)
      | cons later others =>
        obtain ⟨rfl, behind⟩ := cut_at_outer_comma first single second alone joined
        have rest := ih
          ⟨List.cons_ne_nil _ _, rfl, fun part member => balanced part (.tail _ member),
            fun part member => undivided part (.tail _ member)⟩
          ⟨List.cons_ne_nil _ _, behind, fun part member => level part (.tail _ member),
            fun part member => whole part (.tail _ member)⟩
        rw [rest]

private theorem outerPieces_of_cut (cut : pieces 0 [] [] text = .ok found) :
    ∃ parts, OuterPieces text parts ∧ found = parts.map trim := by
  obtain ⟨part, others, joined, rfl, balanced, undivided, later⟩ := pieces_eq_ok cut
  refine ⟨part :: others, ⟨List.cons_ne_nil _ _, joined, ?_, ?_⟩, rfl⟩
  · exact List.forall_mem_cons.2 ⟨balanced, fun other member => (later other member).1⟩
  · exact List.forall_mem_cons.2 ⟨undivided, fun other member => (later other member).2⟩

/-- A text has such pieces just when its brackets are balanced. -/
theorem exists_outerPieces_iff : (∃ parts, OuterPieces text parts) ↔ Balanced text := by
  constructor
  · rintro ⟨parts, -, rfl, balanced, -⟩
    exact balanced_commaJoined parts balanced
  · intro balanced
    obtain ⟨found, cut, -⟩ := pieces_of_balanced [] [] rfl balanced
    obtain ⟨parts, outer, -⟩ := outerPieces_of_cut cut
    exact ⟨parts, outer⟩

/-! ## What becomes of a text -/

theorem splitArguments_of_blanks (blanks : Blanks text) : splitArguments text = .ok [] := by
  rw [splitArguments, if_pos (blanks_iff_all.1 blanks)]

theorem splitArguments_of_solid (outer : OuterPieces text parts)
    (solid : ∀ part ∈ parts, ¬Blanks part) : splitArguments text = .ok (parts.map trim) := by
  rw [outer.joined]
  refine splitArguments_commaJoined parts outer.nonempty outer.balanced outer.undivided ?_
  exact fun part member => mt trim_eq_nil_iff.1 (solid part member)

theorem splitArguments_of_blank_piece (visible : ¬Blanks text)
    (outer : OuterPieces text parts) (member : part ∈ parts) (blank : Blanks part) :
    splitArguments text = .error ⟨.emptyArgument, text⟩ := by
  have cut : pieces 0 [] [] text = .ok (parts.map trim) := by
    rw [outer.joined]
    exact pieces_commaJoined parts outer.nonempty outer.balanced outer.undivided []
  have empty : (parts.map trim).any List.isEmpty = true := by
    refine List.any_eq_true.2 ⟨[], ?_, rfl⟩
    rw [← trim_eq_nil_iff.2 blank]
    exact List.mem_map_of_mem member
  rw [splitArguments, if_neg (by rwa [← blanks_iff_all]), cut]
  exact if_pos empty

theorem splitArguments_of_unbalanced (unbalanced : Unbalanced text) :
    ∃ fault, splitArguments text = .error fault := by
  have uneven : ¬Balanced text := mt balanced_iff.1 (not_not_intro unbalanced)
  have visible : ¬Blanks text := fun blanks => uneven (balanced_of_quiet (quiet_of_blanks blanks))
  rw [splitArguments, if_neg (by rwa [← blanks_iff_all])]
  cases cut : pieces 0 [] [] text with
  | error fault => exact ⟨fault, rfl⟩
  | ok found =>
    obtain ⟨parts, outer, -⟩ := outerPieces_of_cut cut
    exact absurd (exists_outerPieces_iff.1 ⟨parts, outer⟩) uneven

/-- How the cutting of a text ends. -/
inductive Cut (text : List Char) : Except Malformed (List (List Char)) → Prop where
  | blank (blanks : Blanks text) : Cut text (.ok [])
  | arguments {parts : List (List Char)} (visible : ¬Blanks text) (outer : OuterPieces text parts)
      (solid : ∀ part ∈ parts, ¬Blanks part) : Cut text (.ok (parts.map trim))
  | unbalanced {fault : Malformed} (unbalanced : Unbalanced text) : Cut text (.error fault)
  | emptyPiece {parts : List (List Char)} {part : List Char} (visible : ¬Blanks text)
      (outer : OuterPieces text parts) (member : part ∈ parts) (blank : Blanks part) :
      Cut text (.error ⟨.emptyArgument, text⟩)

theorem splitArguments_ends (text : List Char) : Cut text (splitArguments text) := by
  by_cases blanks : Blanks text
  · rw [splitArguments_of_blanks blanks]
    exact .blank blanks
  · by_cases unbalanced : Unbalanced text
    · obtain ⟨fault, refused⟩ := splitArguments_of_unbalanced unbalanced
      rw [refused]
      exact .unbalanced unbalanced
    · obtain ⟨parts, outer⟩ := exists_outerPieces_iff.2 (balanced_iff.2 unbalanced)
      by_cases empty : ∃ part ∈ parts, Blanks part
      · obtain ⟨part, member, blank⟩ := empty
        rw [splitArguments_of_blank_piece blanks outer member blank]
        exact .emptyPiece blanks outer member blank
      · have solid : ∀ part ∈ parts, ¬Blanks part := fun part member blank =>
          empty ⟨part, member, blank⟩
        rw [splitArguments_of_solid outer solid]
        exact .arguments blanks outer solid

/-! ## Arguments and the blanks around them -/

/-- A piece without the blanks around it. -/
private theorem compact_trim (solid : ¬Blanks part) (balanced : Balanced part)
    (undivided : Undivided 0 part) : Compact (trim part) where
  nonempty := mt trim_eq_nil_iff.1 solid
  tight := tight_trim part
  balanced := balanced_trim.2 balanced
  undivided := by
    obtain ⟨front, rear, before, -, shape⟩ := exists_padding part
    intro start behind within outside
    refine undivided (front ++ start) (behind ++ rear) (by rw [shape, within]; simp) ?_
    rwa [depthAfter_append, balanced_of_quiet (quiet_of_blanks before)]

/-- Arguments with blanks around them are the pieces of the text that they are joined to. -/
theorem outerPieces_of_padded (nonempty : parts ≠ []) (compact : ∀ part ∈ parts, Compact part)
    (padded : List.Forall₂ Padded texts parts) :
    OuterPieces (commaJoined texts) texts ∧ (∀ text ∈ texts, ¬Blanks text) ∧
      texts.map trim = parts := by
  have each : (∀ text ∈ texts, Balanced text ∧ Undivided 0 text ∧ ¬Blanks text) ∧
      texts.map trim = parts := by
    clear nonempty
    induction padded with
    | nil => exact ⟨nofun, rfl⟩
    | cons here others ih =>
      obtain ⟨front, rear, before, after, rfl⟩ := here
      obtain ⟨core, rest⟩ := List.forall_mem_cons.1 compact
      obtain ⟨all, same⟩ := ih rest
      obtain ⟨balanced, undivided, trimmed⟩ := compact_padded core before after
      have solid : ¬Blanks _ := mt trim_eq_nil_iff.2 (trimmed ▸ core.nonempty)
      refine ⟨List.forall_mem_cons.2 ⟨⟨balanced, undivided, solid⟩, all⟩, ?_⟩
      rw [List.map_cons, trimmed, same]
  obtain ⟨all, same⟩ := each
  refine ⟨⟨?_, rfl, fun text member => (all text member).1,
    fun text member => (all text member).2.1⟩, fun text member => (all text member).2.2, same⟩
  rintro rfl
  exact nonempty same.symm

/-- **Cutting a group undoes joining its arguments.** It gives these arguments just when the
text is what they are joined to, with any blanks around each. A blank text has none. A text is
refused when its brackets are not balanced, or when one of its pieces is blank. -/
theorem cutting_undoes_joining (text : List Char) :
    (∀ arguments, arguments ≠ [] → (splitArguments text = .ok arguments ↔
      (∀ argument ∈ arguments, Compact argument) ∧
        ∃ padded, List.Forall₂ Padded padded arguments ∧ text = commaJoined padded)) ∧
    (splitArguments text = .ok [] ↔ Blanks text) ∧
    ((∃ fault, splitArguments text = .error fault) ↔ Unbalanced text ∨
      ¬Blanks text ∧ ∃ pieces, OuterPieces text pieces ∧ ∃ piece ∈ pieces, Blanks piece) ∧
    (¬Unbalanced text → ∃! pieces, OuterPieces text pieces) := by
  have ends := splitArguments_ends text
  refine ⟨fun arguments nonempty => ⟨fun cut => ?_, ?_⟩, ⟨fun cut => ?_, splitArguments_of_blanks⟩,
    ⟨?_, ?_⟩, fun level => ?_⟩
  · rw [cut] at ends
    cases ends with
    | blank blanks => exact absurd rfl nonempty
    | @arguments parts visible outer solid =>
      refine ⟨List.forall_mem_map.2 fun part member => compact_trim (solid part member)
        (outer.balanced part member) (outer.undivided part member), parts, ?_, outer.joined⟩
      exact List.forall₂_map_right_iff.2 (List.forall₂_same.2 fun part _ => exists_padding part)
  · rintro ⟨compact, padded, around, rfl⟩
    obtain ⟨outer, solid, same⟩ := outerPieces_of_padded nonempty compact around
    rw [splitArguments_of_solid outer solid, same]
  · rw [cut] at ends
    generalize ended : Except.ok [] = result at ends
    cases ends with
    | blank blanks => exact blanks
    | arguments visible outer solid =>
      exact absurd (List.map_eq_nil_iff.1 (Except.ok.inj ended).symm) outer.nonempty
    | unbalanced => cases ended
    | emptyPiece => cases ended
  · rintro ⟨fault, refused⟩
    rw [refused] at ends
    cases ends with
    | unbalanced unbalanced => exact .inl unbalanced
    | emptyPiece visible outer member blank => exact .inr ⟨visible, _, outer, _, member, blank⟩
  · rintro (unbalanced | ⟨visible, pieces, outer, piece, member, blank⟩)
    · exact splitArguments_of_unbalanced unbalanced
    · exact ⟨_, splitArguments_of_blank_piece visible outer member blank⟩
  · obtain ⟨pieces, outer⟩ := exists_outerPieces_iff.2 (balanced_iff.2 level)
    exact ⟨pieces, outer, fun others again => outerPieces_unique again outer⟩

/-- The comma inside of brackets does not divide, and the blanks around the arguments go. -/
theorem nested_comma_stays_inside :
    let text := " a.B ,\tMap<K, V>".toList
    let arguments := ["a.B".toList, "Map<K, V>".toList]
    splitArguments text = .ok arguments ∧ (∀ argument ∈ arguments, Compact argument) ∧
      (∃ padded, List.Forall₂ Padded padded arguments ∧ text = commaJoined padded) ∧
      ∃! pieces, OuterPieces text pieces := by
  intro text arguments
  have cut : splitArguments text = .ok arguments := by decide +kernel
  have level : ¬Unbalanced text := balanced_iff.1 (by unfold Balanced; decide +kernel)
  obtain ⟨joins, -, -, single⟩ := cutting_undoes_joining text
  obtain ⟨compact, padded⟩ := (joins arguments (List.cons_ne_nil _ _)).1 cut
  exact ⟨cut, compact, padded, single level⟩

end DelegateClasses.TypeTree
