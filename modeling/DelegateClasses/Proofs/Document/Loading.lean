import DelegateClasses.Document.Load
import DelegateClasses.Proofs.Processing.Turn
import DelegateClasses.Proofs.Storage.Nameable

/-! What the loading of a class model can give. A document stands for classes that have
only members a class can declare. A model that gives no classes cannot be opened, is no
valid document, or is no text. Main statements: these are the only ways. -/
namespace DelegateClasses.Document

variable {α β γ : Type}

/-! ## Checks -/

namespace Checked

theorem combine_eq_ok {join : α → β → γ} {first : Checked α} {second : Checked β} {value : γ}
    (joined : combine join first second = .ok value) :
    ∃ one other, first = .ok one ∧ second = .ok other ∧ value = join one other := by
  cases first with
  | error problems =>
    cases second with
    | error others => cases joined
    | ok other => cases joined
  | ok one =>
    cases second with
    | error problems => cases joined
    | ok other =>
      cases joined
      exact ⟨one, other, rfl, rfl, rfl⟩

theorem and_eq_ok {function : Checked (α → β)} {part : Checked α} {value : β}
    (joined : function.and part = .ok value) :
    ∃ apply inner, function = .ok apply ∧ part = .ok inner ∧ value = apply inner :=
  combine_eq_ok joined

private theorem under_eq_ok {step : Step} {checked : Checked α} {value : α}
    (inside : checked.under step = .ok value) : checked = .ok value := by
  cases checked with
  | error problems => cases inside
  | ok inner => exact inside

end Checked

open Checked

/-- The items of a list pass the check one by one. -/
theorem itemsFrom_eq_ok {check : JsonValue → Checked α} {position : Nat}
    {values : List JsonValue} {items : List α} (checked : itemsFrom check position values = .ok items) :
    ∀ item ∈ items, ∃ value ∈ values, check value = .ok item := by
  induction values generalizing position items with
  | nil =>
    cases checked
    intro item member
    cases member
  | cons value values ih =>
    obtain ⟨first, others, here, rest, rfl⟩ := combine_eq_ok checked
    intro item member
    rcases List.mem_cons.1 member with rfl | later
    · exact ⟨value, List.mem_cons_self, under_eq_ok here⟩
    · obtain ⟨other, among, passes⟩ := ih rest item later
      exact ⟨other, List.mem_cons_of_mem _ among, passes⟩

/-! ## Classes -/

/-- The tag of an element stands for one that a class can declare. -/
theorem element_eq_ok {value : JsonValue} {declared : Element} (checked : element value = .ok declared)
    (label : String) : declared ≠ .foreign label := by
  have tagged {α : Type} {inner : Checked α} {tag : String} {wrap : α → Element}
      (inside : Checked.under (.key tag) (inner.map wrap) = .ok declared) :
      ∃ found, wrap found = declared := by
    have mapped := under_eq_ok inside
    cases inner with
    | error problems => cases mapped
    | ok found => exact ⟨found, Except.ok.inj mapped⟩
  unfold element at checked
  split at checked
  · split at checked
    · cases checked
    · split at checked
      · obtain ⟨found, rfl⟩ := tagged checked
        rintro ⟨⟩
      · split at checked
        · obtain ⟨found, rfl⟩ := tagged checked
          rintro ⟨⟩
        · split at checked
          · obtain ⟨found, rfl⟩ := tagged checked
            rintro ⟨⟩
          · cases checked
    · cases checked
  · cases checked

private theorem elementsFrom_eq_ok {position : Nat} {values : List JsonValue}
    {elements : List Element} (checked : elementsFrom position values = .ok elements)
    (label : String) :
    Element.foreign label ∉ elements := by
  induction values generalizing position elements with
  | nil =>
    unfold elementsFrom at checked
    cases checked
    exact List.not_mem_nil
  | cons value values ih =>
    unfold elementsFrom at checked
    obtain ⟨first, others, here, rest, rfl⟩ := combine_eq_ok checked
    intro member
    rcases List.mem_cons.1 member with same | later
    · exact element_eq_ok (under_eq_ok here) label same.symm
    · exact ih rest later

/-- A class of a document has no members but those that a class can declare. -/
theorem classDecl_proper {members : Members} {declared : ClassDecl}
    (checked : classDecl members = .ok declared) : declared.Proper := by
  unfold classDecl at checked
  obtain ⟨_, _, filled, -, rfl⟩ := and_eq_ok checked
  obtain ⟨_, elements, modified, taken, rfl⟩ := and_eq_ok filled
  obtain ⟨_, _, extended, -, rfl⟩ := and_eq_ok modified
  obtain ⟨_, _, kinded, -, rfl⟩ := and_eq_ok extended
  obtain ⟨_, _, named, -, rfl⟩ := and_eq_ok kinded
  obtain ⟨_, _, tagged, -, rfl⟩ := and_eq_ok named
  obtain ⟨_, _, start, -, rfl⟩ := and_eq_ok tagged
  cases start
  intro label
  split at taken
  · cases taken
    exact List.not_mem_nil
  · exact elementsFrom_eq_ok (under_eq_ok taken) label
  · cases taken

private theorem parse_proper {content : String} {found : List ClassDecl}
    (parsed : parse content = .ok found) : ∀ declared ∈ found, declared.Proper := by
  unfold parse at parsed
  split at parsed
  · cases parsed
  · unfold classes at parsed
    split at parsed
    · obtain ⟨_, _, filled, -, rfl⟩ := and_eq_ok parsed
      obtain ⟨_, listed, start, items, rfl⟩ := and_eq_ok filled
      cases start
      unfold optional at items
      split at items
      · cases items
        intro declared member
        cases member
      · have array := under_eq_ok items
        unfold list at array
        split at array
        · intro declared member
          obtain ⟨value, -, passes⟩ := itemsFrom_eq_ok array declared member
          unfold topLevelClass at passes
          split at passes
          · exact classDecl_proper passes
          · cases passes
        · cases array
    · cases parsed

/-! ## Files -/

variable {tree : FileTree} {path : String}

/-- The bytes to which a path leads are no text. -/
def Undecodable (tree : FileTree) (path : String) : Prop :=
  ∃ bytes, tree.read path = .ok bytes ∧ ∀ text, Text.decode bytes ≠ .text text

theorem load_proper {found : List ClassDecl} (loaded : load tree path = .ok found) :
    ∀ declared ∈ found, declared.Proper := by
  unfold load at loaded
  split at loaded
  · cases loaded
  · split at loaded
    · next content decoded =>
      cases parsed : parse content with
      | error problems =>
        rw [parsed] at loaded
        cases loaded
      | ok listed =>
        rw [parsed] at loaded
        cases loaded
        exact parse_proper parsed
    · cases loaded

/-- A model that is no text cannot be loaded. -/
theorem load_undecodable (wrong : Undecodable tree (Path.ofText path).text) :
    load tree path = .error .undecodable := by
  obtain ⟨bytes, read, undecoded⟩ := wrong
  unfold load
  rw [read]
  cases decoded : Text.decode bytes with
  | text text => exact absurd decoded (undecoded text)
  | brokenOff intact => simp only [decoded]
  | wrong => simp only [decoded]

/-- Any other model can be loaded, or is passed over. -/
theorem load_decodable (nameable : Nameable path) (fine : ¬ Undecodable tree (Path.ofText path).text) :
    (∃ found, load tree path = .ok found) ∨
      ∃ failure, load tree path = .error failure ∧ failure.isIsolated = true := by
  unfold load
  cases read : tree.read (Path.ofText path).text with
  | error error =>
    have fault := FileTree.read_nameable (Path.text_ofText_nameable nameable) read
    refine .inr ⟨.modelUnreadable path error, ?_, rfl⟩
    simp only [Failure.ofAccess_eq fault]
  | ok bytes =>
    simp only
    cases decoded : Text.decode bytes with
    | text content =>
      simp only
      cases parsed : parse content with
      | error problems => exact .inr ⟨.modelInvalid path problems, rfl, rfl⟩
      | ok found => exact .inl ⟨found, rfl⟩
    | brokenOff intact =>
      exact absurd ⟨bytes, read, fun text same => by cases decoded.symm.trans same⟩ fine
    | wrong => exact absurd ⟨bytes, read, fun text same => by cases decoded.symm.trans same⟩ fine

end DelegateClasses.Document
