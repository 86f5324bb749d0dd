import DelegateClasses.Document.Load
import DelegateClasses.Proofs.Document.Shape

/-! Classes nested in each other. Their documents have the shape of a class model at every
depth and repeat no key. Main statements: what they stand for, their text, and how deep the
values lie in them. -/
namespace DelegateClasses.Document
open Json JsonValue

variable {α : Type} {members : Members} {key : String} {value : JsonValue}

/-! ## Values -/

/-- A class with others in it, as a value. -/
def classValue (inner : List JsonValue) : JsonValue :=
  .object [("element", .string "class"), ("name", .string "a.B"), ("members", .array inner)]

/-- Classes in each other, as a value. -/
def nestedValue : Nat → JsonValue
  | 0 => classValue []
  | depth + 1 => classValue [nestedValue depth]

/-- Classes in each other. -/
def nestedClass : Nat → ClassDecl
  | 0 => ⟨"a.B", .ordinary, none, ["public"], []⟩
  | depth + 1 => ⟨"a.B", .ordinary, none, ["public"], [.nested (nestedClass depth)]⟩

/-- The document of classes in each other, as a value. -/
def nestedDocument (depth : Nat) : JsonValue :=
  .object [("classes", .array [nestedValue depth])]

theorem nestedValue_within_iff {number depth : Nat} :
    (nestedValue number).Within depth ↔ 2 * number + 1 ≤ depth := by
  have class_iff (inner : List JsonValue) (depth : Nat) : (classValue inner).Within depth ↔
      1 ≤ depth ∧ (JsonValue.array inner).Within (depth - 1) := by
    rw [classValue, object_within_iff (by simp)]
    simp [string_within]
  induction number generalizing depth with
  | zero =>
    rw [nestedValue, class_iff, array_within_iff]
    simp
  | succ number ih =>
    rw [nestedValue, class_iff, array_within_iff]
    simp only [List.mem_singleton, forall_eq, List.cons_ne_nil, false_or, ih]
    omega

theorem nestedDocument_within_iff {number depth : Nat} :
    (nestedDocument number).Within depth ↔ 2 * number + 3 ≤ depth := by
  rw [nestedDocument, object_within_iff (by simp)]
  simp only [List.mem_singleton, forall_eq, array_within_iff, List.cons_ne_nil, false_or,
    nestedValue_within_iff]
  omega

theorem nestedDocument_unique (number : Nat) : (nestedDocument number).UniqueKeys := by
  have class_unique {inner : List JsonValue} (items : ∀ item ∈ inner, item.UniqueKeys) :
      (classValue inner).UniqueKeys := by
    refine .object (show ["element", "name", "members"].Nodup by decide) ?_
    simp only [List.forall_mem_cons, List.not_mem_nil, false_implies, implies_true, and_true]
    exact ⟨.string _, .string _, .array items⟩
  have value_unique (number : Nat) : (nestedValue number).UniqueKeys := by
    induction number with
    | zero => exact class_unique (by simp)
    | succ number ih => exact class_unique (by simpa using ih)
  exact .object (by simp) (by simpa using .array (by simpa using value_unique number))

/-- A class in which others stand is mirrored by its value. -/
theorem nestedValue_mirrors (standing : Standing) (number : Nat) :
    Mirrors standing (nestedValue number) (.nested (nestedClass number)) := by
  have class_mirrors (standing : Standing) {inner : List JsonValue} {elements : List Element}
      (side : List.Forall₂ (Mirrors .member) inner elements) :
      Mirrors standing (classValue inner)
        (.nested ⟨"a.B", .ordinary, none, ["public"], elements⟩) := by
    refine mirrors_nested_iff.2 ⟨.inl (by simp), ?_, .inl ⟨_, by simp, _, rfl, side⟩⟩
    exact ⟨by simp [Only], ⟨_, by simp, rfl, show "a.B" ≠ "" by decide⟩,
      .inr ⟨by simp [Absent], rfl⟩, .inr ⟨by simp [Absent], rfl⟩, .inr ⟨by simp [Absent], rfl⟩⟩
  induction number generalizing standing with
  | zero => exact class_mirrors standing .nil
  | succ number ih => exact class_mirrors standing (.cons (ih .member) .nil)

theorem nestedDocument_isDocument (number : Nat) :
    IsObject IsDocument (nestedDocument number) [nestedClass number] :=
  ⟨_, rfl, by simp [Only], .inl ⟨_, List.mem_singleton.2 rfl, _, rfl,
    .cons (nestedValue_mirrors .top number) .nil⟩⟩

/-! ## Texts -/

/-- A word in quotes. -/
def wordText (word : String) : List Char :=
  '\x22' :: (word.toList ++ ['\x22'])

/-- A key and the text of its value. -/
def keyText (key : String) (source : List Char) : List Char :=
  '\x22' :: (key.toList ++ '\x22' :: ':' :: source)

/-- A class with others in it, as a text. -/
def classText (inner : List Char) : List Char :=
  '\x7b' :: (keyText "element" (wordText "class") ++ ',' :: (keyText "name" (wordText "a.B") ++
    ',' :: (keyText "members" ('[' :: (inner ++ [']'])) ++ ['\x7d'])))

/-- Classes in each other, as a text. -/
def nestedText : Nat → List Char
  | 0 => classText []
  | depth + 1 => classText (nestedText depth)

/-- The document of classes in each other, as a text. -/
def documentText (depth : Nat) : List Char :=
  '\x7b' :: (keyText "classes" ('[' :: (nestedText depth ++ [']'])) ++ ['\x7d'])

/-- The characters of the text stand for themselves in a string. -/
def Plain (text : List Char) : Prop :=
  ∀ c ∈ text, 0x20 ≤ c.toNat ∧ c ≠ '\x22' ∧ c ≠ '\x5C'

private theorem inside_plain {content : List Char} (plain : Plain content) :
    Inside content content := by
  induction content with
  | nil => exact .nil
  | cons c content ih =>
    obtain ⟨visible, quote, backslash⟩ := plain c List.mem_cons_self
    exact .char visible quote backslash
      (ih fun other member => plain other (List.mem_cons_of_mem _ member))

private theorem written_word {word : String} (plain : Plain word.toList) :
    Written (wordText word) (.string word) := by
  have written := Written.string (inside_plain plain)
  rwa [String.ofList_toList] at written

/-- A key and its value without blanks. -/
theorem written_key {source : List Char} (plain : Plain key.toList)
    (written : Written source value) : WrittenMember (keyText key source) (key, value) := by
  have blank : Blanks [] := by simp [Blanks]
  have member := WrittenMember.member (inside_plain plain) blank blank written
  rwa [String.ofList_toList] at member

/-- A part without blanks around it. -/
def tight (source : List Char) (value : α) : Json.Part α :=
  ⟨[], source, [], value⟩

private theorem tight_spaced (source : List Char) (value : α) : (tight source value).Spaced :=
  ⟨by simp [tight, Blanks], by simp [tight, Blanks]⟩

private theorem written_class {inner : List Char} {values : List JsonValue}
    (list : Written ('[' :: (inner ++ [']'])) (.array values)) :
    Written (classText inner) (classValue values) := by
  have element : WrittenMember (keyText "element" (wordText "class"))
      ("element", .string "class") :=
    written_key (by simp [Plain]) (written_word (by simp [Plain]))
  have name : WrittenMember (keyText "name" (wordText "a.B")) ("name", .string "a.B") :=
    written_key (by simp [Plain]) (written_word (by simp [Plain]))
  have members : WrittenMember (keyText "members" ('[' :: (inner ++ [']'])))
      ("members", .array values) :=
    written_key (by simp [Plain]) list
  have whole := Written.object
    (List.forall_mem_cons.2 ⟨tight_spaced _ _, List.forall_mem_cons.2 ⟨tight_spaced _ _,
      List.forall_mem_singleton.2 (tight_spaced _ _)⟩⟩)
    (List.forall_mem_cons.2 ⟨element, List.forall_mem_cons.2 ⟨name,
      List.forall_mem_singleton.2 members⟩⟩)
  simpa only [classText, classValue, keyText, tight, Json.Part.text, Json.Part.behind,
    List.flatMap_cons, List.flatMap_nil, List.nil_append, List.append_nil, List.cons_append,
    List.append_assoc, List.map_cons, List.map_nil] using whole

/-- A list with one item and without blanks. -/
theorem written_single {source : List Char} (written : Written source value) :
    Written ('[' :: (source ++ [']'])) (.array [value]) := by
  have whole := Written.array (List.forall_mem_singleton.2 (tight_spaced source value))
    (List.forall_mem_singleton.2 written)
  simpa only [tight, Json.Part.text, Json.Part.behind, List.flatMap_nil, List.nil_append,
    List.append_nil, List.map_cons, List.map_nil] using whole

private theorem nestedText_written (number : Nat) :
    Written (nestedText number) (nestedValue number) := by
  induction number with
  | zero => exact written_class (.emptyArray (by simp [Blanks]))
  | succ number ih => exact written_class (written_single ih)

theorem documentText_textOf (number : Nat) :
    TextOf (documentText number) (nestedDocument number) := by
  have listed : WrittenMember (keyText "classes" ('[' :: (nestedText number ++ [']'])))
      ("classes", .array [nestedValue number]) :=
    written_key (by simp [Plain]) (written_single (nestedText_written number))
  have whole := Written.object (List.forall_mem_singleton.2 (tight_spaced _ _))
    (List.forall_mem_singleton.2 listed)
  refine ⟨tight _ _, tight_spaced _ _, whole, ?_, rfl⟩
  simp only [documentText, keyText, tight, Json.Part.text, Json.Part.behind, List.flatMap_nil,
    List.nil_append, List.append_nil]

/-! ## Files -/

/-- A tree with one file. -/
def singleFile (content : String) : FileTree :=
  ⟨[], [(["m.model.json"], .file content.toUTF8)]⟩

theorem singleFile_read (content : String) :
    (singleFile content).read (Path.ofText "/m.model.json").text = .ok content.toUTF8 :=
  rfl

end DelegateClasses.Document
