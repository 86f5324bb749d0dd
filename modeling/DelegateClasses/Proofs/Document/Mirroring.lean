import DelegateClasses.Proofs.Document.Nesting
import DelegateClasses.Proofs.Json.Reading

/-! What the loading of a class model gives. Main statement: the classes of a JSON document
are loaded just when the document has the shape of a class model and is not nested too deep,
and they mirror the document at every depth. -/
namespace DelegateClasses

/-- Names, and the types of parameters and fields, are not empty, at every depth. -/
inductive Element.Filled : Element → Prop where
  | nested {declared : ClassDecl} (name : declared.name ≠ "")
      (members : ∀ element ∈ declared.members, Filled element) : Filled (.nested declared)
  | method {declared : MethodDecl} (name : declared.name ≠ "")
      (parameters : ∀ parameter ∈ declared.parameters,
        parameter.name ≠ "" ∧ parameter.type.descriptor ≠ "") : Filled (.method declared)
  | field {declared : FieldDecl} (name : declared.name ≠ "")
      (type : declared.type.descriptor ≠ "") : Filled (.field declared)

namespace Document
open JsonValue

variable {α : Type} {members : Members} {key : String} {value : JsonValue} {known : List String}
variable {stands : JsonValue → α → Prop} {found absent : α}

/-! ## Values without numbers -/

/-- No value that stands for anything holds a number. -/
def Numberless (stands : JsonValue → α → Prop) : Prop :=
  ∀ value found, value.UniqueKeys → stands value found → ¬ HasNumber value

private theorem numberless_text : Numberless IsText := by
  rintro _ content - rfl ⟨⟩

private theorem numberless_filledText : Numberless IsFilledText :=
  fun value content unique text => numberless_text value content unique text.1

private theorem numberless_type : Numberless IsType :=
  fun value _ unique type => numberless_text value _ unique type

private theorem numberless_filledType : Numberless IsFilledType :=
  fun value _ unique type => numberless_filledText value _ unique type

private theorem numberless_superclass : Numberless IsSuperclass := by
  rintro _ _ - (_ | _ | _) ⟨⟩

private theorem numberless_kind : Numberless IsKind := by
  rintro _ _ - (_ | _ | _ | _) ⟨⟩

private theorem numberless_list (items : Numberless stands) : Numberless (IsList stands) := by
  rintro _ list unique ⟨values, rfl, side⟩ (_ | ⟨member, inside⟩)
  obtain ⟨position, bound, rfl⟩ := List.getElem_of_mem member
  have shorter : position < list.length := side.length_eq ▸ bound
  exact items _ _ (items_of_unique unique member) (side.get bound shorter) inside

/-- A key holds no number if nothing that its value can stand for does. -/
theorem given_numberless (unique : UniqueKeys (.object members)) (fine : Numberless stands)
    (given : Given stands members key found) :
    ∀ value, (key, value) ∈ members → ¬ HasNumber value := by
  obtain ⟨value, member, stood⟩ := given
  intro other also
  rw [← value_unique (keys_of_unique unique) member also]
  exact fine value found (values_of_unique unique member) stood

private theorem givenOr_numberless (unique : UniqueKeys (.object members))
    (fine : Numberless stands) (given : GivenOr absent stands members key found) :
    ∀ value, (key, value) ∈ members → ¬ HasNumber value := by
  rcases given with given | ⟨missing, -⟩
  · exact given_numberless unique fine given
  · exact fun value member => absurd (List.mem_map.2 ⟨_, member, rfl⟩) missing

private theorem tag_numberless (unique : UniqueKeys (.object members)) {tag : String}
    (tagged : (key, .string tag) ∈ members) :
    ∀ value, (key, value) ∈ members → ¬ HasNumber value :=
  given_numberless unique numberless_text ⟨_, tagged, rfl⟩

/-- An object holds no number if none of its keys does. -/
theorem object_numberless (only : Only members known)
    (each : ∀ key ∈ known, ∀ value, (key, value) ∈ members → ¬ HasNumber value) :
    ¬ HasNumber (.object members) := by
  rintro (_ | _ | ⟨member, inside⟩)
  exact each _ (only _ (List.mem_map.2 ⟨_, member, rfl⟩)) _ member inside

private theorem numberless_parameter : Numberless (IsObject IsParameter) := by
  rintro _ declared unique ⟨members, rfl, shape⟩
  refine object_numberless shape.keys ?_
  simp only [List.forall_mem_cons, List.not_mem_nil, false_implies, implies_true, and_true]
  exact ⟨given_numberless unique numberless_filledText shape.name,
    given_numberless unique numberless_filledType shape.type⟩

private theorem method_numberless (unique : UniqueKeys (.object members)) {declared : MethodDecl}
    (tag : ("element", .string "method") ∈ members) (shape : IsMethod members declared) :
    ¬ HasNumber (.object members) := by
  refine object_numberless shape.keys ?_
  simp only [List.forall_mem_cons, List.not_mem_nil, false_implies, implies_true, and_true]
  exact ⟨tag_numberless unique tag, given_numberless unique numberless_filledText shape.name,
    givenOr_numberless unique numberless_type shape.returns,
    givenOr_numberless unique (numberless_list numberless_parameter) shape.parameters,
    givenOr_numberless unique (numberless_list numberless_type) shape.throws,
    givenOr_numberless unique (numberless_list numberless_text) shape.modifiers⟩

private theorem field_numberless (unique : UniqueKeys (.object members)) {declared : FieldDecl}
    (tag : ("element", .string "field") ∈ members) (shape : IsField members declared) :
    ¬ HasNumber (.object members) := by
  refine object_numberless shape.keys ?_
  simp only [List.forall_mem_cons, List.not_mem_nil, false_implies, implies_true, and_true]
  exact ⟨tag_numberless unique tag, given_numberless unique numberless_filledText shape.name,
    given_numberless unique numberless_filledType shape.type,
    givenOr_numberless unique (numberless_list numberless_text) shape.modifiers⟩

/-- A value that stands for an element holds no number. -/
theorem mirrors_numberless {standing : Standing} {declared : Element}
    (mirrors : Mirrors standing value declared) (unique : value.UniqueKeys) :
    ¬ HasNumber value := by
  induction mirrors with
  | method tag shape => exact method_numberless unique tag shape
  | field tag shape => exact field_numberless unique tag shape
  | @nested standing members declared pairs tag shape list elements each ih =>
    have tagged : ∀ value, ("element", value) ∈ members → ¬ HasNumber value := by
      rcases tag with given | ⟨-, missing⟩
      · exact tag_numberless unique given
      · exact fun value member => absurd (List.mem_map.2 ⟨_, member, rfl⟩) missing
    have listed : ∀ value, ("members", value) ∈ members → ¬ HasNumber value := by
      rcases list with given | ⟨missing, -⟩
      · intro value member
        rw [value_unique (keys_of_unique unique) member given]
        rintro (_ | ⟨among, inside⟩)
        obtain ⟨pair, side, rfl⟩ := List.mem_map.1 among
        exact ih pair side (items_of_unique (values_of_unique unique given) among) inside
      · exact fun value member => absurd (List.mem_map.2 ⟨_, member, rfl⟩) missing
    refine object_numberless shape.keys ?_
    simp only [List.forall_mem_cons, List.not_mem_nil, false_implies, implies_true, and_true]
    exact ⟨tagged, given_numberless unique numberless_filledText shape.name,
      givenOr_numberless unique numberless_kind shape.kind,
      givenOr_numberless unique numberless_superclass shape.superclass,
      givenOr_numberless unique (numberless_list numberless_text) shape.modifiers, listed⟩

private theorem numberless_document : Numberless (IsObject IsDocument) := by
  rintro _ declared unique ⟨members, rfl, shape⟩
  have items :
      Numberless fun value (declared : ClassDecl) => Mirrors .top value (.nested declared) :=
    fun _ _ unique mirrors => mirrors_numberless mirrors unique
  refine object_numberless shape.keys ?_
  simp only [List.forall_mem_cons, List.not_mem_nil, false_implies, implies_true, and_true]
  exact givenOr_numberless unique (numberless_list items) shape.classes

/-! ## What is not empty -/

private theorem filled_of_given {content : String}
    (given : Given IsFilledText members key content) :
    content ≠ "" := by
  obtain ⟨_, -, -, inner⟩ := given
  exact inner

private theorem filled_of_givenType {type : TypeRef} (given : Given IsFilledType members key type) :
    type.descriptor ≠ "" := by
  obtain ⟨_, -, -, inner⟩ := given
  exact inner

/-- What a list stands for, one by one. -/
theorem of_mem_list {list : List α} (listed : IsList stands value list) (member : found ∈ list) :
    ∃ item, stands item found := by
  obtain ⟨values, rfl, side⟩ := listed
  obtain ⟨position, bound, rfl⟩ := List.getElem_of_mem member
  exact ⟨_, side.get (side.length_eq ▸ bound) bound⟩

/-- What a value stands for has no empty names and types. -/
theorem mirrors_filled {standing : Standing} {declared : Element}
    (mirrors : Mirrors standing value declared) : declared.Filled := by
  induction mirrors with
  | nested tag shape list elements each ih =>
    refine .nested (filled_of_given shape.name) fun element member => ?_
    rw [elements] at member
    obtain ⟨pair, among, rfl⟩ := List.mem_map.1 member
    exact ih pair among
  | method tag shape =>
    refine .method (filled_of_given shape.name) fun parameter member => ?_
    rcases shape.parameters with ⟨_, -, listed⟩ | ⟨-, none⟩
    · obtain ⟨item, members, -, given⟩ := of_mem_list listed member
      exact ⟨filled_of_given given.name, filled_of_givenType given.type⟩
    · rw [none] at member
      cases member
  | field tag shape => exact .field (filled_of_given shape.name) (filled_of_givenType shape.type)

/-! ## Loading -/

variable {tree : FileTree} {path content : String} {bytes : ByteArray}

/-- A file that is a text is loaded, or is no valid document. -/
theorem load_text (read : tree.read (Path.ofText path).text = .ok bytes)
    (decoded : Text.decode bytes = .text content) :
    load tree path = (parse content).mapError (.modelInvalid path) := by
  unfold load
  rw [read]
  simp only [decoded]

/-- A JSON document is loaded when it stands for classes and no value lies too deep in it. -/
theorem load_eq_ok_iff (read : tree.read (Path.ofText path).text = .ok bytes)
    (decoded : Text.decode bytes = .text content) (written : Json.TextOf content.toList value)
    (unique : value.UniqueKeys) {declared : List ClassDecl} :
    load tree path = .ok declared ↔
      value.Within Json.depthLimit ∧ IsObject IsDocument value declared := by
  rw [load_text read decoded]
  rcases Json.parse_textOf written with ⟨parsed, within⟩ | ⟨refused, excuse⟩
  · have same : parse content = classes value := by rw [parse, parsed]
    rw [same, ← classes_eq_ok_iff unique]
    cases checked : classes value with
    | error problems => exact ⟨fun loaded => (by cases loaded), fun stood => (by cases stood.2)⟩
    | ok found =>
      constructor
      · rintro ⟨⟩
        exact ⟨within, rfl⟩
      · rintro ⟨-, ⟨⟩⟩
        rfl
  · -- The reader also gives up on long numbers, but no value of a fitting shape holds any.
    have none : parse content = .refuse .notJson := by rw [parse, refused]
    rw [none]
    refine ⟨fun loaded => (by cases loaded), fun ⟨within, shape⟩ => ?_⟩
    exact absurd (excuse within) (numberless_document value declared unique shape)

private theorem load_text_ends (read : tree.read (Path.ofText path).text = .ok bytes)
    (decoded : Text.decode bytes = .text content) :
    (∃ declared, load tree path = .ok declared) ∨
      ∃ problems, load tree path = .error (.modelInvalid path problems) := by
  rw [load_text read decoded]
  cases parse content with
  | error problems => exact .inr ⟨problems, rfl⟩
  | ok declared => exact .inl ⟨declared, rfl⟩

theorem document_filled {declared : List ClassDecl}
    (shape : IsObject IsDocument value declared) :
    ∀ inner ∈ declared, (Element.nested inner).Filled := by
  obtain ⟨members, -, shape⟩ := shape
  intro inner member
  rcases shape.classes with ⟨_, -, listed⟩ | ⟨-, none⟩
  · obtain ⟨item, mirrors⟩ := of_mem_list listed member
    exact mirrors_filled mirrors
  · rw [none] at member
    cases member

/-- **Just the documents of the shape of a class model are loaded, and the classes mirror
them.** A JSON document without repeated keys is loaded when no value lies too deep in it and
it stands for classes at every depth, which it then gives; any other one is reported as
invalid. Of what a document stands for, no name is empty, and no type of a parameter or of a
field. -/
theorem load_mirrors_document (read : tree.read (Path.ofText path).text = .ok bytes)
    (decoded : Text.decode bytes = .text content) (written : Json.TextOf content.toList value)
    (unique : value.UniqueKeys) :
    (∀ declared, load tree path = .ok declared ↔
      value.Within Json.depthLimit ∧ IsObject IsDocument value declared) ∧
    ((∃ declared, load tree path = .ok declared) ∨
      ∃ problems, load tree path = .error (.modelInvalid path problems)) ∧
    ∀ declared, IsObject IsDocument value declared →
      ∀ inner ∈ declared, (Element.nested inner).Filled :=
  ⟨fun _ => load_eq_ok_iff read decoded written unique, load_text_ends read decoded,
    fun _ => document_filled⟩

/-- A class in another class is loaded. -/
theorem nested_class_loaded :
    let content := String.ofList (documentText 1)
    let tree := singleFile content
    tree.read (Path.ofText "/m.model.json").text = .ok content.toUTF8 ∧
    Text.decode content.toUTF8 = .text content ∧
    Json.TextOf content.toList (nestedDocument 1) ∧ (nestedDocument 1).UniqueKeys ∧
    load tree "/m.model.json" = .ok [nestedClass 1] := by
  intro content tree
  have read := singleFile_read content
  have decoded := Text.decode_toUTF8 content
  have written : Json.TextOf content.toList (nestedDocument 1) := by
    rw [String.toList_ofList]
    exact documentText_textOf 1
  have unique := nestedDocument_unique 1
  have mirrored := (load_mirrors_document read decoded written unique).1 [nestedClass 1]
  refine ⟨read, decoded, written, unique, mirrored.2 ⟨?_, nestedDocument_isDocument 1⟩⟩
  exact nestedDocument_within_iff.2 (by decide)

/-- A document is refused in which classes are nested too deep, although each has its shape.
So is one that gives a name by half a surrogate pair, which is the text of nothing, while the
whole pair is read. -/
theorem deeply_nested_class_refused :
    let content := String.ofList (documentText 150)
    let tree := singleFile content
    tree.read (Path.ofText "/m.model.json").text = .ok content.toUTF8 ∧
    Text.decode content.toUTF8 = .text content ∧
    Json.TextOf content.toList (nestedDocument 150) ∧ (nestedDocument 150).UniqueKeys ∧
    IsObject IsDocument (nestedDocument 150) [nestedClass 150] ∧
    (∃ problems, load tree "/m.model.json" = .error (.modelInvalid "/m.model.json" problems)) ∧
    let named (escape : String) : String :=
      "\x7b\x22classes\x22: [\x7b\x22name\x22: \x22a." ++ escape ++ "\x22\x7d]\x7d"
    (Json.parse (named "\x5Cud835\x5Cudc9c")).isSome = true ∧
    ∃ problems, load (singleFile (named "\x5Cud835")) "/m.model.json" =
      .error (.modelInvalid "/m.model.json" problems) := by
  intro content tree
  have read := singleFile_read content
  have decoded := Text.decode_toUTF8 content
  have written : Json.TextOf content.toList (nestedDocument 150) := by
    rw [String.toList_ofList]
    exact documentText_textOf 150
  have unique := nestedDocument_unique 150
  refine ⟨read, decoded, written, unique, nestedDocument_isDocument 150, ?_, ?_⟩
  · rcases load_text_ends read decoded with ⟨declared, loaded⟩ | refused
    · have within := ((load_eq_ok_iff read decoded written unique).1 loaded).1
      exact absurd (nestedDocument_within_iff.1 within) (by decide)
    · exact refused
  · intro named
    have refused : Json.parse (named "\x5Cud835") = none :=
      Option.isNone_iff_eq_none.1 (by decide +kernel)
    refine ⟨by decide +kernel, ?_⟩
    rw [load_text (singleFile_read _) (Text.decode_toUTF8 _), parse, refused]
    exact ⟨_, rfl⟩

end Document

end DelegateClasses
