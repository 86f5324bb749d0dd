import DelegateClasses.Proofs.Document.Loading
import DelegateClasses.Proofs.Json.Grammar
import Mathlib.Data.List.Nodup

/-! The shape of class model documents, and the declarations that values of this shape stand
for. Main statement: where no key is repeated, the checks give what a value stands for, and
refuse every other value. -/
namespace DelegateClasses

/-- No object in the value repeats a key, at any depth. -/
inductive JsonValue.UniqueKeys : JsonValue → Prop where
  | null : UniqueKeys .null
  | bool (value : Bool) : UniqueKeys (.bool value)
  | number : UniqueKeys .number
  | string (text : String) : UniqueKeys (.string text)
  | array (items : ∀ item ∈ values, UniqueKeys item) : UniqueKeys (.array values)
  | object (keys : (members.map Prod.fst).Nodup)
      (values : ∀ member ∈ members, UniqueKeys member.2) : UniqueKeys (.object members)

namespace Document
open Checked

variable {α : Type}

/-! ## Values and what they stand for -/

/-- The object does not have the key. -/
def Absent (members : Members) (key : String) : Prop :=
  key ∉ members.map Prod.fst

/-- The object has the key, and its value stands for this. -/
def Given (stands : JsonValue → α → Prop) (members : Members) (key : String) (found : α) : Prop :=
  ∃ value, (key, value) ∈ members ∧ stands value found

/-- The value of the key stands for this, or it is what an absent key stands for. -/
def GivenOr (absent : α) (stands : JsonValue → α → Prop) (members : Members) (key : String)
    (found : α) : Prop :=
  Given stands members key found ∨ Absent members key ∧ found = absent

/-- The object has no other keys. -/
def Only (members : Members) (known : List String) : Prop :=
  ∀ key ∈ members.map Prod.fst, key ∈ known

/-- The value is an object whose members stand for this. -/
def IsObject (stands : Members → α → Prop) (value : JsonValue) (found : α) : Prop :=
  ∃ members, value = .object members ∧ stands members found

/-- The value is a list, item by item of what the values in it stand for. -/
def IsList (stands : JsonValue → α → Prop) (value : JsonValue) (found : List α) : Prop :=
  ∃ values, value = .array values ∧ List.Forall₂ stands values found

def IsText (value : JsonValue) (content : String) : Prop :=
  value = .string content

def IsFilledText (value : JsonValue) (content : String) : Prop :=
  value = .string content ∧ content ≠ ""

def IsType (value : JsonValue) (type : TypeRef) : Prop :=
  IsText value type.descriptor

def IsFilledType (value : JsonValue) (type : TypeRef) : Prop :=
  IsFilledText value type.descriptor

/-- Null and the empty string stand for no superclass. -/
inductive IsSuperclass : JsonValue → Option TypeRef → Prop where
  | null : IsSuperclass .null none
  | empty : IsSuperclass (.string "") none
  | filled (inner : content ≠ "") : IsSuperclass (.string content) (some ⟨content⟩)

/-- The four kinds of classes, by their words. -/
inductive IsKind : JsonValue → ClassKind → Prop where
  | ordinary : IsKind (.string "class") .ordinary
  | interface : IsKind (.string "interface") .interface
  | enum : IsKind (.string "enum") .enum
  | record : IsKind (.string "record") .record

structure IsParameter (members : Members) (declared : ParameterDecl) : Prop where
  keys : Only members ["name", "type"]
  name : Given IsFilledText members "name" declared.name
  type : Given IsFilledType members "type" declared.type

structure IsMethod (members : Members) (declared : MethodDecl) : Prop where
  keys : Only members ["element", "name", "returns", "parameters", "throws", "modifiers"]
  name : Given IsFilledText members "name" declared.name
  returns : GivenOr .void IsType members "returns" declared.returns
  parameters : GivenOr [] (IsList (IsObject IsParameter)) members "parameters" declared.parameters
  throws : GivenOr [] (IsList IsType) members "throws" declared.throws
  modifiers : GivenOr ["public"] (IsList IsText) members "modifiers" declared.modifiers

structure IsField (members : Members) (declared : FieldDecl) : Prop where
  keys : Only members ["element", "name", "type", "modifiers"]
  name : Given IsFilledText members "name" declared.name
  type : Given IsFilledType members "type" declared.type
  modifiers : GivenOr ["private"] (IsList IsText) members "modifiers" declared.modifiers

/-- What the members of a class stand for, up to the elements that it declares. -/
structure IsClass (members : Members) (declared : ClassDecl) : Prop where
  keys : Only members ["element", "name", "kind", "superclass", "modifiers", "members"]
  name : Given IsFilledText members "name" declared.name
  kind : GivenOr .ordinary IsKind members "kind" declared.kind
  superclass : GivenOr none IsSuperclass members "superclass" declared.superclass
  modifiers : GivenOr ["public"] (IsList IsText) members "modifiers" declared.modifiers

/-- Where an element stands: in the list of a document, or in that of a class. -/
inductive Standing where
  | top
  | member

/-- The value stands for the element, at every depth. Only a class at the top need not tell
which element it is. -/
inductive Mirrors : Standing → JsonValue → Element → Prop where
  | nested {members : Members} {declared : ClassDecl} {pairs : List (JsonValue × Element)}
      (tag : ("element", .string "class") ∈ members ∨ standing = .top ∧ Absent members "element")
      (shape : IsClass members declared)
      (list : ("members", .array (pairs.map Prod.fst)) ∈ members ∨
        Absent members "members" ∧ pairs = [])
      (elements : declared.members = pairs.map Prod.snd)
      (each : ∀ pair ∈ pairs, Mirrors .member pair.1 pair.2) :
      Mirrors standing (.object members) (.nested declared)
  | method (tag : ("element", .string "method") ∈ members) (shape : IsMethod members declared) :
      Mirrors .member (.object members) (.method declared)
  | field (tag : ("element", .string "field") ∈ members) (shape : IsField members declared) :
      Mirrors .member (.object members) (.field declared)

/-- The document stands for these classes. -/
structure IsDocument (members : Members) (declared : List ClassDecl) : Prop where
  keys : Only members ["classes"]
  classes : GivenOr [] (IsList fun value declared => Mirrors .top value (.nested declared)) members
    "classes" declared

/-! ## Keys -/

variable {members : Members} {key : String} {value : JsonValue} {known : List String}
variable {stands : JsonValue → α → Prop} {check : JsonValue → Checked α} {found absent : α}

private theorem mem_of_field? (found : JsonValue.field? members key = some value) :
    (key, value) ∈ members := by
  obtain ⟨⟨other, inside⟩, located, rfl⟩ := Option.map_eq_some_iff.1 found
  have same : other = key := by simpa using List.find?_some located
  rw [← same]
  exact List.mem_reverse.1 (List.mem_of_find?_eq_some located)

theorem field?_eq_none_iff : JsonValue.field? members key = none ↔ Absent members key := by
  rw [JsonValue.field?, Option.map_eq_none_iff, List.find?_eq_none, Absent]
  simp only [List.mem_reverse, beq_iff_eq, List.mem_map, not_exists, not_and]

/-- A key has one value. -/
theorem value_unique {other : JsonValue} (unique : (members.map Prod.fst).Nodup)
    (member : (key, value) ∈ members) (also : (key, other) ∈ members) : value = other :=
  (Prod.mk.inj (List.inj_on_of_nodup_map unique member also rfl)).2

theorem field?_eq_some_iff (unique : (members.map Prod.fst).Nodup) :
    JsonValue.field? members key = some value ↔ (key, value) ∈ members := by
  refine ⟨mem_of_field?, fun member => ?_⟩
  cases found : JsonValue.field? members key with
  | none => exact absurd (List.mem_map.2 ⟨_, member, rfl⟩) (field?_eq_none_iff.1 found)
  | some other => rw [value_unique unique (mem_of_field? found) member]

/-! ## Checks of keys -/

theorem under_eq_ok_iff {step : Step} {checked : Checked α} :
    checked.under step = .ok found ↔ checked = .ok found := by
  cases checked with
  | error problems => exact ⟨fun inside => (by cases inside), fun inside => (by cases inside)⟩
  | ok inner => rfl

theorem required_eq_ok_iff (unique : (members.map Prod.fst).Nodup)
    (agree : ∀ value, (key, value) ∈ members → ∀ found,
      check value = .ok found ↔ stands value found) :
    required members key check = .ok found ↔ Given stands members key found := by
  unfold required
  cases located : JsonValue.field? members key with
  | none =>
    refine ⟨fun checked => (by cases checked), ?_⟩
    rintro ⟨value, member, -⟩
    cases ((field?_eq_some_iff unique).2 member).symm.trans located
  | some value =>
    have member := (field?_eq_some_iff unique).1 located
    simp only [under_eq_ok_iff, agree value member found]
    refine ⟨fun stood => ⟨value, member, stood⟩, ?_⟩
    rintro ⟨other, also, stood⟩
    rwa [value_unique unique member also]

theorem optional_eq_ok_iff (unique : (members.map Prod.fst).Nodup)
    (agree : ∀ value, (key, value) ∈ members → ∀ found,
      check value = .ok found ↔ stands value found) :
    optional members key absent check = .ok found ↔ GivenOr absent stands members key found := by
  unfold optional
  cases located : JsonValue.field? members key with
  | none =>
    have missing := field?_eq_none_iff.1 located
    constructor
    · rintro ⟨⟩
      exact .inr ⟨missing, rfl⟩
    · rintro (⟨value, member, -⟩ | ⟨-, rfl⟩)
      · cases ((field?_eq_some_iff unique).2 member).symm.trans located
      · rfl
  | some value =>
    have member := (field?_eq_some_iff unique).1 located
    simp only [under_eq_ok_iff, agree value member found]
    refine ⟨fun stood => .inl ⟨value, member, stood⟩, ?_⟩
    rintro (⟨other, also, stood⟩ | ⟨missing, -⟩)
    · rwa [value_unique unique member also]
    · exact absurd (List.mem_map.2 ⟨_, member, rfl⟩) missing

theorem noOthers_eq_ok_iff : noOthers members known = .ok ⟨⟩ ↔ Only members known := by
  have none : ((members.map Prod.fst).filter (!known.contains ·)).eraseDups = [] ↔
      Only members known := by
    rw [List.eq_nil_iff_forall_not_mem]
    simp only [List.mem_eraseDups, List.mem_filter, Only, not_and, Bool.not_eq_true',
      List.contains_eq_mem, decide_eq_false_iff_not, not_not]
  unfold noOthers
  split
  · next same => exact ⟨fun _ => none.1 same, fun _ => rfl⟩
  · next others same =>
    refine ⟨fun checked => (by cases checked), fun only => ?_⟩
    exact absurd (none.2 only) same

/-! ## Checks of values -/

theorem text_eq_ok_iff {content : String} : text value = .ok content ↔ IsText value content := by
  cases value <;> simp [text, IsText, refuse]

theorem filledText_eq_ok_iff {content : String} :
    filledText value = .ok content ↔ IsFilledText value content := by
  cases value with
  | string word =>
    by_cases empty : word = ""
    · simp only [filledText, IsFilledText, if_pos empty, refuse]
      refine ⟨fun checked => (by cases checked), ?_⟩
      rintro ⟨⟨rfl⟩, inner⟩
      exact absurd empty inner
    · simp only [filledText, IsFilledText, if_neg empty]
      constructor
      · rintro ⟨⟩
        exact ⟨rfl, empty⟩
      · rintro ⟨⟨rfl⟩, -⟩
        rfl
  | _ => simp [filledText, IsFilledText, refuse]

theorem map_typeRef_eq_ok_iff {checked : Checked String} {type : TypeRef} :
    checked.map TypeRef.mk = .ok type ↔ checked = .ok type.descriptor := by
  cases checked with
  | error problems => exact ⟨fun mapped => (by cases mapped), fun same => (by cases same)⟩
  | ok content =>
    constructor
    · rintro ⟨⟩
      rfl
    · rintro ⟨⟩
      rfl

theorem typeText_eq_ok_iff {type : TypeRef} : typeText value = .ok type ↔ IsType value type :=
  map_typeRef_eq_ok_iff.trans text_eq_ok_iff

theorem filledType_eq_ok_iff {type : TypeRef} :
    filledType value = .ok type ↔ IsFilledType value type :=
  map_typeRef_eq_ok_iff.trans filledText_eq_ok_iff

theorem superclass_eq_ok_iff {type? : Option TypeRef} :
    superclass value = .ok type? ↔ IsSuperclass value type? := by
  cases value with
  | null =>
    constructor
    · rintro ⟨⟩
      exact .null
    · rintro ⟨⟩
      rfl
  | string word =>
    by_cases empty : word = ""
    · subst empty
      constructor
      · rintro ⟨⟩
        exact .empty
      · rintro (_ | _ | inner)
        · rfl
        · exact absurd rfl inner
    · simp only [superclass, if_neg empty]
      constructor
      · rintro ⟨⟩
        exact .filled empty
      · rintro (_ | _ | inner)
        · exact absurd rfl empty
        · rfl
  | _ =>
    refine ⟨fun checked => (by cases checked), ?_⟩
    rintro ⟨⟩

theorem classKind_eq_ok_iff {kind : ClassKind} :
    classKind value = .ok kind ↔ IsKind value kind := by
  cases value with
  | string word =>
    constructor
    · intro checked
      unfold classKind ClassKind.ofText at checked
      by_cases first : word = "class"
      · subst first
        cases checked
        exact .ordinary
      by_cases second : word = "interface"
      · subst second
        cases checked
        exact .interface
      by_cases third : word = "enum"
      · subst third
        cases checked
        exact .enum
      by_cases fourth : word = "record"
      · subst fourth
        cases checked
        exact .record
      simp only [if_neg first, if_neg second, if_neg third, if_neg fourth] at checked
      cases checked
    · rintro ⟨⟩ <;> rfl
  | _ =>
    refine ⟨fun checked => (by cases checked), ?_⟩
    rintro ⟨⟩

theorem classTag_eq_ok_iff : classTag value = .ok ⟨⟩ ↔ value = .string "class" := by
  unfold classTag
  split
  · exact ⟨fun _ => rfl, fun _ => rfl⟩
  · next other => exact ⟨fun checked => (by cases checked), fun same => absurd same other⟩

/-! ## Lists -/

theorem combine_eq_ok_iff {first : Checked α} {second : Checked (List α)} {list : List α} :
    combine List.cons first second = .ok list ↔
      ∃ one others, first = .ok one ∧ second = .ok others ∧ list = one :: others := by
  refine ⟨combine_eq_ok, ?_⟩
  rintro ⟨one, others, rfl, rfl, rfl⟩
  rfl

theorem itemsFrom_eq_ok_iff {position : Nat} {values : List JsonValue} {list : List α}
    (agree : ∀ value ∈ values, ∀ found, check value = .ok found ↔ stands value found) :
    itemsFrom check position values = .ok list ↔ List.Forall₂ stands values list := by
  induction values generalizing position list with
  | nil =>
    constructor
    · rintro ⟨⟩
      exact .nil
    · rintro ⟨⟩
      rfl
  | cons value values ih =>
    rw [itemsFrom, combine_eq_ok_iff, List.forall₂_cons_left_iff]
    simp only [under_eq_ok_iff, agree value List.mem_cons_self,
      ih fun other member => agree other (List.mem_cons_of_mem _ member)]

theorem list_eq_ok_iff {list : List α}
    (agree : ∀ values, value = .array values → ∀ item ∈ values, ∀ found,
      check item = .ok found ↔ stands item found) :
    Document.list check value = .ok list ↔ IsList stands value list := by
  unfold Document.list
  split
  · next values =>
    rw [itemsFrom_eq_ok_iff (agree values rfl), IsList]
    simp
  · next other =>
    refine ⟨fun checked => (by cases checked), ?_⟩
    rintro ⟨values, rfl, -⟩
    exact absurd rfl (other values)

/-! ## Checks of objects -/

theorem keys_of_unique (unique : JsonValue.UniqueKeys (.object members)) :
    (members.map Prod.fst).Nodup := by
  cases unique with
  | object keys => exact keys

theorem values_of_unique (unique : JsonValue.UniqueKeys (.object members))
    (member : (key, value) ∈ members) : value.UniqueKeys := by
  cases unique with
  | object keys values => exact values _ member

theorem items_of_unique {values : List JsonValue} (unique : JsonValue.UniqueKeys (.array values))
    (member : value ∈ values) : value.UniqueKeys := by
  cases unique with
  | array items => exact items _ member

private theorem filledText_key (unique : (members.map Prod.fst).Nodup) {content : String} :
    required members key filledText = .ok content ↔ Given IsFilledText members key content :=
  required_eq_ok_iff unique fun _ _ _ => filledText_eq_ok_iff

private theorem filledType_key (unique : (members.map Prod.fst).Nodup) {type : TypeRef} :
    required members key filledType = .ok type ↔ Given IsFilledType members key type :=
  required_eq_ok_iff unique fun _ _ _ => filledType_eq_ok_iff

private theorem texts_key (unique : (members.map Prod.fst).Nodup) {absent texts : List String} :
    optional members key absent (Document.list text) = .ok texts ↔
      GivenOr absent (IsList IsText) members key texts :=
  optional_eq_ok_iff unique fun _ _ _ => list_eq_ok_iff fun _ _ _ _ _ => text_eq_ok_iff

private theorem types_key (unique : (members.map Prod.fst).Nodup) {absent types : List TypeRef} :
    optional members key absent (Document.list typeText) = .ok types ↔
      GivenOr absent (IsList IsType) members key types :=
  optional_eq_ok_iff unique fun _ _ _ => list_eq_ok_iff fun _ _ _ _ _ => typeText_eq_ok_iff

theorem parameter_eq_ok_iff (unique : value.UniqueKeys) {declared : ParameterDecl} :
    parameter value = .ok declared ↔ IsObject IsParameter value declared := by
  cases value with
  | object members =>
    have keys := keys_of_unique unique
    constructor
    · intro checked
      obtain ⟨_, ⟨⟩, typed, others, rfl⟩ := and_eq_ok checked
      obtain ⟨_, type, named, typing, rfl⟩ := and_eq_ok typed
      obtain ⟨_, name, start, naming, rfl⟩ := and_eq_ok named
      cases start
      exact ⟨members, rfl, noOthers_eq_ok_iff.1 others, (filledText_key keys).1 naming,
        (filledType_key keys).1 typing⟩
    · rintro ⟨_, ⟨⟩, shape⟩
      rw [parameter, (filledText_key keys).2 shape.name, (filledType_key keys).2 shape.type,
        noOthers_eq_ok_iff.2 shape.keys]
      rfl
  | _ =>
    refine ⟨fun checked => (by cases checked), ?_⟩
    rintro ⟨_, ⟨⟩, -⟩

theorem method_eq_ok_iff (unique : JsonValue.UniqueKeys (.object members)) {declared : MethodDecl} :
    method members = .ok declared ↔ IsMethod members declared := by
  have keys := keys_of_unique unique
  have typed {type : TypeRef} : optional members "returns" .void typeText = .ok type ↔
      GivenOr .void IsType members "returns" type :=
    optional_eq_ok_iff keys fun _ _ _ => typeText_eq_ok_iff
  have parametrized {parameters : List ParameterDecl} :
      optional members "parameters" [] (Document.list parameter) = .ok parameters ↔
        GivenOr [] (IsList (IsObject IsParameter)) members "parameters" parameters := by
    refine optional_eq_ok_iff keys fun value member _ => list_eq_ok_iff ?_
    rintro values rfl item inside _
    exact parameter_eq_ok_iff (items_of_unique (values_of_unique unique member) inside)
  constructor
  · intro checked
    obtain ⟨_, ⟨⟩, modified, others, rfl⟩ := and_eq_ok checked
    obtain ⟨_, _, throwing, modifiers, rfl⟩ := and_eq_ok modified
    obtain ⟨_, _, applied, throws, rfl⟩ := and_eq_ok throwing
    obtain ⟨_, _, returning, parameters, rfl⟩ := and_eq_ok applied
    obtain ⟨_, _, named, returns, rfl⟩ := and_eq_ok returning
    obtain ⟨_, _, start, name, rfl⟩ := and_eq_ok named
    cases start
    exact ⟨noOthers_eq_ok_iff.1 others, (filledText_key keys).1 name, typed.1 returns,
      parametrized.1 parameters, (types_key keys).1 throws, (texts_key keys).1 modifiers⟩
  · intro shape
    unfold method
    rw [(filledText_key keys).2 shape.name, typed.2 shape.returns,
      parametrized.2 shape.parameters, (types_key keys).2 shape.throws,
      (texts_key keys).2 shape.modifiers, noOthers_eq_ok_iff.2 shape.keys]
    rfl

theorem field_eq_ok_iff (unique : JsonValue.UniqueKeys (.object members)) {declared : FieldDecl} :
    field members = .ok declared ↔ IsField members declared := by
  have keys := keys_of_unique unique
  constructor
  · intro checked
    obtain ⟨_, ⟨⟩, modified, others, rfl⟩ := and_eq_ok checked
    obtain ⟨_, _, typed, modifiers, rfl⟩ := and_eq_ok modified
    obtain ⟨_, _, named, type, rfl⟩ := and_eq_ok typed
    obtain ⟨_, _, start, name, rfl⟩ := and_eq_ok named
    cases start
    exact ⟨noOthers_eq_ok_iff.1 others, (filledText_key keys).1 name, (filledType_key keys).1 type,
      (texts_key keys).1 modifiers⟩
  · intro shape
    unfold field
    rw [(filledText_key keys).2 shape.name, (filledType_key keys).2 shape.type,
      (texts_key keys).2 shape.modifiers, noOthers_eq_ok_iff.2 shape.keys]
    rfl

/-! ## Classes -/

/-- The members of a class are checked like the items of a list. -/
theorem elementsFrom_eq_itemsFrom (position : Nat) (values : List JsonValue) :
    elementsFrom position values = itemsFrom element position values := by
  induction values generalizing position with
  | nil =>
    unfold elementsFrom
    rfl
  | cons value values ih =>
    unfold elementsFrom
    rw [itemsFrom, ih]

/-- Pairs are what two lists give side by side. -/
theorem forall₂_iff_pairs {β : Type} {related : α → β → Prop} {firsts : List α} {seconds : List β} :
    List.Forall₂ related firsts seconds ↔ ∃ pairs : List (α × β), pairs.map Prod.fst = firsts ∧
      pairs.map Prod.snd = seconds ∧ ∀ pair ∈ pairs, related pair.1 pair.2 := by
  constructor
  · intro side
    induction side with
    | nil => exact ⟨[], rfl, rfl, fun _ none => (by cases none)⟩
    | @cons first second _ _ here _ ih =>
      obtain ⟨pairs, rfl, rfl, each⟩ := ih
      refine ⟨(first, second) :: pairs, rfl, rfl, fun pair member => ?_⟩
      rcases List.mem_cons.1 member with rfl | later
      · exact here
      · exact each pair later
  · rintro ⟨pairs, rfl, rfl, each⟩
    induction pairs with
    | nil => exact .nil
    | cons pair pairs ih =>
      exact .cons (each pair List.mem_cons_self) (ih fun other member =>
        each other (List.mem_cons_of_mem _ member))

/-- A class, by what the keys of its object stand for. -/
theorem mirrors_nested_iff {standing : Standing} {declared : ClassDecl} :
    Mirrors standing (.object members) (.nested declared) ↔
      (("element", .string "class") ∈ members ∨ standing = .top ∧ Absent members "element") ∧
      IsClass members declared ∧
      GivenOr [] (IsList (Mirrors .member)) members "members" declared.members := by
  constructor
  · intro mirrors
    cases mirrors with
    | nested tag shape list elements each =>
      refine ⟨tag, shape, ?_⟩
      rcases list with given | ⟨missing, rfl⟩
      · exact .inl ⟨_, given, _, rfl, forall₂_iff_pairs.2 ⟨_, rfl, elements.symm, each⟩⟩
      · exact .inr ⟨missing, elements⟩
  · rintro ⟨tag, shape, ⟨_, given, values, rfl, side⟩ | ⟨missing, none⟩⟩
    · obtain ⟨pairs, rfl, same, each⟩ := forall₂_iff_pairs.1 side
      exact .nested tag shape (.inl given) same.symm each
    · exact .nested tag shape (.inr ⟨missing, rfl⟩) none fun _ member => (by cases member)

theorem classDecl_eq (members : Members) : classDecl members =
    ((((((Checked.and (.ok fun (_ : Unit) name kind superclass modifiers elements (_ : Unit) =>
        ⟨name, kind, superclass, modifiers, elements⟩)
      (optional members "element" () classTag)).and
      (required members "name" filledText)).and
      (optional members "kind" .ordinary classKind)).and
      (optional members "superclass" none superclass)).and
      (optional members "modifiers" ["public"] (Document.list text))).and
      (optional members "members" [] (Document.list element))).and
      (noOthers members classKeys) := by
  unfold classDecl
  refine congrArg (fun elements => Checked.and (Checked.and _ elements) _) ?_
  unfold optional
  split
  · next found => rw [found]
  · next values found =>
    rw [found]
    exact congrArg _ (elementsFrom_eq_itemsFrom 0 values)
  · next value other found =>
    rw [found]
    refine congrArg _ ?_
    unfold Document.list
    split
    · exact absurd rfl (other _)
    · rfl

/-- The check of a class, given the checks of its elements. -/
theorem classDecl_eq_ok_iff_of (unique : JsonValue.UniqueKeys (.object members))
    (agree : ∀ values, ("members", .array values) ∈ members → ∀ value ∈ values, ∀ declared,
      element value = .ok declared ↔ Mirrors .member value declared) {declared : ClassDecl} :
    classDecl members = .ok declared ↔ Mirrors .top (.object members) (.nested declared) := by
  have keys := keys_of_unique unique
  have tagged : optional members "element" ⟨⟩ classTag = .ok ⟨⟩ ↔
      GivenOr ⟨⟩ (fun value (_ : Unit) => value = .string "class") members "element" ⟨⟩ :=
    optional_eq_ok_iff keys fun _ _ _ => classTag_eq_ok_iff
  have kinded {kind : ClassKind} : optional members "kind" .ordinary classKind = .ok kind ↔
      GivenOr .ordinary IsKind members "kind" kind :=
    optional_eq_ok_iff keys fun _ _ _ => classKind_eq_ok_iff
  have extended {type? : Option TypeRef} :
      optional members "superclass" none superclass = .ok type? ↔
        GivenOr none IsSuperclass members "superclass" type? :=
    optional_eq_ok_iff keys fun _ _ _ => superclass_eq_ok_iff
  have listed {elements : List Element} :
      optional members "members" [] (Document.list element) = .ok elements ↔
        GivenOr [] (IsList (Mirrors .member)) members "members" elements := by
    refine optional_eq_ok_iff keys fun value member _ => list_eq_ok_iff ?_
    rintro values rfl item inside declared
    exact agree values member item inside declared
  rw [classDecl_eq, mirrors_nested_iff]
  constructor
  · intro checked
    obtain ⟨_, ⟨⟩, filled, others, rfl⟩ := and_eq_ok checked
    obtain ⟨_, _, modified, elements, rfl⟩ := and_eq_ok filled
    obtain ⟨_, _, extending, modifiers, rfl⟩ := and_eq_ok modified
    obtain ⟨_, _, kinding, superclass, rfl⟩ := and_eq_ok extending
    obtain ⟨_, _, named, kind, rfl⟩ := and_eq_ok kinding
    obtain ⟨_, _, tagging, name, rfl⟩ := and_eq_ok named
    obtain ⟨_, ⟨⟩, start, tag, rfl⟩ := and_eq_ok tagging
    cases start
    refine ⟨?_, ⟨noOthers_eq_ok_iff.1 others, (filledText_key keys).1 name, kinded.1 kind,
      extended.1 superclass, (texts_key keys).1 modifiers⟩, listed.1 elements⟩
    rcases tagged.1 tag with ⟨_, given, rfl⟩ | ⟨missing, -⟩
    · exact .inl given
    · exact .inr ⟨rfl, missing⟩
  · rintro ⟨tag, shape, elements⟩
    have tagging : optional members "element" ⟨⟩ classTag = .ok ⟨⟩ := by
      exact tagged.2 (tag.imp (fun given => ⟨_, given, rfl⟩) fun missing => ⟨missing.2, rfl⟩)
    have others : noOthers members classKeys = .ok ⟨⟩ := noOthers_eq_ok_iff.2 shape.keys
    rw [tagging, (filledText_key keys).2 shape.name, kinded.2 shape.kind,
      extended.2 shape.superclass, (texts_key keys).2 shape.modifiers, listed.2 elements, others]
    cases declared
    rfl

theorem under_map_eq_ok_iff {β : Type} {step : Step} {checked : Checked β} {wrap : β → α} :
    Checked.under step (checked.map wrap) = .ok found ↔
      ∃ inner, checked = .ok inner ∧ wrap inner = found := by
  rw [under_eq_ok_iff]
  cases checked with
  | error problems =>
    refine ⟨fun mapped => (by cases mapped), ?_⟩
    rintro ⟨_, ⟨⟩, -⟩
  | ok inner =>
    constructor
    · rintro ⟨⟩
      exact ⟨inner, rfl, rfl⟩
    · rintro ⟨_, ⟨⟩, rfl⟩
      rfl

private theorem sizeOf_item_lt {values : List JsonValue} (given : (key, .array values) ∈ members)
    (member : value ∈ values) : sizeOf value < sizeOf (JsonValue.object members) := by
  have outer := List.sizeOf_lt_of_mem given
  have inner := List.sizeOf_lt_of_mem member
  simp at outer ⊢
  omega

/-- The tag tells which check an element has to pass. -/
theorem element_object_eq_ok_iff (unique : JsonValue.UniqueKeys (.object members))
    (class_iff : ∀ inner, classDecl members = .ok inner ↔
      Mirrors .top (.object members) (.nested inner)) (declared : Element) :
    element (.object members) = .ok declared ↔ Mirrors .member (.object members) declared := by
  have tag_iff {tag : String} : JsonValue.field? members "element" = some (.string tag) ↔
      ("element", .string tag) ∈ members := field?_eq_some_iff (keys_of_unique unique)
  constructor
  · intro checked
    unfold element at checked
    split at checked
    · cases checked
    · next tag located =>
      have given := tag_iff.1 located
      split at checked
      · next same =>
        subst same
        obtain ⟨inner, passed, rfl⟩ := under_map_eq_ok_iff.1 checked
        obtain ⟨-, shape, elements⟩ := mirrors_nested_iff.1 ((class_iff inner).1 passed)
        exact mirrors_nested_iff.2 ⟨.inl given, shape, elements⟩
      · split at checked
        · next same =>
          subst same
          obtain ⟨inner, passed, rfl⟩ := under_map_eq_ok_iff.1 checked
          exact .method given ((method_eq_ok_iff unique).1 passed)
        · split at checked
          · next same =>
            subst same
            obtain ⟨inner, passed, rfl⟩ := under_map_eq_ok_iff.1 checked
            exact .field given ((field_eq_ok_iff unique).1 passed)
          · cases checked
    · cases checked
  · intro mirrors
    cases mirrors with
    | nested tag shape list elements each =>
      have mirrored : Mirrors .member (.object members) (.nested _) :=
        .nested tag shape list elements each
      obtain ⟨given | ⟨⟨⟩, -⟩, shape, elements⟩ := mirrors_nested_iff.1 mirrored
      have passed := (class_iff _).2 (mirrors_nested_iff.2 ⟨.inl given, shape, elements⟩)
      simp only [element, tag_iff.2 given, if_true, passed]
      rfl
    | method tag shape =>
      simp only [element, tag_iff.2 tag, (method_eq_ok_iff unique).2 shape]
      rfl
    | field tag shape =>
      simp only [element, tag_iff.2 tag, (field_eq_ok_iff unique).2 shape]
      rfl

/-- **A member of a class is checked to be what its value stands for.** -/
theorem element_eq_ok_iff : ∀ value : JsonValue, value.UniqueKeys → ∀ declared : Element,
    element value = .ok declared ↔ Mirrors .member value declared
  | .object members, unique, declared => by
    refine element_object_eq_ok_iff unique (fun inner => ?_) declared
    -- The values in the list of a class are smaller than its object.
    refine classDecl_eq_ok_iff_of unique fun values given value member declared => ?_
    have smaller := sizeOf_item_lt given member
    have inner := items_of_unique (values_of_unique unique given) member
    exact element_eq_ok_iff value inner declared
  | .null, _, _ | .bool _, _, _ | .number, _, _ | .string _, _, _ | .array _, _, _ => by
    unfold element
    exact ⟨fun checked => (by cases checked), fun mirrors => (by cases mirrors)⟩
termination_by value => sizeOf value
decreasing_by exact smaller

theorem topLevelClass_eq_ok_iff (unique : value.UniqueKeys) {declared : ClassDecl} :
    topLevelClass value = .ok declared ↔ Mirrors .top value (.nested declared) := by
  cases value with
  | object members =>
    refine classDecl_eq_ok_iff_of unique fun values given value member declared => ?_
    exact element_eq_ok_iff value (items_of_unique (values_of_unique unique given) member) declared
  | _ => exact ⟨fun checked => (by cases checked), fun mirrors => (by cases mirrors)⟩

/-- The check of a document gives the classes that it stands for. -/
theorem classes_eq_ok_iff (unique : value.UniqueKeys) {declared : List ClassDecl} :
    classes value = .ok declared ↔ IsObject IsDocument value declared := by
  cases value with
  | object members =>
    have keys := keys_of_unique unique
    have listed {found : List ClassDecl} :
        optional members "classes" [] (Document.list topLevelClass) = .ok found ↔
          GivenOr [] (IsList fun value declared => Mirrors .top value (.nested declared)) members
            "classes" found := by
      refine optional_eq_ok_iff keys fun value member _ => list_eq_ok_iff ?_
      rintro values rfl item inside _
      exact topLevelClass_eq_ok_iff (items_of_unique (values_of_unique unique member) inside)
    constructor
    · intro checked
      obtain ⟨_, ⟨⟩, filled, others, rfl⟩ := and_eq_ok checked
      obtain ⟨_, _, start, found, rfl⟩ := and_eq_ok filled
      cases start
      exact ⟨members, rfl, noOthers_eq_ok_iff.1 others, listed.1 found⟩
    · rintro ⟨_, ⟨⟩, shape⟩
      rw [classes, listed.2 shape.classes, noOthers_eq_ok_iff.2 shape.keys]
      rfl
  | _ =>
    refine ⟨fun checked => (by cases checked), ?_⟩
    rintro ⟨_, ⟨⟩, -⟩

end Document

end DelegateClasses
