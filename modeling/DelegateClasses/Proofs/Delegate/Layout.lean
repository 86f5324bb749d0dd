import DelegateClasses.Proofs.Delegate.Overriding
import DelegateClasses.Proofs.Text.Joining

/-! The layout of the methods that pass calls on. Written types hold neither parentheses
nor braces nor line ends, so the parts of a signature are found in its text: it is cut at the
first brace, at both parentheses, at the line ends between the parameters, and at the last
blank before a name. Main statement: methods whose types are named with their packages are
passed on by the same text only if they agree in all names and types. -/
namespace DelegateClasses

/-- The characters that separate the parts of a signature. -/
def separators : List Char := ['(', ')', '\x7b', '\n']

/-- A text can be a part of a signature: it holds no character that separates parts. -/
def Unseparated (text : List Char) : Prop :=
  ∀ c ∈ text, c ∉ separators

instance (text : List Char) : Decidable (Unseparated text) :=
  List.decidableBAll (· ∉ separators) text

namespace TypeTree

variable {tree other : TypeTree} {given : List String}

theorem unseparated_append {front rear : List Char} (first : Unseparated front)
    (second : Unseparated rear) : Unseparated (front ++ rear) :=
  fun c member => (List.mem_append.1 member).elim (first c) (second c)

private theorem unseparated_name {text : List Char} (name : Name text) : Unseparated text := by
  intro c member separates
  have refused : separators.all fun d => !continuesIdentifier d && d != '.' := by decide +kernel
  have kept := List.all_eq_true.1 refused c separates
  simp only [Bool.and_eq_true, Bool.not_eq_true', bne_iff_ne] at kept
  rcases name_chars name c member with continues | dot
  · rw [kept.1] at continues
    cases continues
  · exact kept.2 dot

private theorem unseparated_suffixes (count : Nat) : Unseparated (suffixes count).toList := by
  rw [suffixes, Int.toNat_natCast]
  induction count with
  | zero => simp [Unseparated]
  | succ count ih =>
    rw [List.replicate_succ', String.join_append, String.toList_append]
    exact unseparated_append ih (by decide)

private theorem unseparated_applied {name : String} (named : Unseparated name.toList)
    (each : ∀ text ∈ given, Unseparated text.toList) (count : Nat) :
    Unseparated (applied name given count).toList := by
  rw [applied, String.toList_append, String.toList_append]
  refine unseparated_append (unseparated_append named ?_) (unseparated_suffixes count)
  split
  · simp [Unseparated]
  · rw [String.toList_append, String.toList_append, String.toList_intercalate]
    refine unseparated_append (unseparated_append (by decide) fun c member => ?_) (by decide)
    rcases Text.mem_of_mem_intercalate member with between | ⟨part, among, within⟩
    · exact (by decide : Unseparated ", ".toList) c between
    · obtain ⟨text, known, rfl⟩ := List.mem_map.1 among
      exact each text known c within

/-- The written form of a type can be a part of a signature. -/
theorem unseparated_text (wellFormed : WellFormed tree) : Unseparated tree.text.toList := by
  induction wellFormed with
  | anything =>
    rw [text_anything]
    decide
  | @bounded kind content word bound ih =>
    rw [text_bounded, boundText, Option.getD_some, String.toList_append, String.toList_append]
    refine unseparated_append (unseparated_append ?_ (by decide)) ih
    rcases word with rfl | rfl <;> decide
  | primitive listed =>
    rw [text_primitive listed]
    refine unseparated_applied (unseparated_name ?_) (by simp) _
    exact name_of_isPrimitive (by rwa [String.ofList_toList])
  | named name ordinary each ih =>
    rw [text_named name]
    refine unseparated_applied (unseparated_name name) (fun text member => ?_) _
    obtain ⟨argument, among, rfl⟩ := List.mem_map.1 member
    exact ih argument among

theorem text_ne_empty (wellFormed : WellFormed tree) : tree.text ≠ "" := by
  intro empty
  have read := parse_of_text wellFormed
  rw [empty] at read
  cases read

theorem text_inj (wellFormed : WellFormed tree) (likewise : WellFormed other)
    (same : tree.text = other.text) : tree = other := by
  have read := parse_of_text wellFormed
  rw [same, parse_of_text likewise] at read
  exact (Except.ok.inj read).symm

/-- Types in a list are known from the text of the list: it could be one of arguments. -/
theorem texts_inj {trees others : List TypeTree} (nonempty : trees ≠ []) (filled : others ≠ [])
    (wellFormed : ∀ tree ∈ trees, WellFormed tree) (likewise : ∀ tree ∈ others, WellFormed tree)
    (same : ", ".intercalate (trees.map text) = ", ".intercalate (others.map text)) :
    trees = others := by
  have letter : Name "a".toList := isTypeName_iff.1 (by decide +kernel)
  have generic {trees : List TypeTree} (nonempty : trees ≠ []) :
      (named "a" trees 0).text = "a" ++ ("<" ++ ", ".intercalate (trees.map text) ++ ">") := by
    rw [text_named letter, applied, if_neg (by simpa using nonempty)]
    simp [suffixes]
  have whole : (named "a" trees 0).text = (named "a" others 0).text := by
    rw [generic nonempty, generic filled, same]
  exact (named_inj (text_inj (.named letter (by decide) wellFormed)
    (.named letter (by decide) likewise) whole)).2.1

end TypeTree

namespace TypeRef
open Imports

variable {type other : TypeRef} {owner? : String → Option String}

/-- The type can be read, all of its names are given with their packages, and none ends in
the name of a primitive type. -/
def Packaged (type : TypeRef) : Prop :=
  ∃ tree, type.parse = .ok tree ∧ ∀ full ∈ tree.names,
    DottedName.isQualified full = true ∧ DottedName.isPrimitive (DottedName.simple full) = false

/-- The type as it is spelled by owners of names. -/
def spelledTree (owner? : String → Option String) (type : TypeRef) : TypeTree :=
  match type.parse with
  | .ok tree => tree.rename (shortened owner?)
  | .error _ => .anything

/-- A type that is named with packages is known from its spelling. -/
theorem spelledTree_of_packaged (packaged : type.Packaged) (owner? : String → Option String) :
    TypeTree.WellFormed (type.spelledTree owner?) ∧
      type.spelled (shortened owner?) = (type.spelledTree owner?).text ∧
      type.parse = .ok ((type.spelledTree owner?).rename (expanded owner?)) := by
  obtain ⟨tree, read, names⟩ := packaged
  have wellFormed := TypeTree.wellFormed_of_parse read
  have named := TypeTree.name_of_mem_names wellFormed
  rw [spelledTree, spelled, read]
  refine ⟨TypeTree.wellFormed_rename wellFormed
    (fun full member => name_shortened (named full member).1)
    (fun full member => shortened_ordinary (named full member).2 (names full member).2), rfl, ?_⟩
  exact congrArg Except.ok (TypeTree.rename_rename wellFormed fun full member =>
    expanded_shortened owner? (names full member).1).symm

private theorem parse_eq_of_spelled (packaged : type.Packaged) (likewise : other.Packaged)
    (same : type.spelled (shortened owner?) = other.spelled (shortened owner?)) :
    type.parse = other.parse := by
  obtain ⟨wellFormed, written, read⟩ := spelledTree_of_packaged packaged owner?
  obtain ⟨proper, spelt, known⟩ := spelledTree_of_packaged likewise owner?
  rw [written, spelt] at same
  rw [read, known, TypeTree.text_inj wellFormed proper same]

/-- The spelled types of a list, separated by commas, are the texts of types that determine
what was read. -/
theorem commaList_of_packaged {types : List TypeRef} (packaged : ∀ type ∈ types, type.Packaged)
    (owner? : String → Option String) :
    Fragment.commaList (types.map (·.spelled (shortened owner?))) =
        ", ".intercalate ((types.map (spelledTree owner?)).map TypeTree.text) ∧
      (∀ tree ∈ types.map (spelledTree owner?), TypeTree.WellFormed tree) ∧
      types.map parse = (types.map (spelledTree owner?)).map
        fun tree => .ok (tree.rename (expanded owner?)) := by
  have each := fun type member => spelledTree_of_packaged (packaged type member) owner?
  have texts : types.map (·.spelled (shortened owner?)) =
      (types.map (spelledTree owner?)).map TypeTree.text := by
    rw [List.map_map]
    exact List.map_congr_left fun type member => (each type member).2.1
  have wellFormed : ∀ tree ∈ types.map (spelledTree owner?), TypeTree.WellFormed tree := by
    intro tree member
    obtain ⟨type, among, rfl⟩ := List.mem_map.1 member
    exact (each type among).1
  refine ⟨?_, wellFormed, ?_⟩
  · rw [texts, Fragment.commaList, Fragment.joinNonEmpty, List.filter_eq_self.2]
    intro text member
    obtain ⟨tree, among, rfl⟩ := List.mem_map.1 member
    simpa using TypeTree.text_ne_empty (wellFormed tree among)
  · rw [List.map_map]
    exact List.map_congr_left fun type member => (each type member).2.2

/-- Types in a list that is separated by commas are known from their spelling. -/
theorem parses_eq_of_spelled {types others : List TypeRef} (nonempty : types ≠ [])
    (filled : others ≠ []) (packaged : ∀ type ∈ types, type.Packaged)
    (likewise : ∀ type ∈ others, type.Packaged)
    (same : Fragment.commaList (types.map (·.spelled (shortened owner?))) =
      Fragment.commaList (others.map (·.spelled (shortened owner?)))) :
    types.map parse = others.map parse := by
  obtain ⟨written, wellFormed, read⟩ := commaList_of_packaged packaged owner?
  obtain ⟨spelt, proper, known⟩ := commaList_of_packaged likewise owner?
  rw [written, spelt] at same
  rw [read, known, TypeTree.texts_inj (by simpa using nonempty) (by simpa using filled) wellFormed
    proper same]

end TypeRef

namespace ClassDraft

variable {name other returned result : String} {declared others thrown raised : List String}

/-- The parts of a signature can be found in its text. -/
structure Parted (name returned : String) (declared thrown : List String) : Prop where
  name : Unseparated name.toList ∧ ' ' ∉ name.toList
  returned : Unseparated returned.toList
  declared : ∀ text ∈ declared, text ≠ "" ∧ Unseparated text.toList
  thrown : ∀ text ∈ thrown, Unseparated text.toList

/-- What stands between the parentheses of a signature. -/
def parameterText (name returned : String) (declared : List String) : String :=
  Fragment.joinNonEmpty (parameterBreak (signatureStart "public" returned name)) declared

/-- A method starts with its signature, and the signature with its name. -/
theorem block_shape (name returned : String) (declared thrown statements : List String) :
    ∃ rest, (Fragment.block (signatureText name "public" returned declared thrown) statements
        Fragment.indent).toList =
      ((("  public " ++ returned).toList ++ ' ' :: name.toList) ++
        '(' :: ((parameterText name returned declared).toList ++
          ')' :: ((throwsClause thrown).toList ++ [' ']))) ++ '\x7b' :: rest := by
  obtain ⟨rest, shape⟩ : ∃ rest,
      (Fragment.block (signatureText name "public" returned declared thrown) statements
        Fragment.indent).toList =
      (signatureText name "public" returned declared thrown).toList ++ rest := by
    rw [Fragment.block, String.toList_intercalate, List.cons_append, List.map_cons]
    exact Text.intercalate_starts _ _
  refine ⟨rest, ?_⟩
  rw [shape]
  simp [signatureText, signatureStart, parameterText, Fragment.indent]

private theorem unbraced_throwsClause (thrown : List String)
    (each : ∀ text ∈ thrown, Unseparated text.toList) : '\x7b' ∉ (throwsClause thrown).toList := by
  rw [throwsClause]
  split
  · simp
  · rw [Fragment.commaList, Fragment.joinNonEmpty, String.toList_append, String.toList_intercalate,
      List.mem_append, not_or]
    refine ⟨by decide, fun member => ?_⟩
    rcases Text.mem_of_mem_intercalate member with between | ⟨part, among, within⟩
    · exact absurd between (by decide)
    · obtain ⟨text, known, rfl⟩ := List.mem_map.1 among
      exact each text (List.mem_filter.1 known).1 _ within (by decide)

/-- The parameters of a signature hold neither parentheses nor braces. -/
theorem mem_parameterText {c : Char} (parted : Parted name returned declared thrown)
    (member : c ∈ (parameterText name returned declared).toList) :
    c ∉ ['(', ')', '\x7b'] := by
  rw [parameterText, Fragment.joinNonEmpty, String.toList_intercalate] at member
  rcases Text.mem_of_mem_intercalate member with between | ⟨part, among, within⟩
  · have blank : c = ',' ∨ c = '\n' ∨ c = ' ' := by
      simp [parameterBreak] at between
      tauto
    rcases blank with rfl | rfl | rfl <;> decide
  · obtain ⟨text, known, rfl⟩ := List.mem_map.1 among
    have kept := (parted.declared text (List.mem_filter.1 known).1).2 c within
    simp [separators] at kept ⊢
    tauto

/-- Parameters are known from what stands between the parentheses. -/
theorem parameterText_inj (parted : Parted name returned declared thrown)
    (likewise : Parted name returned others raised)
    (same : parameterText name returned declared = parameterText name returned others) :
    declared = others := by
  have split : (parameterBreak (signatureStart "public" returned name)).toList = [','] ++
      '\n' :: List.replicate (signatureStart "public" returned name).length ' ' := by
    simp [parameterBreak]
  have joined {declared thrown : List String} (parted : Parted name returned declared thrown) :
      (parameterText name returned declared).toList = List.intercalate
          ([','] ++ '\n' :: List.replicate (signatureStart "public" returned name).length ' ')
          (declared.map String.toList) ∧
        ∀ part ∈ declared.map String.toList, part ≠ [] ∧ '\n' ∉ part := by
    constructor
    · rw [parameterText, Fragment.joinNonEmpty, String.toList_intercalate, split,
        List.filter_eq_self.2 fun text member => by simpa using (parted.declared text member).1]
    · intro part member
      obtain ⟨text, among, rfl⟩ := List.mem_map.1 member
      obtain ⟨filled, plain⟩ := parted.declared text among
      exact ⟨fun none => filled (String.toList_eq_nil_iff.1 none),
        fun within => plain '\n' within (by decide)⟩
  obtain ⟨text, free⟩ := joined parted
  obtain ⟨form, alone⟩ := joined likewise
  rw [same, form] at text
  exact (List.map_injective_iff.2 (fun _ _ => String.toList_inj.1)
    (Text.intercalate_inj (by decide) alone free text)).symm

private theorem unseparated_opening (parted : Parted name returned declared thrown) :
    Unseparated (("  public " ++ returned).toList ++ ' ' :: name.toList) := by
  have blank : Unseparated [' '] := by decide
  rw [String.toList_append]
  exact TypeTree.unseparated_append (TypeTree.unseparated_append (by decide) parted.returned)
    (TypeTree.unseparated_append blank parted.name.1)

/-- The brace behind a signature is the first one. -/
theorem unbraced_signature (parted : Parted name returned declared thrown) :
    '\x7b' ∉ (("  public " ++ returned).toList ++ ' ' :: name.toList) ++
      '(' :: ((parameterText name returned declared).toList ++
        ')' :: ((throwsClause thrown).toList ++ [' '])) := by
  intro member
  rcases List.mem_append.1 member with front | behind
  · exact unseparated_opening parted '\x7b' front (by decide)
  · simp only [List.mem_cons, List.mem_append, List.not_mem_nil, or_false] at behind
    rcases behind with mark | within | mark | clause | mark
    · exact absurd mark (by decide)
    · exact mem_parameterText parted within (by decide)
    · exact absurd mark (by decide)
    · exact unbraced_throwsClause thrown parted.thrown clause
    · exact absurd mark (by decide)

/-- The parts of a signature are known from a method that starts with it. -/
theorem parts_inj {statements more : List String} (parted : Parted name returned declared thrown)
    (likewise : Parted other result others raised)
    (same : Fragment.block (signatureText name "public" returned declared thrown) statements
        Fragment.indent =
      Fragment.block (signatureText other "public" result others raised) more Fragment.indent) :
    name = other ∧ returned = result ∧ declared = others ∧
      throwsClause thrown = throwsClause raised := by
  obtain ⟨rest, shape⟩ := block_shape name returned declared thrown statements
  obtain ⟨remainder, form⟩ := block_shape other result others raised more
  rw [same, form] at shape
  obtain ⟨signature, -⟩ := Text.cut_at_first (unbraced_signature likewise)
    (unbraced_signature parted) shape
  obtain ⟨front, behind⟩ := Text.cut_at_first
    (fun member => unseparated_opening likewise '(' member (by decide))
    (fun member => unseparated_opening parted '(' member (by decide)) signature
  obtain ⟨between, clause⟩ := Text.cut_at_first
    (fun member => mem_parameterText likewise member (by decide))
    (fun member => mem_parameterText parted member (by decide)) behind
  obtain ⟨results, names⟩ := Text.cut_at_last likewise.name.2 parted.name.2 front
  obtain rfl := String.toList_inj.1 names
  rw [String.toList_append, String.toList_append, List.append_cancel_left_eq] at results
  obtain rfl := String.toList_inj.1 results
  exact ⟨rfl, rfl, parameterText_inj parted likewise (String.toList_inj.1 between).symm,
    (String.toList_inj.1 (List.append_cancel_right clause)).symm⟩

end ClassDraft

namespace Delegate
open ClassDraft Imports

variable {first second method : MethodDecl} {owner? : String → Option String}

/-- The names of the method and of its parameters are identifiers, and its types are named
with their packages. -/
structure Regular (method : MethodDecl) : Prop where
  name : TypeTree.isIdentifier method.name.toList = true
  returns : method.returns.Packaged
  parameters : ∀ parameter ∈ method.parameters,
    TypeTree.isIdentifier parameter.name.toList = true ∧ parameter.type.Packaged
  throws : ∀ type ∈ method.throws, type.Packaged

private theorem identifier_parts {text : List Char}
    (identifier : TypeTree.isIdentifier text = true) :
    Unseparated text ∧ ' ' ∉ text := by
  have name : TypeTree.Name text := .single (TypeTree.isIdentifier_iff.1 identifier)
  refine ⟨TypeTree.unseparated_name name, fun member => ?_⟩
  have kept := TypeTree.not_blank_of_name_char (TypeTree.name_chars name ' ' member)
  exact absurd kept (by decide)

private theorem parted_of_regular (regular : Regular method) (owner? : String → Option String) :
    Parted method.name (method.returns.spelled (shortened owner?))
      (method.parameters.map (declaredParameter · (shortened owner?)))
      (method.throws.map (·.spelled (shortened owner?))) := by
  have spelled {type : TypeRef} (packaged : type.Packaged) :
      Unseparated (type.spelled (shortened owner?)).toList := by
    obtain ⟨wellFormed, written, -⟩ := TypeRef.spelledTree_of_packaged packaged owner?
    rw [written]
    exact TypeTree.unseparated_text wellFormed
  refine ⟨identifier_parts regular.name, spelled regular.returns, ?_, ?_⟩
  · intro text member
    obtain ⟨parameter, among, rfl⟩ := List.mem_map.1 member
    obtain ⟨identifier, packaged⟩ := regular.parameters parameter among
    refine ⟨by simp [declaredParameter], ?_⟩
    rw [declaredParameter, String.toList_append, String.toList_append]
    exact TypeTree.unseparated_append (TypeTree.unseparated_append (spelled packaged) (by decide))
      (identifier_parts identifier).1
  · intro text member
    obtain ⟨type, among, rfl⟩ := List.mem_map.1 member
    exact spelled (regular.throws type among)

theorem parameters_inj {parameters others : List ParameterDecl}
    (regular : ∀ parameter ∈ parameters,
      TypeTree.isIdentifier parameter.name.toList = true ∧ parameter.type.Packaged)
    (likewise : ∀ parameter ∈ others,
      TypeTree.isIdentifier parameter.name.toList = true ∧ parameter.type.Packaged)
    (same : parameters.map (declaredParameter · (shortened owner?)) =
      others.map (declaredParameter · (shortened owner?))) :
    parameters.map (·.type.parse) = others.map (·.type.parse) ∧
      parameters.map (·.name) = others.map (·.name) := by
  induction parameters generalizing others with
  | nil =>
    rw [List.map_nil, eq_comm, List.map_eq_nil_iff] at same
    subst same
    exact ⟨rfl, rfl⟩
  | cons parameter parameters ih =>
    cases others with
    | nil => cases same
    | cons other others =>
      obtain ⟨head, rest⟩ := List.cons.inj same
      obtain ⟨identifier, packaged⟩ := regular parameter List.mem_cons_self
      obtain ⟨named, qualified⟩ := likewise other List.mem_cons_self
      have shape (parameter : ParameterDecl) :
          (declaredParameter parameter (shortened owner?)).toList =
            (parameter.type.spelled (shortened owner?)).toList ++ ' ' :: parameter.name.toList := by
        simp [declaredParameter]
      have texts := congrArg String.toList head
      rw [shape, shape] at texts
      obtain ⟨type, name⟩ := Text.cut_at_last (identifier_parts identifier).2
        (identifier_parts named).2 texts
      obtain ⟨types, names⟩ := ih (fun parameter member => regular parameter (.tail _ member))
        (fun parameter member => likewise parameter (.tail _ member)) rest
      rw [List.map_cons, List.map_cons, List.map_cons, List.map_cons, types, names,
        String.toList_inj.1 name,
        TypeRef.parse_eq_of_spelled packaged qualified (String.toList_inj.1 type)]
      exact ⟨rfl, rfl⟩

theorem throws_inj {types others : List TypeRef} (packaged : ∀ type ∈ types, type.Packaged)
    (likewise : ∀ type ∈ others, type.Packaged)
    (same : throwsClause (types.map (·.spelled (shortened owner?))) =
      throwsClause (others.map (·.spelled (shortened owner?)))) :
    types.map TypeRef.parse = others.map TypeRef.parse := by
  cases types with
  | nil =>
    cases others with
    | nil => rfl
    | cons other others => simp [throwsClause] at same
  | cons type types =>
    cases others with
    | nil => simp [throwsClause] at same
    | cons other others =>
      have lists : Fragment.commaList ((type :: types).map (·.spelled (shortened owner?))) =
          Fragment.commaList ((other :: others).map (·.spelled (shortened owner?))) := by
        simpa [throwsClause] using same
      exact TypeRef.parses_eq_of_spelled (List.cons_ne_nil _ _) (List.cons_ne_nil _ _) packaged
        likewise lists

/-- **Nothing is lost in the text.** Methods are passed on by the same text only if they agree
in their names, the names and types of their parameters, their results and what they throw. -/
theorem agree_of_spelledDefinition_eq (regular : Regular first) (likewise : Regular second)
    (same : spelledDefinition first (shortened owner?) =
      spelledDefinition second (shortened owner?)) :
    profile first = profile second ∧ Agree first second := by
  obtain ⟨name, returned, declared, thrown⟩ := parts_inj (parted_of_regular regular owner?)
    (parted_of_regular likewise owner?) same
  obtain ⟨types, names⟩ := parameters_inj regular.parameters likewise.parameters declared
  exact ⟨Prod.ext name types, names,
    TypeRef.parse_eq_of_spelled regular.returns likewise.returns returned,
    throws_inj regular.throws likewise.throws thrown⟩

end Delegate

end DelegateClasses
