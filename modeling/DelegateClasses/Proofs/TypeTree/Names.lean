import DelegateClasses.Proofs.Text.Trimming
import DelegateClasses.TypeTree.Parser

/-! The names of the grammar of types: identifiers with single dots between
them. The reader's test of a name accepts exactly these. No character of a name
is a blank, a bracket, a comma or a wildcard mark, which is why the separators
around a name can be found without looking into it. -/
namespace DelegateClasses.TypeTree
open Text

/-- `Identifier` of the grammar. -/
def Identifier (text : List Char) : Prop :=
  ∃ first rest, text = first :: rest ∧ startsIdentifier first = true ∧
    ∀ c ∈ rest, continuesIdentifier c = true

/-- `Name` of the grammar: `Identifier ('.' Identifier)*`. -/
inductive Name : List Char → Prop where
  | single (identifier : Identifier text) : Name text
  | dotted (identifier : Identifier text) (others : Name rest) : Name (text ++ '.' :: rest)

/-- The characters that names are made of. -/
def NameChar (c : Char) : Prop :=
  continuesIdentifier c = true ∨ c = '.'

/-- The characters that the written form of a type has around names. -/
def marks : List Char := ['<', '>', ',', '?', '[', ']']

/-- The code points of all blanks. -/
private def blankCodes : List Nat :=
  [0x09, 0x0A, 0x0B, 0x0C, 0x0D, 0x1C, 0x1D, 0x1E, 0x1F, 0x20, 0x85, 0xA0, 0x1680, 0x2000, 0x2001,
    0x2002, 0x2003, 0x2004, 0x2005, 0x2006, 0x2007, 0x2008, 0x2009, 0x200A, 0x2028, 0x2029, 0x202F,
    0x205F, 0x3000]

private theorem blank_code_listed (blank : isBlank c = true) : c.toNat ∈ blankCodes := by
  simp only [isBlank, Bool.or_eq_true, Bool.and_eq_true, decide_eq_true_eq, beq_iff_eq] at blank
  simp only [blankCodes, List.mem_cons, List.not_mem_nil, or_false]
  omega

private theorem listed_code_in_no_name :
    ∀ code ∈ blankCodes, continuesIdentifier (Char.ofNat code) = false := by
  decide +kernel

/-- Names hold no blanks: the table of letters lists none. -/
theorem not_blank_of_name_char (char : NameChar c) : isBlank c = false := by
  rcases char with continues | rfl
  · cases blank : isBlank c with
    | false => rfl
    | true =>
      have refused := listed_code_in_no_name c.toNat (blank_code_listed blank)
      rw [Char.ofNat_toNat, continues] at refused
      cases refused
  · decide

/-- Names hold none of the marks that the written form of a type is made of. -/
theorem not_mark_of_name_char (char : NameChar c) : c ∉ marks := by
  intro marked
  rcases char with continues | rfl
  · have refused : marks.all (!continuesIdentifier ·) = true := by decide +kernel
    have outside := List.all_eq_true.1 refused c marked
    rw [continues] at outside
    cases outside
  · simp [marks] at marked

theorem not_mark_of_blank (blank : isBlank c = true) : c ∉ marks := by
  intro marked
  have refused : ∀ d ∈ marks, isBlank d = false := by simp [marks, isBlank]
  rw [refused c marked] at blank
  cases blank

private theorem continues_of_starts (starts : startsIdentifier c = true) :
    continuesIdentifier c = true := by
  simp only [startsIdentifier, Bool.or_eq_true, beq_iff_eq] at starts
  simp only [continuesIdentifier, isAlphanumeric, Char.isAlphanum, Bool.or_eq_true, beq_iff_eq]
  rcases starts with (letter | rfl) | rfl
  · exact .inl (.inl (.inl (.inl letter)))
  · exact .inl (.inr rfl)
  · exact .inr rfl

private theorem identifier_continues (identifier : Identifier text) :
    ∀ c ∈ text, continuesIdentifier c = true := by
  obtain ⟨first, rest, rfl, starts, continues⟩ := identifier
  intro c member
  rcases List.mem_cons.1 member with rfl | later
  · exact continues_of_starts starts
  · exact continues c later

theorem identifier_no_dot (identifier : Identifier text) : '.' ∉ text := by
  intro member
  have continues := identifier_continues identifier '.' member
  have refused : continuesIdentifier '.' = false := by decide +kernel
  rw [refused] at continues
  cases continues

theorem name_chars (name : Name text) : ∀ c ∈ text, NameChar c := by
  induction name with
  | single identifier => exact fun c member => .inl (identifier_continues identifier c member)
  | dotted identifier others ih =>
    intro c member
    simp only [List.mem_append, List.mem_cons] at member
    rcases member with first | rfl | later
    · exact .inl (identifier_continues identifier c first)
    · exact .inr rfl
    · exact ih c later

theorem name_ne_nil (name : Name text) : text ≠ [] := by
  cases name with
  | single identifier =>
    obtain ⟨first, rest, rfl, -⟩ := identifier
    simp
  | dotted identifier others => simp

private theorem identifier_head? (identifier : Identifier text) (rest : List Char) :
    (text ++ rest).head? ≠ some '.' := by
  intro found
  have free := identifier_no_dot identifier
  obtain ⟨first, others, rfl, -⟩ := identifier
  cases found
  exact free List.mem_cons_self

/-- No name starts with a dot. -/
theorem name_head? (name : Name text) : text.head? ≠ some '.' := by
  cases name with
  | single identifier => simpa using identifier_head? identifier []
  | dotted identifier others => exact identifier_head? identifier _

theorem name_tight (name : Name text) : Tight text :=
  ⟨fun c found => not_blank_of_name_char (name_chars name c (List.mem_of_head? found)),
    fun c found => not_blank_of_name_char (name_chars name c (List.mem_of_getLast? found))⟩

/-! ## The reader's test of a name -/

theorem isIdentifier_iff : isIdentifier text = true ↔ Identifier text := by
  cases text with
  | nil => simp [isIdentifier, Identifier]
  | cons c rest =>
    rw [isIdentifier, Bool.and_eq_true, List.all_eq_true]
    constructor
    · exact fun accepted => ⟨c, rest, rfl, accepted⟩
    · rintro ⟨_, _, same, accepted⟩
      cases same
      exact accepted

/-- Identifiers with dots between them are a name. -/
private theorem name_of_identifiers {words : List (List Char)} (nonempty : words ≠ [])
    (identifiers : ∀ word ∈ words, Identifier word) : Name (['.'].intercalate words) := by
  induction words with
  | nil => exact absurd rfl nonempty
  | cons first others ih =>
    have identifier := identifiers first List.mem_cons_self
    by_cases single : others = []
    · rw [single, List.intercalate_singleton]
      exact .single identifier
    · rw [List.intercalate_cons_of_ne_nil single, List.append_assoc]
      exact .dotted identifier
        (ih single fun word member => identifiers word (List.mem_cons_of_mem _ member))

/-- The test accepts exactly the names of the grammar. -/
theorem isTypeName_iff : isTypeName text = true ↔ Name text := by
  constructor
  · intro accepted
    have joined : ['.'].intercalate (text.splitOn '.') = text := List.intercalate_splitOn '.'
    rw [← joined]
    exact name_of_identifiers (List.splitOn_ne_nil _ _) fun word member =>
      isIdentifier_iff.1 (List.all_eq_true.1 accepted word member)
  · intro name
    induction name with
    | single identifier =>
      rw [isTypeName, List.splitOn_eq_singleton (identifier_no_dot identifier)]
      simpa using isIdentifier_iff.2 identifier
    | dotted identifier others ih =>
      rw [isTypeName, List.splitOn_append_cons_self_of_not_mem (identifier_no_dot identifier)]
      simpa [isTypeName] using ⟨isIdentifier_iff.2 identifier, by simpa [isTypeName] using ih⟩

/-- The names of the primitive types have the form of names. -/
theorem name_of_isPrimitive (primitive : DottedName.isPrimitive (String.ofList text) = true) :
    Name text := by
  have listed : String.ofList text ∈ DottedName.primitives := by
    simpa [DottedName.isPrimitive] using primitive
  have accepted : ∀ word ∈ DottedName.primitives, isTypeName word.toList = true := by
    decide +kernel
  simpa using isTypeName_iff.1 (accepted _ listed)

end DelegateClasses.TypeTree
