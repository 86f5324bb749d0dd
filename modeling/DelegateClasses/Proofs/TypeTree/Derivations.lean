import DelegateClasses.Proofs.TypeTree.Reading

/-! The reader and the grammar agree. Main statement: a text is read as a tree
exactly when it derives from the grammar, blanks around it allowed, by a
derivation of that tree; there is never a second derivation, and a text without
one is refused. -/
namespace DelegateClasses.TypeTree
open Text

/-- What stands in the brackets of a derived type is cut into the texts of its
arguments. -/
theorem splitArguments_of_derives
    (inside : (forms = [] ∧ Blanks content) ∨ DerivesList content forms) :
    Balanced content ∧ ∃ pairs : List (List Char × Form),
      splitArguments content = .ok (pairs.map Prod.fst) ∧ forms = pairs.map Prod.snd ∧
        ∀ pair ∈ pairs, Derives pair.1 pair.2 := by
  rcases inside with ⟨rfl, blanks⟩ | list
  · refine ⟨balanced_of_quiet (quiet_of_blanks blanks), [], ?_, rfl, by simp⟩
    rw [splitArguments, if_pos (blanks_iff_all.1 blanks)]
    rfl
  · obtain ⟨pairs, nonempty, rfl, rfl, each⟩ := derives_list_pairs list
    have argument := fun pair member =>
      padded_argument (fun _ => compact_of_derives) (each pair member)
    have parts : ∀ part ∈ pairs.map Prod.fst,
        Balanced part ∧ Undivided 0 part ∧ trim part ≠ [] := by
      intro part member
      obtain ⟨pair, among, rfl⟩ := List.mem_map.1 member
      obtain ⟨balanced, undivided, solid, -⟩ := argument pair among
      exact ⟨balanced, undivided, solid⟩
    have cut := splitArguments_commaJoined (pairs.map Prod.fst) (by simpa using nonempty)
      (fun part member => (parts part member).1) (fun part member => (parts part member).2.1)
      (fun part member => (parts part member).2.2)
    refine ⟨balanced_commaJoined _ fun part member => (parts part member).1,
      pairs.map fun pair => (trim pair.1, pair.2), ?_, by simp, ?_⟩
    · rw [cut]
      simp
    · intro pair member
      obtain ⟨given, among, rfl⟩ := List.mem_map.1 member
      exact (argument given among).2.2.2

theorem mapM_of_each {values : List α} {act : α → Except ε β} (result : α → β)
    (each : ∀ value ∈ values, act value = .ok (result value)) :
    values.mapM act = .ok (values.map result) := by
  induction values with
  | nil => rfl
  | cons value values ih =>
    rw [List.mapM_cons, each value (by simp),
      ih fun other member => each other (List.mem_cons_of_mem _ member)]
    rfl

theorem mapM_cons_eq_ok {act : α → Except ε β} (all : (value :: values).mapM act = .ok results) :
    ∃ first others, act value = .ok first ∧ values.mapM act = .ok others ∧
      results = first :: others := by
  rw [List.mapM_cons] at all
  cases first : act value with
  | error fault => rw [first] at all; cases all
  | ok result =>
    rw [first] at all
    cases rest : values.mapM act with
    | error fault => rw [rest] at all; cases all
    | ok others =>
      rw [rest] at all
      cases all
      exact ⟨result, others, rfl, rfl, rfl⟩

/-- A derived type is read as the tree of its derivation, whatever blanks stand
around it. -/
theorem readType_of_derives (derives : Derives core form) (trimmed : trim text = core) :
    readType text = .ok form.tree := by
  induction form generalizing text core with
  | plain name dimensions =>
    cases derives with
    | plain named ordinary suffixes =>
      rw [readType_name named suffixes trimmed, assemble_named named ordinary]
      rfl
  | primitive name dimensions =>
    cases derives with
    | primitive listed suffixes =>
      rw [readType_name (name_of_isPrimitive listed) suffixes trimmed, assemble_primitive listed]
      rfl
  | generic name arguments dimensions ih =>
    obtain ⟨space, content, rear, rfl, named, ordinary, gap, suffixes, inside⟩ :=
      derives_generic_parts derives
    obtain ⟨balanced, pairs, parts, rfl, each⟩ := splitArguments_of_derives inside
    have read : (pairs.map Prod.fst).mapM readType = .ok (pairs.map (·.2.tree)) := by
      rw [List.mapM_map]
      refine mapM_of_each _ fun pair member => ?_
      have type := each pair member
      exact ih pair.2 (List.mem_map_of_mem member) type
        (trim_of_tight (compact_of_derives type).tight)
    rw [readType_group named gap balanced suffixes trimmed parts read,
      assemble_named named ordinary, Form.tree, Form.trees_eq_map, List.map_map]
    rfl
  | wildcard =>
    cases derives
    exact readType_anything trimmed blanks_nil
  | bounded kind bound ih =>
    cases derives with
    | @bounded _ space between content _ word gap apart pause distinct type =>
      have compact := compact_of_derives type
      have found := splitBound_append word gap apart pause distinct compact.tight compact.nonempty
      rw [readType_bound trimmed found, ih type (trim_of_tight compact.tight)]
      rfl

theorem derives_padded_iff : DerivesPadded text form ↔ Derives (trim text) form := by
  constructor
  · exact fun padded => (padded_argument (fun _ => compact_of_derives) padded).2.2.2
  · intro derives
    obtain ⟨front, rear, before, after, shape⟩ := exists_padding text
    have padded := DerivesPadded.padded before derives after
    rwa [← shape] at padded

/-- Whatever tree is read from the text, the text derives by a derivation of it. -/
def Derived (text : List Char) : Prop :=
  ∀ tree, readType text = .ok tree → ∃ form, Derives (trim text) form ∧ form.tree = tree

/-- Arguments that are read one by one form a list of the grammar. -/
private theorem derives_list_of_read (parts : List (List Char)) (nonempty : parts ≠ [])
    (derived : ∀ part ∈ parts, Derived (trim part))
    (read : (parts.map trim).mapM readType = .ok trees) :
    ∃ forms, DerivesList (commaJoined parts) forms ∧ forms.map Form.tree = trees := by
  induction parts generalizing trees with
  | nil => exact absurd rfl nonempty
  | cons part parts ih =>
    rw [List.map_cons] at read
    obtain ⟨tree, others, first, rest, rfl⟩ := mapM_cons_eq_ok read
    obtain ⟨form, type, rfl⟩ := derived part (by simp) tree first
    rw [trim_trim] at type
    have padded := derives_padded_iff.2 type
    cases parts with
    | nil =>
      cases rest
      exact ⟨[form], .one padded, rfl⟩
    | cons next parts =>
      obtain ⟨forms, list, rfl⟩ := ih (by simp)
        (fun part member => derived part (List.mem_cons_of_mem _ member)) rest
      exact ⟨form :: forms, .more padded list, rfl⟩

/-- A part at the start of a trimmed text has no blanks before it. -/
private theorem trim_then_blanks (tight : Tight (before ++ rest)) :
    ∃ space, Blanks space ∧ before = trim before ++ space := by
  obtain ⟨front, rear, leading, trailing, shape⟩ := exists_padding before
  cases front with
  | nil => exact ⟨rear, trailing, shape⟩
  | cons c front =>
    have solid := tight.head c (by rw [shape]; rfl)
    rw [leading c (by simp)] at solid
    cases solid

private theorem derived_bound (marked : trim text = '?' :: rest)
    (found : splitBound rest = some (kind, content)) (bound : Derived content) : Derived text := by
  intro tree read
  rw [readType_bound marked found] at read
  cases boundRead : readType content with
  | error fault =>
    rw [boundRead] at read
    cases read
  | ok boundTree =>
    rw [boundRead] at read
    cases read
    have tight := tight_trim text
    rw [marked] at tight ⊢
    obtain ⟨space, between, word, gap, apart, pause, distinct, nonempty, starts, rfl⟩ :=
      splitBound_eq_some found
    rw [← List.cons_append] at tight
    have solid : Tight content := tight_of_append tight starts
    obtain ⟨form, type, rfl⟩ := bound boundTree boundRead
    rw [trim_of_tight solid] at type
    exact ⟨.bounded kind form, .bounded word gap apart pause distinct type, rfl⟩

/-- A name with brackets, read as a tree, derives by the rules for brackets. -/
theorem derives_of_group (tight : Tight (before ++ '<' :: (content ++ ['>']) ++ rear))
    (suffixes : Suffixes count rear) (parts : splitArguments content = .ok texts)
    (derived : ∀ part ∈ texts, Derived part) (all : texts.mapM readType = .ok trees)
    (name : Name (trim before))
    (ordinary : DottedName.isPrimitive (String.ofList (trim before)) = false) :
    ∃ form, Derives (before ++ '<' :: (content ++ ['>']) ++ rear) form ∧
      form.tree = named (String.ofList (trim before)) trees count := by
  rw [List.append_assoc] at tight
  obtain ⟨space, gap, spelled⟩ := trim_then_blanks tight
  rcases splitArguments_eq_ok parts with ⟨blanks, rfl⟩ | ⟨pieces, nonempty, rfl, rfl⟩
  · obtain rfl : [] = trees := Except.ok.inj all
    refine ⟨.generic (trim before) [] count, ?_, by rw [Form.tree, Form.trees]⟩
    have derives := Derives.empty name ordinary gap blanks suffixes
    rwa [← spelled] at derives
  · obtain ⟨forms, list, rfl⟩ := derives_list_of_read pieces nonempty
      (fun part member => derived (trim part) (List.mem_map_of_mem member)) all
    refine ⟨.generic (trim before) forms count, ?_, by rw [Form.tree, Form.trees_eq_map]⟩
    have derives := Derives.generic name ordinary gap list suffixes
    rwa [← spelled] at derives

private theorem derived_arguments (grouped : Grouped text count base before content)
    (parts : splitArguments content = .ok texts) (derived : ∀ part ∈ texts, Derived part) :
    Derived text := by
  intro tree read
  rw [grouped.readType_eq, parts] at read
  simp only at read
  split at read
  · cases read
  · next trees all =>
    have tight := tight_trim text
    obtain ⟨rear, suffixes, shape⟩ := splitSuffixes_eq grouped.cut
    rw [shape, grouped.shape] at tight ⊢
    rcases assemble_eq_ok read with ⟨-, plain, -⟩ | ⟨ordinary, name, rfl⟩
    · cases plain
    · exact derives_of_group tight suffixes parts derived all name ordinary

private theorem derived_plain (ordinary : ∀ rest, trim text ≠ '?' :: rest)
    (cut : splitSuffixes (trim text) = (count, base)) (bare : base.getLast? ≠ some '>') :
    Derived text := by
  intro tree read
  rw [readType_plain ordinary cut bare] at read
  obtain ⟨rear, suffixes, shape⟩ := splitSuffixes_eq cut
  rw [shape]
  rcases assemble_eq_ok read with ⟨listed, -, rfl⟩ | ⟨ordinary, name, rfl⟩
  · exact ⟨.primitive base count, .primitive listed suffixes, by rw [Form.tree]⟩
  · exact ⟨.plain base count, .plain name ordinary suffixes, by rw [Form.tree]⟩

/-- Every tree that is read has a derivation. -/
theorem derived_all (text : List Char) : Derived text := by
  induction text using readType_induction with
  | anything marked blanks =>
    intro tree read
    cases (readType_anything marked blanks).symm.trans read
    rw [marked, eq_nil_of_blanks_behind marked blanks]
    exact ⟨.wildcard, .wildcard, rfl⟩
  | unbound marked more lost =>
    intro tree read
    cases (readType_unbound marked more lost).symm.trans read
  | bound marked found ih => exact derived_bound marked found ih
  | unopened ordinary cut closed lost =>
    intro tree read
    cases (readType_unopened ordinary cut closed lost).symm.trans read
  | uncut grouped refused =>
    intro tree read
    rw [grouped.readType_eq, refused] at read
    cases read
  | arguments grouped parts ih => exact derived_arguments grouped parts ih
  | plain ordinary cut bare => exact derived_plain ordinary cut bare

/-! ## There is one derivation -/

theorem map_snd_eq {pairs others : List (α × β)}
    (same : pairs.map Prod.fst = others.map Prod.fst)
    (unique : ∀ pair ∈ pairs, ∀ other ∈ others, pair.1 = other.1 → pair.2 = other.2) :
    pairs.map Prod.snd = others.map Prod.snd := by
  induction pairs generalizing others with
  | nil =>
    cases others with
    | nil => rfl
    | cons other others => cases same
  | cons pair pairs ih =>
    cases others with
    | nil => cases same
    | cons other others =>
      obtain ⟨first, rest⟩ := List.cons.inj same
      rw [List.map_cons, List.map_cons, unique pair (by simp) other (by simp) first,
        ih rest fun pair member other among =>
          unique pair (List.mem_cons_of_mem _ member) other (List.mem_cons_of_mem _ among)]

/-- The brackets of a type are found at one place only. -/
private theorem group_unique (name : Name written) (gap : Blanks space) (inside : Balanced content)
    (suffixes : Suffixes count rear) (otherName : Name other) (otherGap : Blanks otherSpace)
    (otherInside : Balanced otherContent) (otherSuffixes : Suffixes otherCount otherRear)
    (same : written ++ space ++ '<' :: (content ++ ['>']) ++ rear =
      other ++ otherSpace ++ '<' :: (otherContent ++ ['>']) ++ otherRear) :
    content = otherContent := by
  have ends : ∀ front group : List Char,
      (front ++ '<' :: (group ++ ['>'])).getLast? ≠ some ']' := by
    intro front group
    simp [List.getLast?_cons]
  have first := splitSuffixes_append (compact_group name gap inside).tight (ends _ _) suffixes
  have second := splitSuffixes_append (compact_group otherName otherGap otherInside).tight
    (ends _ _) otherSuffixes
  rw [same, second] at first
  have found := splitLastGroup_group inside (written ++ space)
  rw [← (Prod.mk.inj first).2, splitLastGroup_group otherInside] at found
  exact (Prod.mk.inj (Option.some.inj found)).2.symm

/-- A name that derives with brackets differs from one without: its text holds one. -/
theorem plain_not_generic (plain : Derives text (.plain written count))
    (generic : Derives text (.generic other given otherCount)) : False := by
  obtain ⟨space, content, rear, shape, -⟩ := derives_generic_parts generic
  cases plain with
  | plain name ordinary suffixes =>
    have quiet := quiet_append (quiet_of_name name) (quiet_of_suffixes suffixes)
    exact quiet '<' (by rw [shape]; simp) (by decide)

/-- A wildcard is not named like a primitive type. -/
theorem wildcard_not_primitive (primitive : Derives text (.primitive written count)) :
    String.ofList written ≠ wildcardName := by
  intro same
  cases primitive with
  | primitive listed suffixes =>
    rw [same] at listed
    cases listed

theorem named_inj (same : named first given count = named second others amount) :
    first = second ∧ given = others ∧ count = amount := by
  simp only [named, mk.injEq, Option.some.injEq, Int.ofNat_inj] at same
  exact ⟨same.2.1, same.2.2.1, same.2.2.2.1⟩

theorem primitive_inj (same : primitive first count = primitive second amount) :
    first = second ∧ count = amount := by
  simp only [primitive, mk.injEq, Int.ofNat_inj] at same
  exact ⟨same.1, same.2.2.2.1⟩

/-- Derivations of one text stand for the same tree, the one that is read. -/
theorem same_tree_of_derives (first : Derives text form) (second : Derives text other) :
    form.tree = other.tree := by
  have solid := trim_of_tight (compact_of_derives first).tight
  exact Except.ok.inj
    ((readType_of_derives first solid).symm.trans (readType_of_derives second solid))

/-- The arguments of a type are found in one way, if each of them is. -/
private theorem arguments_unique
    (each : ∀ argument ∈ given, ∀ core other, Derives core argument → Derives core other →
      argument = other)
    (first : Derives text (.generic written given count))
    (second : Derives text (.generic otherWritten others otherCount)) : given = others := by
  obtain ⟨space, content, rear, rfl, name, -, gap, suffixes, inside⟩ := derives_generic_parts first
  obtain ⟨otherSpace, otherContent, otherRear, same, otherName, -, otherGap, otherSuffixes,
    otherInside⟩ := derives_generic_parts second
  obtain ⟨balanced, pairs, parts, rfl, types⟩ := splitArguments_of_derives inside
  obtain ⟨otherBalanced, otherPairs, otherParts, rfl, otherTypes⟩ :=
    splitArguments_of_derives otherInside
  obtain rfl := group_unique name gap balanced suffixes otherName otherGap otherBalanced
    otherSuffixes same
  rw [otherParts] at parts
  refine map_snd_eq (Except.ok.inj parts).symm fun pair member other among texts => ?_
  have type := otherTypes other among
  rw [← texts] at type
  exact each pair.2 (List.mem_map_of_mem member) _ _ (types pair member) type

/-- The bound of a wildcard is found in one way, if it is itself. -/
private theorem bound_unique
    (unique : ∀ core other, Derives core content → Derives core other → content = other)
    (first : Derives text (.bounded kind content))
    (second : Derives text (.bounded otherKind other)) : kind = otherKind ∧ content = other := by
  obtain ⟨space, between, written, rfl, word, gap, apart, pause, distinct, type⟩ :=
    derives_bounded_parts first
  obtain ⟨otherSpace, otherBetween, otherWritten, same, otherWord, otherGap, otherApart, otherPause,
    otherDistinct, otherType⟩ := derives_bounded_parts second
  have solid := compact_of_derives type
  have otherSolid := compact_of_derives otherType
  have cut := splitBound_append word gap apart pause distinct solid.tight solid.nonempty
  rw [(List.cons.inj same).2, splitBound_append otherWord otherGap otherApart otherPause
    otherDistinct otherSolid.tight otherSolid.nonempty] at cut
  obtain ⟨rfl, rfl⟩ := Prod.mk.inj (Option.some.inj cut)
  exact ⟨rfl, unique _ _ type otherType⟩

/-- A text derives in one way at most. -/
theorem derives_unique (first : Derives text form) (second : Derives text other) :
    form = other := by
  have same := same_tree_of_derives first second
  induction form generalizing text other with
  | plain name dimensions =>
    cases other with
    | plain =>
      obtain ⟨names, -, rfl⟩ := named_inj same
      rw [String.ofList_injective names]
    | generic => exact (plain_not_generic first second).elim
    | primitive | wildcard | bounded =>
      simp [Form.tree, named, primitive, anything, bounded] at same
  | generic name given dimensions ih =>
    cases other with
    | plain => exact (plain_not_generic second first).elim
    | generic =>
      obtain ⟨names, -, rfl⟩ := named_inj same
      have given := arguments_unique (fun argument member _ _ type others =>
        ih argument member type others (same_tree_of_derives type others)) first second
      rw [String.ofList_injective names, given]
    | primitive | wildcard | bounded =>
      simp [Form.tree, named, primitive, anything, bounded] at same
  | primitive name dimensions =>
    cases other with
    | primitive =>
      obtain ⟨names, rfl⟩ := primitive_inj same
      rw [String.ofList_injective names]
    | wildcard => exact absurd (congrArg TypeTree.name same) (wildcard_not_primitive first)
    | plain | generic | bounded => simp [Form.tree, named, primitive, bounded] at same
  | wildcard =>
    cases other with
    | primitive =>
      exact absurd (congrArg TypeTree.name same.symm) (wildcard_not_primitive second)
    | wildcard => rfl
    | plain | generic | bounded => simp [Form.tree, named, anything, bounded] at same
  | bounded kind bound ih =>
    cases other with
    | plain | generic | primitive | wildcard =>
      simp [Form.tree, named, primitive, anything, bounded] at same
    | bounded =>
      obtain ⟨rfl, rfl⟩ := bound_unique (fun _ _ type others =>
        ih type others (same_tree_of_derives type others)) first second
      rfl

/-! ## The whole reader -/

theorem parse_of_balanced (solid : trim descriptor.toList ≠ [])
    (balanced : Balanced (trim descriptor.toList)) :
    parse descriptor = readType (trim descriptor.toList) := by
  simp [parse, solid, checkBalance_eq_ok_iff.2 balanced]

/-- What derives from the grammar is read as the tree of its derivation. -/
theorem parse_of_derives (derives : DerivesPadded descriptor.toList form) :
    parse descriptor = .ok form.tree := by
  have type := derives_padded_iff.1 derives
  have compact := compact_of_derives type
  rw [parse_of_balanced compact.nonempty compact.balanced]
  exact readType_of_derives type (trim_trim _)

/-- What is read derives from the grammar, as the tree that is read. -/
theorem derives_of_parse (read : parse descriptor = .ok tree) :
    ∃ form, DerivesPadded descriptor.toList form ∧ form.tree = tree := by
  simp only [parse] at read
  split at read
  · cases read
  · split at read
    · cases read
    · obtain ⟨form, type, same⟩ := derived_all _ tree read
      rw [trim_trim] at type
      exact ⟨form, derives_padded_iff.2 type, same⟩

/-- The reader accepts exactly the texts of the grammar, each by its only
derivation, and refuses all others with a fault. -/
theorem parse_accepts_exactly_the_grammar (descriptor : String) :
    (∀ tree, parse descriptor = .ok tree ↔
      ∃ form, DerivesPadded descriptor.toList form ∧ form.tree = tree) ∧
    (∀ form other, DerivesPadded descriptor.toList form → DerivesPadded descriptor.toList other →
      form = other) ∧
    ((∃ fault, parse descriptor = .error fault) ↔
      ¬∃ form, DerivesPadded descriptor.toList form) := by
  refine ⟨fun tree => ⟨derives_of_parse, ?_⟩, ?_, ?_⟩
  · rintro ⟨form, derives, rfl⟩
    exact parse_of_derives derives
  · intro form other first second
    exact derives_unique (derives_padded_iff.1 first) (derives_padded_iff.1 second)
  · constructor
    · rintro ⟨fault, refused⟩ ⟨form, derives⟩
      rw [parse_of_derives derives] at refused
      cases refused
    · intro underivable
      cases read : parse descriptor with
      | error fault => exact ⟨fault, rfl⟩
      | ok tree =>
        obtain ⟨form, derives, -⟩ := derives_of_parse read
        exact absurd ⟨form, derives⟩ underivable

end DelegateClasses.TypeTree
