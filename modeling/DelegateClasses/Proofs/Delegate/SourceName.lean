import DelegateClasses.Proofs.Delegate.Failures
import DelegateClasses.Proofs.TypeTree.Faults

/-! What is checked of the name of a class. Only the text before its first bracket is looked
at; it needs a dot, and has to be the written form of some type. So the names of arrays, those
of wildcards and all that follows a bracket go unnoticed. Main statement: a class is generated
only under a name that passes this check, one that does not pass fails by itself, and names
without brackets and question marks pass just when they name a type in a package. -/
namespace DelegateClasses

namespace TypeTree
open Text

variable {text rear : List Char} {count : Nat} {form : Form} {word descriptor : String}

/-- The written form stands for a named type in a package, and for no array of it. -/
def NamesClass (written : String) : Prop :=
  ∃ full given, parse written = .ok (named full given 0) ∧ DottedName.isQualified full = true

private theorem suffixes_of_no_bracket (suffixes : Suffixes count rear) (free : '[' ∉ rear) :
    count = 0 := by
  cases suffixes with
  | none => rfl
  | more others gap => simp at free

/-- A written form with a dot and without type arguments names a type, or bounds a wildcard. -/
private theorem form_of_dotted (derives : Derives text form) (dotted : '.' ∈ text)
    (free : '<' ∉ text) :
    (∃ written count, form = .plain written count ∧ '.' ∈ written ∧ ('[' ∉ text → count = 0)) ∨
      ∃ kind bound rest, form = .bounded kind bound ∧ text = '?' :: rest := by
  cases derives with
  | @plain written count rear name ordinary suffixes =>
    refine .inl ⟨written, count, rfl, ?_, fun none => ?_⟩
    · rcases List.mem_append.1 dotted with inside | behind
      · exact inside
      · rcases suffixes_chars suffixes '.' behind with blank | mark
        · exact absurd blank (by decide)
        · exact absurd mark (by decide)
    · exact suffixes_of_no_bracket suffixes fun member => none (List.mem_append_right _ member)
  | empty => simp at free
  | generic => simp at free
  | primitive listed suffixes =>
    rcases List.mem_append.1 dotted with inside | behind
    · have plain := DottedName.isQualified_of_isPrimitive listed
      exact absurd inside (by simpa using DottedName.isQualified_eq_false_iff.1 plain)
    · rcases suffixes_chars suffixes '.' behind with blank | mark
      · exact absurd blank (by decide)
      · exact absurd mark (by decide)
  | wildcard => exact absurd dotted (by decide)
  | bounded => exact .inr ⟨_, _, _, rfl, rfl⟩

private theorem withoutArguments_unbracketed (descriptor : String) :
    '<' ∉ trim (descriptor.toList.takeWhile (· != '<')) := by
  intro member
  have kept : (descriptor.toList.takeWhile (· != '<')).all (· != '<') = true := List.all_takeWhile
  have apart := List.all_eq_true.1 kept '<' ((trim_within _).subset member)
  simp at apart

/-- A type that is written with a dot in front of the first bracket is a named type in a
package, or an array of it, or a wildcard with a bound. -/
private theorem parse_dotted (read : parse (withoutArguments descriptor) = .ok tree)
    (dotted : DottedName.isQualified (withoutArguments descriptor) = true) :
    (∃ full dimensions, tree = named full [] dimensions ∧ DottedName.isQualified full = true) ∨
      ∃ kind bound, tree = bounded kind bound := by
  obtain ⟨form, padded, rfl⟩ := derives_of_parse read
  rw [withoutArguments, String.toList_ofList] at padded
  have derives := derives_padded_iff.1 padded
  rw [trim_trim] at derives
  have inside : '.' ∈ trim (descriptor.toList.takeWhile (· != '<')) := by
    simpa [DottedName.isQualified, withoutArguments] using dotted
  rcases form_of_dotted derives inside (withoutArguments_unbracketed descriptor) with
    ⟨written, count, rfl, within, -⟩ | ⟨kind, bound, -, rfl, -⟩
  · exact .inl ⟨_, count, rfl, by simpa [DottedName.isQualified] using within⟩
  · exact .inr ⟨kind, bound.tree, rfl⟩

/-- Without brackets and question marks it is a named type in a package. -/
private theorem namesClass_of_unmarked (read : parse (withoutArguments descriptor) = .ok tree)
    (dotted : DottedName.isQualified (withoutArguments descriptor) = true)
    (unmarked : ∀ mark ∈ ['<', '[', '?'], mark ∉ descriptor.toList) : NamesClass descriptor := by
  obtain ⟨form, padded, rfl⟩ := derives_of_parse read
  have whole : descriptor.toList.takeWhile (· != '<') = descriptor.toList :=
    takeWhile_of_all (passed_of_not_mem (unmarked '<' (by simp)))
  rw [withoutArguments, String.toList_ofList, whole] at padded
  have derives := derives_padded_iff.1 padded
  rw [trim_trim] at derives
  have free (mark : Char) (marked : mark ∈ ['<', '[', '?']) : mark ∉ trim descriptor.toList :=
    fun member => unmarked mark marked ((trim_within _).subset member)
  have inside : '.' ∈ trim descriptor.toList := by
    simpa [DottedName.isQualified, withoutArguments, whole] using dotted
  rcases form_of_dotted derives inside (free '<' (by simp)) with
    ⟨written, count, rfl, within, flat⟩ | ⟨kind, bound, rest, rfl, shape⟩
  · obtain rfl := flat (free '[' (by simp))
    exact ⟨_, [], parse_of_derives (derives_padded_iff.2 derives),
      by simpa [DottedName.isQualified] using within⟩
  · refine absurd ?_ (free '?' (by simp))
    rw [shape]
    exact List.mem_cons_self

/-- The name of a type in a package is read in front of the first bracket. -/
private theorem parse_of_namesClass (names : NamesClass descriptor) :
    DottedName.isQualified (withoutArguments descriptor) = true ∧
      ∃ tree, parse (withoutArguments descriptor) = .ok tree := by
  obtain ⟨full, given, read, dotted⟩ := names
  rw [withoutArguments_of_parse read]
  exact ⟨dotted, _, (Delegate.parse_of_name read).1⟩

end TypeTree

namespace ClassDraft
open Steps

variable {draft : ClassDraft} {source : TypeRef} {place : String} {fault : Malformed}

/-- A class is not started if the name of what it wraps is not that of a type. -/
private theorem startWrapping_unread (name : String) (owned : source.package? = some place)
    (unwritten : Unwritten none draft)
    (unread : TypeTree.parse source.qualifiedName = .error fault) :
    ∃ after, startWrapping source name draft = .error (.malformedType fault) after := by
  rw [startWrapping, owned]
  simp only
  rw [bind_of_ok (startPackage_of_unwritten unwritten place), get_bind]
  have opened : requireOpen { draft with package := some place } =
      .ok ⟨⟩ { draft with package := some place } := requireOpen_of_open unwritten.unfinished
  have titled : startClass (Fragment.classLine draft.className "public")
      { draft with package := some place } = .ok ⟨⟩ { draft with
        package := some place
        classLine := some (Fragment.classLine draft.className "public") } := by
    rw [startClass, bind_of_ok opened]
    rfl
  have refused (now : ClassDraft) (open_ : now.ended = false) :
      renderType ⟨source.qualifiedName⟩ now = .error (.malformedType fault) now := by
    rw [renderType, bind_of_ok (requireOpen_of_open open_), TypeRef.parse, unread]
    rfl
  have taken (member : String) (now : ClassDraft) :
      bind member now = .ok ⟨⟩ { now with imports := (now.imports.bind member).2 } := rfl
  rw [bind_of_ok titled, bind_of_ok (taken _ _)]
  refine ⟨_, bind_of_error (refused _ ?_)⟩
  exact unwritten.unfinished

end ClassDraft

namespace Delegate
open FileTree Steps Processing

variable {settings : Settings} {world : World State} {declared : ClassDecl} {text : String}
variable {session : Session State}

/-- What the name of a class needs: a dot in front of the first bracket, and that the text
there is the written form of a type. -/
def Accepted (declared : ClassDecl) : Prop :=
  DottedName.isQualified declared.type.qualifiedName = true ∧
    ∃ tree, TypeTree.parse declared.type.qualifiedName = .ok tree

/-- The package of a class whose name is not accepted is known only if the name is malformed. -/
theorem malformed_of_unaccepted {package : String} (refused : ¬ Accepted declared)
    (owned : declared.package? = some package) :
    ∃ fault, TypeTree.parse declared.type.qualifiedName = .error fault := by
  have dotted : DottedName.isQualified declared.type.qualifiedName = true := by
    by_contra bare
    rw [ClassDecl.package?, TypeRef.package?, DottedName.package?, if_neg bare] at owned
    cases owned
  cases read : TypeTree.parse declared.type.qualifiedName with
  | error fault => exact ⟨fault, rfl⟩
  | ok tree => exact absurd ⟨dotted, tree, read⟩ refused

/-- The file of such a class is made, but then its first part fails. -/
private theorem startDraft_unread (settings : Settings) {fault : Malformed} {package : String}
    {directory : Path} {opened : World State} (owned : declared.package? = some package)
    (unread : TypeTree.parse declared.type.qualifiedName = .error fault)
    (begun : begin (outputPath directory package (world.own.generatedName declared))
      (world.own.generatedName declared) world = .ok ⟨⟩ opened) :
    ∃ last, startDraft settings declared opened = .error (.malformedType fault) last := by
  obtain ⟨place, draft, -, here, unwritten⟩ := targetOf_begun begun
  -- The class line is written before the type is read.
  obtain ⟨left, stopped⟩ :=
    ClassDraft.startWrapping_unread Fragment.wrappedName owned unwritten unread
  obtain ⟨last, failed⟩ : ∃ last,
      drafting (ClassDraft.startWrapping declared.type Fragment.wrappedName) opened =
        .error (.malformedType fault) last := by
    rw [At] at here
    simp only [drafting, here, stopped]
    exact ⟨_, rfl⟩
  exact ⟨last, bind_of_error failed⟩

/-- A class whose name is not accepted is not started. -/
theorem startClass_unaccepted (ordinary : declared.kind ≠ .enum) (refused : ¬ Accepted declared)
    (settings : Settings) (world : World State) (text : String) :
    ∃ failure after, generator.startClass settings declared (.outside (.ofText text)) world =
        .error failure after ∧
      (Nameable text → Nameable world.own.suffix → Nameable declared.name → failure.OfClass) := by
  have start := startClass_outside settings declared (.ofText text) world
  change ∃ failure after, startClass settings declared (.outside (.ofText text)) world = _ ∧ _
  generalize startClass settings declared (.outside (.ofText text)) world = result at start ⊢
  cases start with
  | enum kind noted => exact absurd kind ordinary
  | homeless bare => exact ⟨_, _, rfl, fun _ _ _ => .noPackage _⟩
  | unopened owned unopened =>
    exact ⟨_, _, rfl, fun top suffix named => begin_expected top named suffix owned unopened⟩
  | @undrafted package failure opened last owned begun failed =>
    obtain ⟨fault, unread⟩ := malformed_of_unaccepted refused owned
    obtain ⟨middle, stopped⟩ := startDraft_unread settings owned unread begun
    cases failed.symm.trans stopped
    exact ⟨_, _, rfl, fun _ _ _ => .malformedType fault⟩
  | drafted owned begun worked =>
    obtain ⟨fault, unread⟩ := malformed_of_unaccepted refused owned
    obtain ⟨middle, stopped⟩ := startDraft_unread settings owned unread begun
    cases worked.symm.trans stopped

/-- **A class is generated under a name that is accepted, and fails under any other.** Every
name of a type in a package is accepted. A name that is accepted is, up to its first bracket,
that of a type in a package, or of an array of it, or a wildcard with a bound; if it holds
neither brackets nor question marks, it is the name of a type in a package. -/
theorem class_name_checked_up_to_bracket (text : String)
    (fresh : declared.name ∉ session.ledger.generated) (ordinary : declared.kind ≠ .enum) :
    let visited := visitClass generator (.outside (.ofText text)) declared session
    (TypeTree.NamesClass declared.name → Accepted declared) ∧
    (Accepted declared →
      (∃ full dimensions,
        TypeTree.parse declared.type.qualifiedName = .ok (.named full [] dimensions) ∧
        DottedName.isQualified full = true) ∨
      ∃ kind bound, TypeTree.parse declared.type.qualifiedName = .ok (.bounded kind bound)) ∧
    (Accepted declared → (∀ mark ∈ ['<', '[', '?'], mark ∉ declared.name.toList) →
      TypeTree.NamesClass declared.name) ∧
    (∀ after, visited = .ok ⟨⟩ after → Accepted declared) ∧
    (Nameable text → Nameable session.world.own.suffix → Nameable declared.name →
      ¬ Accepted declared →
        ∃ failure after, visited = .error failure after ∧ failure.isIsolated = true) := by
  intro visited
  refine ⟨TypeTree.parse_of_namesClass, ?_, ?_, ?_, ?_⟩
  · rintro ⟨dotted, tree, read⟩
    rcases TypeTree.parse_dotted read dotted with
      ⟨full, dimensions, rfl, within⟩ | ⟨kind, bound, rfl⟩
    · exact .inl ⟨full, dimensions, read, within⟩
    · exact .inr ⟨kind, bound, read⟩
  · rintro ⟨dotted, tree, read⟩
    exact TypeTree.namesClass_of_unmarked read dotted
  · intro after ran
    by_contra refused
    obtain ⟨failure, last, stopped, -⟩ := startClass_unaccepted ordinary refused
      session.ledger.settings (asked declared session) text
    cases ran.symm.trans (visitClass_refused fresh stopped)
  · intro top suffix named refused
    obtain ⟨failure, last, stopped, expected⟩ := startClass_unaccepted ordinary refused
      session.ledger.settings (asked declared session) text
    exact ⟨failure, _, visitClass_refused fresh stopped, (expected top suffix named).isolated⟩

/-- An identifier cannot start with a digit, so the class fails by itself. -/
theorem class_with_digit_in_front_fails :
    let item : ClassDecl := ⟨"a.1Item", .ordinary, none, ["public"], []⟩
    let session : Session State :=
      ⟨.start .empty, ⟨⟨[], []⟩, .empty, .start defaultSuffix .never⟩⟩
    item.name ∉ session.ledger.generated ∧ item.kind ≠ .enum ∧
    ∃ failure after,
      visitClass generator (.outside (.ofText "out")) item session = .error failure after ∧
      failure.isIsolated = true := by
  intro item session
  have refused : ¬ Accepted item := by
    rintro ⟨-, tree, read⟩
    have wrong : (TypeTree.parse item.type.qualifiedName).toOption.isNone = true := by
      decide +kernel
    rw [read] at wrong
    cases wrong
  have fresh : item.name ∉ session.ledger.generated := List.not_mem_nil
  exact ⟨fresh, by decide, (class_name_checked_up_to_bracket "out" fresh (by decide)).2.2.2.2
    (by decide) (by decide +kernel) (by decide +kernel) refused⟩

/-- What follows the bracket is no type, and the class is generated all the same; so are one
whose name is that of an array and one whose name is a wildcard. -/
theorem unclosed_name_generated :
    let session : Session State :=
      ⟨.start .empty, ⟨⟨[], []⟩, .empty, .start defaultSuffix .never⟩⟩
    ∀ name ∈ ["a.Box<T", "a.Box[]", "? extends a.Box"],
      let box : ClassDecl := ⟨name, .ordinary, none, ["public"], []⟩
      ¬ TypeTree.NamesClass name ∧
      ∃ after, visitClass generator (.outside (.ofText "out")) box session = .ok ⟨⟩ after ∧
        after.ledger.generated = [name] := by
  intro session name listed box
  have read : (TypeTree.parse name).toOption.any
      (fun tree => tree.dimensions == 0 && tree.boundKind.isNone) = false := by
    revert name
    decide +kernel
  have ran : let visited := visitClass generator (.outside (.ofText "out")) box session
      value? visited = some ⟨⟩ ∧ (left visited).ledger.generated = [name] := by
    revert name
    decide +kernel
  refine ⟨fun ⟨full, given, names, _⟩ => ?_, _, eq_ok_of_value? ran.1, ran.2⟩
  rw [names] at read
  cases read

end Delegate

end DelegateClasses
