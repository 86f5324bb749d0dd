import DelegateClasses.Proofs.CommandLine.Rounds

/-! Classes that are declared more than once. The index keeps the last declaration of a name.
A class is generated from the first declaration that comes to an end, since a name that was
entered is passed over from then on. Main statement: both, for a run on any models. -/
namespace DelegateClasses

namespace Delegate
open Steps Processing

variable {directory : Path} {classes done : List ClassDecl} {declared : ClassDecl} {name : String}
variable {start session after : Session State} {result next : RoundResult}

/-- A name that a round generates is that of a class whose visit entered it. Before it the
round has only enums of this name. -/
structure Origin (directory : Path) (classes : List ClassDecl) (name : String)
    (front : List ClassDecl) (declared : ClassDecl) (before visited : Session State) : Prop where
  place : ∃ back, classes = front ++ declared :: back
  named : declared.name = name
  first : ∀ other ∈ front, other.name = name → other.kind = .enum
  fresh : name ∉ before.ledger.generated
  visits : visitClass generator (.outside directory) declared before = .ok ⟨⟩ visited
  entered : visited.ledger.generated = before.ledger.generated ++ [name]

/-- What became of a class: it is an enum, its name is entered, or a class of its name failed
in the round. -/
def Settles (session : Session State) (result : RoundResult) (declared : ClassDecl) : Prop :=
  declared.kind = .enum ∨ declared.name ∈ session.ledger.generated ∨
    result.failed declared.name = true

/-- Some classes of a round had their turn. -/
structure Progress (directory : Path) (start : Session State) (done : List ClassDecl)
    (result : RoundResult) (session : Session State) : Prop where
  steady : Steady start session
  books : session.ledger.generated = start.ledger.generated ++ result.generated
  settles : ∀ declared ∈ done, Settles session result declared
  origin : ∀ name ∈ result.generated, name ∉ start.ledger.generated ∧
    ∃ front declared before visited, Origin directory done name front declared before visited

theorem origin_concat {front : List ClassDecl} {before visited : Session State}
    (origin : Origin directory done name front declared before visited) (last : ClassDecl) :
    Origin directory (done ++ [last]) name front declared before visited := by
  obtain ⟨⟨back, rfl⟩, named, first, fresh, visits, entered⟩ := origin
  exact ⟨⟨back ++ [last], by simp⟩, named, first, fresh, visits, entered⟩

theorem settles_mono (settles : Settles session result declared)
    (books : session.ledger.generated ⊆ after.ledger.generated)
    (failed : ∀ name, result.failed name = true → next.failed name = true) :
    Settles after next declared :=
  settles.imp_right (.imp (fun listed => books listed) (failed _))

/-- A class whose name is not entered is an enum, or a class of its name failed. -/
private theorem settles_fresh (settles : Settles session result declared)
    (named : declared.name = name) (fresh : name ∉ session.ledger.generated) :
    declared.kind = .enum ∨ result.failed name = true := by
  rcases settles with enum | listed | failed
  · exact .inl enum
  · rw [named] at listed
    exact absurd listed fresh
  · rw [named] at failed
    exact .inr failed

/-- The class that enters its name is the first one of its name that is no enum. -/
theorem origin_entered (progress : Progress directory start done result session)
    (spared : result.failed declared.name = false)
    (fresh : declared.name ∉ session.ledger.generated) {visited : Session State}
    (visits : visitClass generator (.outside directory) declared
      (noted ("Processing " ++ declared.name) session) = .ok ⟨⟩ visited)
    (entered : visited.ledger.generated = session.ledger.generated ++ [declared.name]) :
    declared.name ∉ start.ledger.generated ∧
      Origin directory (done ++ [declared]) declared.name done declared
        (noted ("Processing " ++ declared.name) session) visited := by
  refine ⟨fun listed => fresh ?_, ⟨[], rfl⟩, rfl, fun other among named => ?_, fresh, visits, ?_⟩
  · rw [progress.books]
    exact List.mem_append_left _ listed
  · refine (settles_fresh (progress.settles other among) named fresh).resolve_right fun failed => ?_
    rw [spared] at failed
    cases failed
  · rw [entered, noted_ledger]

/-- The turn of one more class. -/
theorem progress_turn (folding : start.world.own.policy.action = .fold)
    (progress : Progress directory start done result session)
    (ran : processWithSuperclasses generator (.outside directory) result declared session =
      .ok next after) : Progress directory start (done ++ [declared]) next after := by
  obtain ⟨released, own⟩ := progress.steady.own
  have turned := processWithSuperclasses_turned (by rw [own]; exact folding) progress.steady.idle
    declared directory result
  rw [ran] at turned
  have earlier (name : String) (member : name ∈ result.generated) :
      name ∉ start.ledger.generated ∧ ∃ front other before visited,
        Origin directory (done ++ [declared]) name front other before visited := by
    obtain ⟨fresh, front, other, before, visited, origin⟩ := progress.origin name member
    exact ⟨fresh, front, other, before, visited, origin_concat origin declared⟩
  have all {later : Session State} {result' : RoundResult}
      (books : session.ledger.generated ⊆ later.ledger.generated)
      (failed : ∀ name, result.failed name = true → result'.failed name = true)
      (last : Settles later result' declared) :
      ∀ other ∈ done ++ [declared], Settles later result' other := by
    intro other member
    rcases List.mem_append.1 member with before | here
    · exact settles_mono (progress.settles other before) books failed
    · rwa [List.mem_singleton.1 here]
  cases turned with
  | skipped failed =>
    exact ⟨progress.steady, progress.books,
      all (List.Subset.refl _) (fun _ already => already) (.inr (.inr failed)), earlier⟩
  | passed spared cause books steady =>
    refine ⟨steady_trans progress.steady steady, books.trans progress.books,
      all (by rw [books]; exact List.Subset.refl _) (fun _ already => already) ?_, earlier⟩
    rcases cause with listed | enum
    · exact .inr (.inl (by rwa [books]))
    · exact .inl enum
  | failed spared visits isolated books steady =>
    refine ⟨steady_trans progress.steady steady, books.trans progress.books,
      all (by rw [books]; exact List.Subset.refl _) (fun name already => ?_) (.inr (.inr ?_)),
      earlier⟩
    · rw [failed_withFailure, already, Bool.true_or]
    · rw [failed_withFailure, beq_self_eq_true, Bool.or_true]
  | @generated visited after spared fresh visits same books steady =>
    refine ⟨steady_trans progress.steady steady, ?_,
      all (by rw [books]; exact List.subset_append_left _ _) (fun _ already => already)
        (.inr (.inl ?_)), fun name member => ?_⟩
    · rw [books, progress.books, generated_withGenerated, List.append_assoc]
    · rw [books]
      exact List.mem_append_right _ List.mem_cons_self
    · rw [generated_withGenerated] at member
      rcases List.mem_append.1 member with before | last
      · exact earlier name before
      · obtain rfl := List.mem_singleton.1 last
        obtain ⟨new, origin⟩ := origin_entered progress spared fresh visits (by rw [← same, books])
        exact ⟨new, _, _, _, _, origin⟩

/-- A round on some classes. -/
theorem process_progress (folding : start.world.own.policy.action = .fold)
    (idle : start.ledger.pending = [])
    (ran : process generator classes directory start = .ok result after) :
    Progress directory start classes result after := by
  suffices ends : ∀ rest done before session, Progress directory start done before session →
      rest.foldlM (processWithSuperclasses generator (.outside directory)) before session =
        .ok result after → Progress directory start (done ++ rest) result after from
    ends classes [] .empty start ⟨steady_refl idle, (List.append_nil _).symm,
      fun _ none => (by cases none), fun _ none => (by cases none)⟩ ran
  intro rest
  induction rest with
  | nil =>
    intro done before session progress ended
    cases ended
    rwa [List.append_nil]
  | cons declared rest ih =>
    intro done before session progress ended
    rw [List.foldlM_cons] at ended
    obtain ⟨next, middle, turn, others⟩ := bind_eq_ok ended
    have all := ih (done ++ [declared]) next middle (progress_turn folding progress turn) others
    rwa [List.append_assoc] at all

end Delegate

namespace CommandLine
open Delegate Document FileTree Processing Steps

variable {arguments : Arguments} {root : String} {files : FileTree}
variable {start session after : Session State}
variable {rounds : List (LoadedModel × RoundResult)}

/-- What became of the classes of some rounds. -/
structure RoundsSettled (start session : Session State)
    (rounds : List (LoadedModel × RoundResult)) (after : Session State) : Prop where
  steady : Steady start after
  books : session.ledger.generated ⊆ after.ledger.generated
  settles : ∀ round ∈ rounds, ∀ declared ∈ round.1.classes, Settles after round.2 declared

/-- The rounds of a run settle all their classes. -/
theorem rounds_settled (folding : start.world.own.policy.action = .fold)
    (steady : Steady start session) (ran : Rounds arguments root session rounds after) :
    RoundsSettled start session rounds after := by
  induction ran with
  | none session => exact ⟨steady, List.Subset.refl _, fun _ none => (by cases none)⟩
  | @next session middle after model result rounds ran log rest ih =>
    obtain ⟨released, own⟩ := steady.own
    have progress := process_progress (by rw [own]; exact folding) steady.idle ran
    have others := ih (steady_logged (steady_trans steady progress.steady))
    refine ⟨others.steady, fun name listed => ?_, fun round member => ?_⟩
    · apply others.books
      change name ∈ middle.ledger.generated
      rw [progress.books]
      exact List.mem_append_left _ listed
    · rcases List.mem_cons.1 member with rfl | later
      · intro declared among
        exact settles_mono (progress.settles declared among) others.books fun _ failed => failed
      · exact others.settles round later

/-- A class stands before the classes nested in it. -/
private theorem mem_withNested (declared : ClassDecl) :
    declared ∈ ClassIndex.withNested declared := by
  obtain ⟨name, kind, superclass, modifiers, members⟩ := declared
  rw [ClassIndex.withNested]
  exact List.mem_cons_self

/-- The classes that the models of some rounds declare, nested ones included. -/
def declarationsOf (rounds : List (LoadedModel × RoundResult)) : List ClassDecl :=
  (rounds.flatMap (·.1.classes)).flatMap ClassIndex.withNested

private theorem mem_declarationsOf {model : LoadedModel} {front : List ClassDecl}
    {declared : ClassDecl} (place : ∃ back, model.classes = front ++ declared :: back)
    (earlier : List (LoadedModel × RoundResult)) (result : RoundResult)
    (later : List (LoadedModel × RoundResult)) :
    declared ∈ declarationsOf (earlier ++ (model, result) :: later) := by
  obtain ⟨back, parts⟩ := place
  refine List.mem_flatMap.2 ⟨declared, ?_, mem_withNested declared⟩
  refine List.mem_flatMap.2 ⟨(model, result), by simp, ?_⟩
  rw [parts]
  simp

/-- How names that are declared more than once are resolved. -/
structure Resolved (arguments : Arguments) (root : String) (start : Session State)
    (rounds : List (LoadedModel × RoundResult)) : Prop where
  /-- The index keeps the last declaration. -/
  kept : ∀ type, start.ledger.index.lookup type = ((declarationsOf rounds).filter
    (·.type.qualifiedName = type.qualifiedName)).getLast?
  /-- A name is generated from the first of its declarations that comes to an end: before it
  the round has only enums of this name, and in an earlier round each one was an enum, or a
  class of this name failed. -/
  generated : ∀ earlier model result later, rounds = earlier ++ (model, result) :: later →
    ∀ name ∈ result.generated, ∃ front declared before visited,
      Origin (.ofText (outputDirectoryFor arguments root model.path)) model.classes name front
        declared before visited ∧
      (∀ round ∈ earlier, ∀ other ∈ round.1.classes, other.name = name →
        other.kind = .enum ∨ round.2.failed name = true) ∧
      (((declarationsOf rounds).filter
        (·.type.qualifiedName = declared.type.qualifiedName)).length = 1 →
        start.ledger.index.lookup declared.type = some declared)

/-- **The first declaration is generated, the last one is kept.** In a run that returns, the
index gives the last of all declarations of a name, and the class of this name is generated
from the first of them that comes to an end. Both are the same for a name declared once. -/
theorem classes_generated_from_first_declaration {count : Nat}
    (ran : run arguments root (startSession files) = .ok count after) :
    ∃ paths start rounds last, Prepared arguments root files paths start ∧
      Rounds arguments root start rounds last ∧
      rounds.map Prod.fst = paths.filterMap (loads files) ∧
      Resolved arguments root start rounds := by
  have begins := run_begins arguments root files
  rw [ran] at begins
  generalize ended : EStateM.Result.ok count after = result at begins
  cases begins with
  | unselected refused => cases ended
  | unloaded selected member failed whole untouched => cases ended
  | uncollected refused untouched => cases ended
  | @prepared paths start prepared =>
    rcases generateAll_ends arguments root paths.length (paths.filterMap (loads files)) start with
      ⟨rounds, last, -, went, same⟩ | ⟨_, _, _, _, failure, final, stopped, -⟩
    · have index (type : TypeRef) : start.ledger.index.lookup type =
          ((declarationsOf rounds).filter
            (·.type.qualifiedName = type.qualifiedName)).getLast? := by
        rw [prepared.settled.index, indexed, ClassIndex.lookup_addAll, ← same, List.flatMap_map]
        rfl
      refine ⟨paths, start, rounds, last, prepared, went, same, index, ?_⟩
      rintro earlier model result later rfl name member
      obtain ⟨middle, before, behind⟩ := rounds_append went
      have settled := rounds_settled prepared.settled.folding
        (steady_refl prepared.settled.pending) before
      obtain ⟨released, own⟩ := settled.steady.own
      cases behind with
      | next processed log rest =>
        have progress := process_progress (by rw [own]; exact prepared.settled.folding)
          settled.steady.idle processed
        obtain ⟨fresh, front, declared, session, visited, origin⟩ := progress.origin name member
        refine ⟨front, declared, session, visited, origin, ?_, fun once => ?_⟩
        · intro round among other inside named
          exact settles_fresh (settled.settles round among other inside) named fresh
        · obtain ⟨only, single⟩ := List.length_eq_one_iff.1 once
          have inside := mem_declarationsOf origin.place earlier result later
          have same : declared = only := by
            rw [← List.mem_singleton, ← single]
            exact List.mem_filter.2 ⟨inside, decide_eq_true rfl⟩
          rw [index, single, same]
          rfl
    · rw [stopped] at ended
      cases ended

/-- An enum before the class of its name leaves the class to be generated. -/
theorem class_generated_behind_enum :
    let arguments : Arguments := { Arguments.default with paths := ["m.model.json"] }
    let files : FileTree := ⟨["w"], [(["w"], .directory), (["w", "m.model.json"], .file
      ("\x7b\"classes\":[\x7b\"name\":\"a.B\",\"kind\":\"enum\"\x7d," ++
        "\x7b\"name\":\"a.B\"\x7d]\x7d").toUTF8)]⟩
    ∃ count after, run arguments "/w" (startSession files) = .ok count after ∧
      after.ledger.generated = ["a.B"] ∧
      ∃ paths start rounds last, Prepared arguments "/w" files paths start ∧
        Rounds arguments "/w" start rounds last ∧
        rounds.map Prod.fst = paths.filterMap (loads files) ∧
        Resolved arguments "/w" start rounds := by
  intro arguments files
  have ran : value? (run arguments "/w" (startSession files)) = some 0 ∧
      (left (run arguments "/w" (startSession files))).ledger.generated = ["a.B"] := by
    decide +kernel
  have done := eq_ok_of_value? ran.1
  exact ⟨0, _, done, ran.2, classes_generated_from_first_declaration done⟩

/-- Of two declarations of a class the second is in the index, and the first is generated. -/
theorem first_generated_where_second_kept :
    let arguments : Arguments := { Arguments.default with paths := ["m.model.json"] }
    let files : FileTree := ⟨["w"], [(["w"], .directory), (["w", "m.model.json"], .file
      ("\x7b\"classes\":[\x7b\"name\":\"a.B\",\"members\":[\x7b\"element\":\"method\"," ++
        "\"name\":\"first\"\x7d]\x7d,\x7b\"name\":\"a.B\",\"members\":[\x7b\"element\":" ++
        "\"method\",\"name\":\"second\"\x7d]\x7d]\x7d").toUTF8)]⟩
    ∃ count after kept closed, run arguments "/w" (startSession files) = .ok count after ∧
      after.ledger.generated = ["a.B"] ∧
      after.ledger.index.lookup ⟨"a.B"⟩ = some kept ∧
      kept.methods.map (·.name) = ["second"] ∧
      after.world.own.released = [closed] ∧
      closed.draft.methods = ["  public void first() \x7b\n    entity.first();\n  \x7d"] := by
  intro arguments files
  have ran : value? (run arguments "/w" (startSession files)) = some 0 ∧
      let after := left (run arguments "/w" (startSession files))
      after.ledger.generated = ["a.B"] ∧
      (after.ledger.index.lookup ⟨"a.B"⟩).map (·.methods.map (·.name)) = some ["second"] ∧
      after.world.own.released.map (·.draft.methods) =
        [["  public void first() \x7b\n    entity.first();\n  \x7d"]] := by
    decide +kernel
  obtain ⟨answer, generated, kept, released⟩ := ran
  obtain ⟨declared, found, methods⟩ := Option.map_eq_some_iff.1 kept
  obtain ⟨closed, rest, parts, text, none⟩ := List.map_eq_cons_iff.1 released
  rw [List.map_eq_nil_iff.1 none] at parts
  exact ⟨0, _, declared, closed, eq_ok_of_value? answer, generated, found, methods, parts, text⟩

end CommandLine

end DelegateClasses
