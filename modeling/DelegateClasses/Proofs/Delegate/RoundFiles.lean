import DelegateClasses.Proofs.Delegate.Filing
import DelegateClasses.Proofs.Processing.Invariants

/-! The files of a round. Each class that is begun opens one file, whether it is
generated in the end or fails. Classes are told apart by their whole names, files
by simple names and packages only, so two classes can open the same file, and the
one that opens it last decides what it holds. Main statement: the file of a class
that is reported as generated holds the text of this class, unless a later class of
the round opened the same file. -/
namespace DelegateClasses.Delegate
open Steps Processing

/-- A class that was begun in a round and given up. -/
structure Opening where
  declared : ClassDecl
  closed : PlacedDraft
  /-- Whether the class was generated. -/
  complete : Bool

namespace Opening

/-- What is reported of the class: its name, if it was generated. -/
def reported (opening : Opening) : List String :=
  if opening.complete then [opening.declared.name] else []

/-- The file of the class is that of its name and its package, and it received the
complete text at once if the class was generated, and nothing otherwise. -/
structure Proper (own : State) (directory : Path) (opening : Opening) : Prop where
  path : ∃ package, opening.declared.package? = some package ∧
    opening.closed.path = outputPath directory package (own.generatedName opening.declared)
  sink : opening.closed.draft.sink =
    some ⟨if opening.complete then [opening.closed.draft.source] else [], 1⟩

end Opening

/-- What the classes that a round began leave. -/
structure RoundFiles (directory : Path) (before : Session State) (openings : List Opening)
    (result : RoundResult) (after : Session State) : Prop where
  books : after.ledger.generated = before.ledger.generated ++ result.generated
  distinct : result.generated.Nodup
  report : result.generated = openings.flatMap Opening.reported
  own : after.world.own = { before.world.own with
    released := before.world.own.released ++ openings.map Opening.closed }
  proper : ∀ opening ∈ openings, opening.Proper before.world.own directory
  touches : before.world.files.Touches (openings.map (·.closed.place)) after.world.files
  /-- The last class that opened a file decides what it holds. -/
  holds : ∀ earlier opening later, openings = earlier ++ opening :: later →
    (∀ other ∈ later, other.closed.place ≠ opening.closed.place) →
    after.world.files.resolve opening.closed.path.text =
      .ok (opening.closed.place, .file opening.closed.written)

variable {directory : Path} {before session after : Session State} {openings : List Opening}
variable {opening : Opening} {result next : RoundResult}

/-- Of a list with one more at its end, an entry is the last one or an earlier one. -/
private theorem last_or_earlier {earlier later : List Opening} {other : Opening}
    (parts : openings ++ [opening] = earlier ++ other :: later) :
    (earlier = openings ∧ other = opening ∧ later = []) ∨
      ∃ others, later = others ++ [opening] ∧ openings = earlier ++ other :: others := by
  rcases List.eq_nil_or_concat later with rfl | ⟨others, final, rfl⟩
  · obtain ⟨same, single⟩ := List.append_inj' parts rfl
    exact .inl ⟨same.symm, (List.singleton_inj.1 single).symm, rfl⟩
  · rw [List.concat_eq_append, ← List.cons_append, ← List.append_assoc] at parts
    obtain ⟨same, single⟩ := List.append_inj' parts rfl
    obtain rfl := List.singleton_inj.1 single
    exact .inr ⟨others, List.concat_eq_append, same⟩

theorem roundFiles_start (session : Session State) :
    RoundFiles directory session [] .empty session where
  books := (List.append_nil _).symm
  distinct := List.nodup_nil
  report := rfl
  own := by rw [List.map_nil, List.append_nil]
  proper := fun _ member => absurd member List.not_mem_nil
  touches := FileTree.touches_refl _
  holds := by simp

/-- A turn in which no class is begun. -/
theorem roundFiles_untouched (kept : RoundFiles directory before openings result session)
    (books : after.ledger.generated = session.ledger.generated)
    (report : next.generated = result.generated) (own : after.world.own = session.world.own)
    (touches : session.world.files.Touches [] after.world.files) :
    RoundFiles directory before openings next after where
  books := by rw [books, report, kept.books]
  distinct := by
    rw [report]
    exact kept.distinct
  report := by rw [report, kept.report]
  own := own.trans kept.own
  proper := kept.proper
  touches := FileTree.touches_mono (FileTree.touches_trans kept.touches touches) (by simp)
  holds := fun earlier opening later parts last =>
    FileTree.resolve_untouched touches (kept.holds earlier opening later parts last)
      List.not_mem_nil

/-- A visit that opened no file. -/
theorem roundFiles_unopened (kept : RoundFiles directory before openings result session)
    (report : next.generated =
      result.generated ++ after.ledger.generated.drop session.ledger.generated.length)
    (books : after.ledger = session.ledger) (own : after.world.own = session.world.own)
    (touches : session.world.files.Touches [] after.world.files) :
    ∃ more, RoundFiles directory before (openings ++ more) next after := by
  rw [books, List.drop_length, List.append_nil] at report
  refine ⟨[], ?_⟩
  rw [List.append_nil]
  exact roundFiles_untouched kept (by rw [books]) report own touches

/-- A turn in which a class is begun. -/
theorem roundFiles_opened (kept : RoundFiles directory before openings result session)
    (fresh : ∀ name ∈ opening.reported, name ∉ session.ledger.generated)
    (books : after.ledger.generated = session.ledger.generated ++ opening.reported)
    (report : next.generated = result.generated ++ opening.reported)
    (own : after.world.own = { session.world.own with
      released := session.world.own.released ++ [opening.closed] })
    (proper : opening.Proper session.world.own directory)
    (touches : session.world.files.Touches [opening.closed.place] after.world.files)
    (leads : after.world.files.resolve opening.closed.path.text =
      .ok (opening.closed.place, .file opening.closed.written)) :
    RoundFiles directory before (openings ++ [opening]) next after where
  books := by rw [books, report, kept.books, List.append_assoc]
  distinct := by
    rw [report, List.nodup_append]
    refine ⟨kept.distinct, ?_, ?_⟩
    · rw [Opening.reported]
      split <;> simp
    · intro name earlier other added same
      refine fresh other added ?_
      rw [kept.books, ← same]
      exact List.mem_append_right _ earlier
  report := by
    rw [report, kept.report, List.flatMap_append, List.flatMap_singleton]
  own := by
    rw [own, kept.own]
    simp
  proper := by
    intro other member
    rcases List.mem_append.1 member with earlier | last
    · exact kept.proper other earlier
    · rw [List.mem_singleton.1 last]
      rw [kept.own] at proper
      exact ⟨proper.path, proper.sink⟩
  touches := by
    rw [List.map_append]
    exact FileTree.touches_trans kept.touches touches
  holds := by
    intro earlier other later parts last
    rcases last_or_earlier parts with ⟨rfl, rfl, rfl⟩ | ⟨others, rfl, same⟩
    · exact leads
    · have found := kept.holds earlier other others same fun one member =>
        last one (List.mem_append_left _ member)
      have apart := last opening (List.mem_append_right _ (List.mem_singleton.2 rfl))
      exact FileTree.resolve_untouched touches found (by simpa using apart.symm)

/-- A class that was begun and given up in its turn. -/
theorem roundFiles_filed {declared : ClassDecl} {package : String} {place : List String}
    {content : ByteArray} {closed : PlacedDraft} (complete : Bool)
    (kept : RoundFiles directory before openings result session)
    (owned : declared.package? = some package)
    (filed : Filed (targetOf session.world.own directory declared package place)
      session.world.files content closed after.world)
    (sink : closed.draft.sink = some ⟨if complete then [closed.draft.source] else [], 1⟩)
    (written : content = closed.written)
    (fresh : complete = true → declared.name ∉ session.ledger.generated)
    (books : after.ledger.generated = session.ledger.generated ++
      Opening.reported ⟨declared, closed, complete⟩)
    (report : next.generated = result.generated ++ Opening.reported ⟨declared, closed, complete⟩) :
    ∃ more, RoundFiles directory before (openings ++ more) next after := by
  refine ⟨[⟨declared, closed, complete⟩], roundFiles_opened kept ?_ books report filed.own
    ⟨⟨package, owned, filed.named⟩, sink⟩ filed.touched ?_⟩
  · intro name member
    rw [Opening.reported] at member
    split at member
    · next done =>
      rw [List.mem_singleton.1 member]
      exact fresh done
    · cases member
  · rw [filed.place, filed.path, ← written]
    exact filed.holds

/-- Every turn of a class begins at most this class. -/
theorem roundFiles_turn {declared : ClassDecl}
    (kept : RoundFiles directory before openings result session)
    (ran : processClass generator (.outside directory) declared result session = .ok next after) :
    ∃ more, RoundFiles directory before (openings ++ more) next after := by
  rcases processClass_visits ran with ⟨rfl, rfl⟩ | ⟨visited, visits, ledger, own, files, report⟩
  · exact ⟨[], by rwa [List.append_nil]⟩
  suffices ∃ more, RoundFiles directory before (openings ++ more) next visited by
    obtain ⟨more, still⟩ := this
    refine ⟨more, roundFiles_untouched still (by rw [ledger]) rfl own ?_⟩
    rw [files]
    exact FileTree.touches_refl _
  have outcome := visitClass_outcome declared directory
    (noted ("Processing " ++ declared.name) session)
  generalize visitClass generator (.outside directory) declared
    (noted ("Processing " ++ declared.name) session) = ended at visits outcome
  rw [← visits] at report ⊢
  cases outcome with
  | passed books same untouched =>
    simp only [left, noted_ledger, noted_own, noted_files] at books same untouched report ⊢
    refine roundFiles_unopened kept report books same ?_
    rw [untouched]
    exact FileTree.touches_refl _
  | refused books same touches =>
    simp only [left, noted_ledger, noted_own, noted_files] at books same touches report ⊢
    exact roundFiles_unopened kept report books same touches
  | written owned filed sink fresh generated =>
    simp only [left, noted_ledger, noted_own, noted_files] at generated fresh filed report ⊢
    rw [generated, List.drop_left] at report
    refine roundFiles_filed true kept owned filed sink ?_ (fun _ => fresh) generated report
    simp [PlacedDraft.written, sink, String.join]
  | abandoned books owned filed sink =>
    simp only [left, noted_ledger, noted_own, noted_files] at books filed report ⊢
    rw [books, List.drop_length] at report
    refine roundFiles_filed false kept owned filed sink ?_ (absurd · Bool.false_ne_true) ?_ report
    · rw [PlacedDraft.written, sink]
      rfl
    · rw [books]
      exact (List.append_nil _).symm

/-- What the classes that a round began leave, at the end of the round. -/
theorem process_roundFiles {classes : List ClassDecl}
    (ran : process generator classes directory session = .ok result after) :
    ∃ openings, RoundFiles directory session openings result after := by
  refine process_keeps
    (fun result now => ∃ openings, RoundFiles directory session openings result now) ?_ ?_
    ⟨[], roundFiles_start session⟩ ran
  · rintro result now others ⟨openings, kept⟩
    exact ⟨openings, roundFiles_untouched kept rfl rfl rfl (FileTree.touches_refl _)⟩
  · rintro declared result now next later ⟨openings, kept⟩ turn
    obtain ⟨more, still⟩ := roundFiles_turn kept turn
    exact ⟨openings ++ more, still⟩

/-- **A reported class wrote its file.** Each class that a round reports as generated
was begun in the file of its name and package and wrote its complete text there, in
one go. The file holds exactly this text at the end of the round, unless a class
that was begun later opened the same file; what it holds then is what the last of
these wrote, and that is nothing if this one failed. -/
theorem reported_class_wrote_its_file (classes : List ClassDecl) (directory : Path)
    (session after : Session State) (result : RoundResult)
    (ran : process generator classes directory session = .ok result after) :
    ∃ openings : List Opening,
      after.world.own.released = session.world.own.released ++ openings.map Opening.closed ∧
      session.world.files.Touches (openings.map (·.closed.place)) after.world.files ∧
      result.generated.Nodup ∧
      (∀ name ∈ result.generated, ∃ earlier opening later, openings = earlier ++ opening :: later ∧
        opening.declared.name = name ∧
        (∃ package, opening.declared.package? = some package ∧ opening.closed.path =
          outputPath directory package (session.world.own.generatedName opening.declared)) ∧
        opening.closed.draft.sink = some ⟨[opening.closed.draft.source], 1⟩ ∧
        ((∀ other ∈ later, other.closed.place ≠ opening.closed.place) →
          after.world.files.read opening.closed.path.text =
            .ok opening.closed.draft.source.toUTF8)) ∧
      ∀ earlier opening later, openings = earlier ++ opening :: later →
        (∀ other ∈ later, other.closed.place ≠ opening.closed.place) →
        after.world.files.read opening.closed.path.text = .ok opening.closed.written := by
  obtain ⟨openings, kept⟩ := process_roundFiles ran
  have last : ∀ earlier opening later, openings = earlier ++ opening :: later →
      (∀ other ∈ later, other.closed.place ≠ opening.closed.place) →
      after.world.files.read opening.closed.path.text = .ok opening.closed.written := by
    intro earlier opening later parts final
    rw [FileTree.read, kept.holds earlier opening later parts final]
  refine ⟨openings, by rw [kept.own], kept.touches, kept.distinct, fun name member => ?_, last⟩
  rw [kept.report] at member
  obtain ⟨opening, among, reported⟩ := List.mem_flatMap.1 member
  obtain ⟨earlier, later, parts⟩ := List.append_of_mem among
  obtain ⟨path, sink⟩ := kept.proper opening among
  rw [Opening.reported] at reported
  split at reported
  · next complete =>
    rw [if_pos complete] at sink
    refine ⟨earlier, opening, later, parts, (List.mem_singleton.1 reported).symm, path, sink, ?_⟩
    intro final
    rw [last earlier opening later parts final, PlacedDraft.written, sink]
    simp [String.join]
  · cases reported

/-- A class keeps its file where another one fails that goes to another file. -/
theorem file_kept_beside_failure :
    let get : MethodDecl := { name := "get", returns := ⟨"java.util.List"⟩ }
    let bad : MethodDecl := { name := "get", returns := ⟨"List<"⟩ }
    let box : ClassDecl := ⟨"a.Box", .ordinary, none, ["public"], [.method get]⟩
    let bag : ClassDecl := ⟨"a.Bag", .ordinary, none, ["public"], [.method bad]⟩
    let session : Session State :=
      ⟨.start .empty, ⟨⟨[], []⟩, .empty, .start defaultSuffix .never⟩⟩
    ∃ result after closed,
      process generator [box, bag] (.ofText "out") session = .ok result after ∧
      result.generated = ["a.Box"] ∧ result.failures.map (·.1) = ["a.Bag"] ∧
      closed ∈ after.world.own.released ∧ closed.path.text = "out/a/BoxWrapper.java" ∧
      after.world.files.read closed.path.text = .ok closed.draft.source.toUTF8 := by
  intro get bad box bag session
  have done : (match process generator [box, bag] (.ofText "out") session with
      | .ok result after => (result.generated, result.failures.map (·.1),
        after.world.own.released.map (·.place))
      | .error _ _ => ([], [], [])) =
      (["a.Box"], ["a.Bag"],
        [["out", "a", "BoxWrapper.java"], ["out", "a", "BagWrapper.java"]]) := by
    decide +kernel
  split at done
  · next result after ran =>
    simp only [Prod.mk.injEq] at done
    obtain ⟨generated, failures, places⟩ := done
    obtain ⟨openings, released, -, -, files, -⟩ :=
      reported_class_wrote_its_file [box, bag] (.ofText "out") session after result ran
    obtain ⟨earlier, opening, later, parts, named, ⟨package, owned, path⟩, -, kept⟩ :=
      files "a.Box" (by rw [generated]; exact List.mem_singleton.2 rfl)
    have apart : (openings.map (·.closed.place)).Nodup := by
      have same : openings.map (·.closed.place) = after.world.own.released.map (·.place) := by
        rw [released, List.map_append, List.map_map]
        rfl
      rw [same, places]
      decide
    have type : opening.declared.type = ⟨"a.Box"⟩ := by rw [ClassDecl.type, named]
    have inside : TypeRef.package? ⟨"a.Box"⟩ = some "a" := by decide +kernel
    rw [ClassDecl.package?, type, inside] at owned
    cases owned
    have text : opening.closed.path.text = "out/a/BoxWrapper.java" := by
      rw [path, State.generatedName, ClassDecl.simpleName, type]
      decide +kernel
    refine ⟨result, after, opening.closed, ran, generated, failures, ?_, text, kept ?_⟩
    · rw [released, parts]
      simp
    · intro other member same
      rw [parts, List.map_append, List.map_cons, List.nodup_append] at apart
      refine (List.nodup_cons.1 apart.2.1).1 ?_
      rw [← same]
      exact List.mem_map_of_mem member
  · cases done

/-- Two classes of one simple name and one package share a file. The first is
reported as generated, and the second, which fails, leaves the file empty. -/
theorem failing_class_empties_reported_file :
    let get : MethodDecl := { name := "get", returns := ⟨"java.util.List"⟩ }
    let bad : MethodDecl := { name := "get", returns := ⟨"List<"⟩ }
    let box : ClassDecl := ⟨"a.Box", .ordinary, none, ["public"], [.method get]⟩
    let boxed : ClassDecl := ⟨"a.Box<T>", .ordinary, none, ["public"], [.method bad]⟩
    let session : Session State :=
      ⟨.start .empty, ⟨⟨[], []⟩, .empty, .start defaultSuffix .never⟩⟩
    ∃ result after closed failed,
      process generator [box, boxed] (.ofText "out") session = .ok result after ∧
      result.generated = ["a.Box"] ∧ result.failures.map (·.1) = ["a.Box<T>"] ∧
      after.world.own.released = [closed, failed] ∧
      closed.path.text = "out/a/BoxWrapper.java" ∧
      closed.draft.sink.map Sink.writes = some [closed.draft.source] ∧ closed.draft.source ≠ "" ∧
      after.world.files.read closed.path.text = .ok .empty := by
  intro get bad box boxed session
  have done : (match process generator [box, boxed] (.ofText "out") session with
      | .ok result after => (result.generated, result.failures.map (·.1),
        after.world.own.released.map fun closed => (closed.path.text,
          closed.draft.sink.map Sink.writes == some [closed.draft.source],
          closed.draft.source == ""),
        (after.world.files.read "out/a/BoxWrapper.java").toOption)
      | .error _ _ => ([], [], [], none)) =
      (["a.Box"], ["a.Box<T>"], [("out/a/BoxWrapper.java", true, false),
        ("out/a/BoxWrapper.java", false, false)], some .empty) := by
    decide +kernel
  split at done
  · next result after ran =>
    simp only [Prod.mk.injEq] at done
    obtain ⟨generated, failures, released, content⟩ := done
    obtain ⟨closed, others, parts, first, rest⟩ := List.map_eq_cons_iff.1 released
    obtain ⟨failed, none, same, -, nothing⟩ := List.map_eq_cons_iff.1 rest
    rw [same, List.map_eq_nil_iff.1 nothing] at parts
    obtain ⟨path, written, text⟩ : closed.path.text = "out/a/BoxWrapper.java" ∧
        closed.draft.sink.map Sink.writes = some [closed.draft.source] ∧
        closed.draft.source ≠ "" := by
      simpa using first
    refine ⟨result, after, closed, failed, ran, generated, failures, parts, path, written, text, ?_⟩
    rw [path]
    cases read : after.world.files.read "out/a/BoxWrapper.java" with
    | error fault =>
      rw [read] at content
      cases content
    | ok bytes =>
      rw [read] at content
      rw [Option.some.inj content]
  · cases done

end DelegateClasses.Delegate
