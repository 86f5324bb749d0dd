import DelegateClasses.Proofs.Delegate.Overriding

/-! The body of a delegating class. It is put together in several places: a template
is opened at the start of the class and again at its end, and the delegates come in
between, those of the class first and then those of the superclasses. Main statement:
nothing is lost, repeated or out of order on the way. -/
namespace DelegateClasses.Delegate
open Steps Processing

variable {target : Target} {files : FileTree} {started world : World State}
variable {settings : Settings} {own folded : List MethodDecl}

/-- Of methods in order, those whose text is not there when their turn comes. -/
def unrepeated (text : MethodDecl → String) (present : List String) :
    List MethodDecl → List MethodDecl
  | [] => []
  | method :: later =>
    if text method ∈ present then unrepeated text present later
    else method :: unrepeated text (present ++ [text method]) later

/-- Calls are passed on to all methods of the class, and then to those of the
superclasses whose text is not there. -/
theorem passedOn_eq (text : MethodDecl → String) (opening : List String)
    (own folded : List MethodDecl) :
    passedOn text opening own folded =
      own ++ unrepeated text (opening ++ own.map text) folded := by
  induction folded generalizing own with
  | nil => rw [passedOn_nil, unrepeated, List.append_nil]
  | cons method later ih =>
    have first : passedOn text opening own (method :: later) = passedOn text opening
        (if text method ∈ opening ++ own.map text then own else own ++ [method]) later := rfl
    rw [first, unrepeated]
    by_cases there : text method ∈ opening ++ own.map text
    · rw [if_pos there, if_pos there, ih]
    · rw [if_neg there, if_neg there, ih, List.map_append, List.map_singleton,
        ← List.append_assoc, List.append_assoc own, List.singleton_append]

/-- No file is touched while the methods of a class are handed over. -/
theorem underway_of_handed (underway : Underway target files started)
    (handed : Handed settings started own folded world) : Underway target files world := by
  induction handed with
  | start => exact underway
  | @reported own folded level topic message world later handed ran ih =>
    have still := report_underway level topic message world ih
    rwa [ran] at still
  | @own own method world later handed ran ih =>
    have still := addMethod_underway method world ih
    rwa [ran] at still
  | @inherited own folded method world later handed ran ih =>
    have still := addInherited_underway settings method world ih
    rwa [ran] at still

/-- What is read from a file that was not touched is the texts of its sections. -/
theorem texts_of_fromTemplate {name text : String} {content : ByteArray} {texts : List String}
    {pick : List (List String) → List (List String)}
    (picks : ∀ sections, pick sections ⊆ sections) (given : name ≠ "")
    (read : files.read (settings.resource name).text = .ok content)
    (lines : (Template.content content).1 = Text.lines text)
    (taken : FromTemplate settings name files pick texts) :
    texts = Template.texts (pick (Template.sections (Text.lines text))) := by
  obtain ⟨bytes, again, same⟩ := taken.some given
  cases read.symm.trans again
  rw [same, lines, Template.entries_eq_texts (picks _)]

/-- **The body of a generated class.** Its methods are, in this order: the text in
front of the first marker of the template; a delegate for each method of the class
itself that is public and not static, in the order of declaration; a delegate for
each such method of the superclasses that are folded into it, nearest superclass
first, whose text is not there when its turn comes; and the texts behind the first
marker. There are no texts without a template. A template is there, and if it is not
the file of the class itself, it is UTF-8, and its texts are what stands between its
markers, without empty lines at both ends and without texts of which nothing remains. -/
theorem generated_class_body (declared : ClassDecl) (directory : Path)
    (session after : Session State)
    (fresh : session.ledger.generated.contains declared.name = false)
    (ran : visitClass generator (.outside directory) declared session = .ok ⟨⟩ after)
    (listed : after.ledger.generated.contains declared.name = true) :
    let own := declared.methods.filter isDelegated
    let folded := (foldedMethods session.ledger.index session.world.own.policy
      declared.superclass).filter isDelegated
    let name := session.world.own.templateName
    ∃ closed first others,
      after.world.own.released = session.world.own.released ++ [closed] ∧
      closed.draft.sink = some ⟨[closed.draft.source], 1⟩ ∧
      (name = "" → first = [] ∧ others = []) ∧
      (name ≠ "" → ∃ place content,
        after.world.files.resolve (session.ledger.settings.resource name).text =
          .ok (place, .file content) ∧
        (place ≠ closed.place → ∃ text, Text.decode content = .text text ∧
          let sections := Template.sections (Text.lines text)
          first = Template.texts (sections.take 1) ∧
            others = Template.texts (sections.drop 1))) ∧
      let text := delegateText closed.draft.imports.owner?
      closed.draft.methods = first ++ own.map text ++
        (unrepeated text (first ++ own.map text) folded).map text ++ others := by
  intro own folded name
  obtain ⟨before, started, handed, ended, same, starting, all, ending, kept, files⟩ :=
    visitClass_parts declared directory fresh ran listed
  obtain ⟨target, draft, origin, here, opened, underway, account, first⟩ :=
    startClass_delegates starting
  have policy : started.own.policy = session.world.own.policy := by
    rw [← same, ← origin, here]
  have still := underway_of_handed underway all
  have since := ended_touches opened still ending
  rw [policy] at all
  obtain ⟨last, there, complete⟩ := delegates_of_handed here account all
  obtain ⟨package, packaged⟩ := complete.packaged
  obtain ⟨texts, others, toEnd, released, -⟩ :=
    leave_at there packaged complete.writable ending
  rw [origin, same] at released others toEnd
  rw [same] at first
  rw [← kept] at released
  rw [← files] at since
  rw [still.1] at others toEnd
  refine ⟨givenUp target _, draft.methods, texts, released, ?_,
    fun bare => ⟨first.none bare, others.none bare⟩, ?_, ?_⟩
  · rw [source_givenUp]
    rfl
  · intro given
    obtain ⟨content, read, -⟩ := first.some given
    obtain ⟨place, leads⟩ := FileTree.read_eq_ok read
    obtain ⟨now, again, -⟩ := FileTree.read_touches since leads
    refine ⟨place, now, again, fun apart => ?_⟩
    have outside : place ∉ [target.place] := fun member => apart (List.mem_singleton.1 member)
    cases again.symm.trans (FileTree.resolve_untouched since leads outside)
    obtain ⟨text, decoded, lines⟩ := Template.content_complete (toEnd given content read)
    exact ⟨text, decoded,
      texts_of_fromTemplate (fun _ => (List.take_sublist _ _).subset) given read lines first,
      texts_of_fromTemplate (fun _ => (List.drop_sublist _ _).subset) given read lines others⟩
  · have delegates := complete.methods last.imports.owner? fun _ _ held => held
    rw [passedOn_eq, List.map_append, ← List.append_assoc] at delegates
    exact congrArg (· ++ texts) delegates

/-- The delegate of a method that the superclass has as well stands once between the
sections of a template. -/
theorem template_surrounds_delegates :
    let get : MethodDecl := { name := "get", returns := ⟨"int"⟩ }
    let base : ClassDecl := ⟨"a.Base", .ordinary, none, [], [.method get]⟩
    let item : ClassDecl := ⟨"a.Item", .ordinary, some ⟨"a.Base"⟩, [], [.method get]⟩
    let template := "\n// first\n++++\n++++\n// last\n\n"
    let files : FileTree := ⟨[], [(["t"], .file template.toUTF8)]⟩
    let own : State := ⟨defaultSuffix, "t", .startingWith "a" .fold, [], []⟩
    let session : Session State :=
      ⟨.start (ClassIndex.empty.addAll [item, base]).1, ⟨files, .empty, own⟩⟩
    ∃ after closed,
      visitClass generator (.outside (.ofText "out")) item session = .ok ⟨⟩ after ∧
      after.world.own.released = [closed] ∧ closed.draft.methods =
        ["// first", delegateText closed.draft.imports.owner? get, "// last"] := by
  intro get base item template files own session
  have done : (match visitClass generator (.outside (.ofText "out")) item session with
      | .ok _ after => (after.ledger.generated.contains item.name,
        after.world.own.released.map (·.place),
        (after.world.files.read (session.ledger.settings.resource "t").text).toOption,
        (after.world.files.resolve (session.ledger.settings.resource "t").text).toOption.map (·.1))
      | .error _ _ => (false, [], none, none)) =
      (true, [["out", "a", "ItemWrapper.java"]], some template.toUTF8, some ["t"]) := by
    decide +kernel
  have delegated : item.methods.filter isDelegated = [get] := by decide +kernel
  have folded : (foldedMethods session.ledger.index own.policy item.superclass).filter isDelegated =
      [get] := by
    decide +kernel
  split at done
  · next after ran =>
    simp only [Prod.mk.injEq] at done
    obtain ⟨listed, places, read, stands⟩ := done
    obtain ⟨closed, first, others, released, -, -, sections, methods⟩ :=
      generated_class_body item (.ofText "out") session after (by decide +kernel) ran listed
    obtain ⟨place, content, leads, parted⟩ := sections (by decide)
    rw [FileTree.read, leads] at read
    rw [leads] at stands
    have same : content = template.toUTF8 := Option.some.inj read
    have apart : place ≠ closed.place := by
      rw [released] at places
      have standing : place = ["t"] := Option.some.inj stands
      have there : closed.place = ["out", "a", "ItemWrapper.java"] := (List.cons.inj places).1
      rw [there, standing]
      decide
    obtain ⟨text, decoded, front, behind⟩ := parted apart
    rw [same] at decoded
    cases (Text.decode_toUTF8 template).symm.trans decoded
    have before : first = ["// first"] := front.trans (by decide +kernel)
    have final : others = ["// last"] := behind.trans (by decide +kernel)
    refine ⟨after, closed, ran, released, ?_⟩
    rw [methods, delegated, folded, before, final]
    simp [unrepeated]
  · cases done

end DelegateClasses.Delegate
