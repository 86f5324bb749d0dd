import DelegateClasses.Proofs.Delegate.Starting
import DelegateClasses.Proofs.Processing.Visits

/-! The run of one class through the generator: it is started, handed its own
methods and those of the superclasses that are folded into it, ended, and given
up. Main statement: a class that was generated is the last one given up, and its
text is made from the account of all methods that it was handed. -/
namespace DelegateClasses.Delegate
open Imports Steps Processing

variable {target : Target} {handed : List MethodDecl} {draft : ClassDraft}
variable {world later : World State} {session after : Session State}

/-! ## Start and end -/

/-- The account of a class starts with its own name and that of the class that it wraps. -/
theorem startDraft_at (declared : ClassDecl)
    (here : At target (.new target.className (some .fresh) defaultAvailable) world)
    (parsed : declared.type.parse = .ok (TypeTree.named target.source given 0))
    (owned : DottedName.package? target.source = some target.package)
    (plain : DottedName.isQualified target.className = false)
    (ran : startDraft settings declared world = .ok ⟨⟩ later) : Working target [] later := by
  obtain ⟨⟨⟩, wrapped, wrapping, sections⟩ := bind_eq_ok ran
  obtain ⟨next, worked, there⟩ := drafting_at here wrapping
  obtain ⟨texts, added, -⟩ := addFirstSection_at there sections
  exact ⟨_, added, collected_texts (startWrapping_collected parsed owned plain worked) texts⟩

/-- A class that is started is given its own name and that of the class that it
wraps, and nothing else. -/
theorem startClass_working (declared : ClassDecl) (directory : Path)
    (parsed : declared.type.parse = .ok (TypeTree.named full given 0))
    (owned : DottedName.package? full = some package)
    (plain : DottedName.isQualified (world.own.generatedName declared) = false)
    (named : world.own.generatedName declared ≠ "")
    (ran : startClass settings declared (.outside directory) world = .ok true later) :
    ∃ place, Working ⟨world.own, outputPath directory package (world.own.generatedName declared),
      place, package, world.own.generatedName declared, full⟩ [] later := by
  have inside : declared.package? = some package := by
    rw [ClassDecl.package?, TypeRef.package?, TypeRef.qualifiedName,
      TypeTree.withoutArguments_of_parse parsed, owned]
  obtain ⟨among, opened, started, within, begun, drafted, same, -⟩ := startClass_begun ran
  cases inside.symm.trans within
  obtain ⟨place, name, kept, here⟩ := begin_at begun
  obtain rfl := kept named
  obtain ⟨draft, there, account⟩ :=
    startDraft_at declared (here package full).2 parsed owned plain drafted
  exact ⟨place, draft, same.trans there, account⟩

/-- The class as it is given up: finished, its text written, its sink closed. -/
def givenUp (target : Target) (draft : ClassDraft) : PlacedDraft :=
  ⟨target.path, target.place, { draft with ended := true, sink := some ⟨[draft.source], 1⟩ }⟩

/-- Giving a class up does not change its text. -/
theorem source_givenUp (target : Target) (draft : ClassDraft) :
    (givenUp target draft).draft.source = draft.source := by
  unfold ClassDraft.source
  rfl

/-- The generator has given the class up, and its file holds what was written. -/
def GivenUp (target : Target) (handed : List MethodDecl) (world : World State) : Prop :=
  ∃ draft, Collected target handed draft ∧
    world.own.released = target.before.released ++ [givenUp target draft] ∧
    ∃ files : FileTree, world.files = files.overwrite target.place draft.source.toUTF8

/-- A class that is finished is given up with its text. -/
theorem leave_finished (here : At target draft world) (packaged : draft.package = some package)
    (writable : draft.sink = some .fresh)
    (ran : drafting ClassDraft.finish world = .ok ⟨⟩ later) :
    (leave later).own.released = target.before.released ++ [givenUp target draft] ∧
      ∃ files : FileTree, (leave later).files =
        files.overwrite target.place draft.source.toUTF8 := by
  obtain ⟨next, finished, there⟩ := drafting_at here ran
  obtain rfl := change_eq_ok finished
  simp only [packaged, writable, Sink.fresh, List.nil_append] at there
  rw [At] at there
  simp only [leave, there, PlacedDraft.release, ClassDraft.close]
  refine ⟨?_, later.files, ?_⟩
  · simp [givenUp, packaged]
  · simp

/-- The rest of a template is added before a class is given up. -/
theorem leave_at (here : At target draft world) (packaged : draft.package = some package)
    (writable : draft.sink = some .fresh)
    (ran : endClass settings world = .ok ⟨⟩ later) :
    ∃ texts, FromTemplate settings target.before.templateName world.files (List.drop 1) texts ∧
      ReadToEnd settings target.before.templateName world.files ∧
      (leave later).own.released = target.before.released ++
        [givenUp target { draft with methods := draft.methods ++ texts }] ∧
      ∃ files : FileTree, (leave later).files = files.overwrite target.place
        { draft with methods := draft.methods ++ texts }.source.toUTF8 := by
  obtain ⟨⟨⟩, middle, sections, rest⟩ := bind_eq_ok ran
  obtain ⟨texts, added, others, complete⟩ := addOtherSections_at here sections
  exact ⟨texts, others, complete, leave_finished added packaged writable rest⟩

/-! ## The methods that are handed over -/

/-- The generator was handed methods of the class itself and then methods of its
superclasses, one after the other, with nothing but reports in between. -/
inductive Handed (settings : Settings) (started : World State) :
    List MethodDecl → List MethodDecl → World State → Prop where
  | start : Handed settings started [] [] started
  | reported {world later : World State} (handed : Handed settings started own folded world)
      (ran : Hook.report level topic message world = .ok ⟨⟩ later) :
      Handed settings started own folded later
  | own {world later : World State} (handed : Handed settings started own [] world)
      (ran : addMethod method world = .ok ⟨⟩ later) :
      Handed settings started (own ++ [method]) [] later
  | inherited {world later : World State} (handed : Handed settings started own folded world)
      (ran : addInherited settings method world = .ok ⟨⟩ later) :
      Handed settings started own (folded ++ [method]) later

variable {settings : Settings} {started : World State} {own folded : List MethodDecl}

/-- The account of a class tells all methods that were handed over. -/
theorem working_of_handed (working : Working target [] started)
    (handed : Handed settings started own folded world) : Working target (own ++ folded) world := by
  induction handed with
  | start => exact working
  | reported handed ran ih => exact report_working ih ran
  | own handed ran ih =>
    rw [List.append_nil] at ih ⊢
    exact addMethod_working ih ran
  | inherited handed ran ih =>
    rw [← List.append_assoc]
    exact addInherited_working ih ran

private theorem hook_eq_ok {step : Settings → Hook State α}
    (ran : hook step session = .ok value after) :
    step session.ledger.settings session.world = .ok value after.world ∧
      after.ledger = session.ledger := by
  simp only [hook] at ran
  split at ran
  · next worked =>
    cases ran
    exact ⟨worked, rfl⟩
  · cases ran

private theorem note_handed (handed : Handed settings started own folded session.world)
    (ran : note message session = .ok ⟨⟩ after) :
    Handed settings started own folded after.world ∧ after.ledger = session.ledger := by
  obtain ⟨noted, same⟩ := hook_eq_ok ran
  exact ⟨handed.reported noted, same⟩

/-- A class inside of the class is passed over. -/
theorem nested_handed (declared : ClassDecl) (inside : position.depth = 1)
    (handed : Handed settings started own folded session.world)
    (ran : visitClass generator position declared session = .ok ⟨⟩ after) :
    Handed settings started own folded after.world ∧ after.ledger = session.ledger := by
  rw [visitClass_inside inside] at ran
  exact note_handed handed ran

/-- The generator is handed the methods among the members, in their order. -/
theorem visitAll_handed (members : List Element) (inside : position.depth = 1)
    (handed : Handed settings started own [] session.world)
    (ran : visitAll generator position members session = .ok ⟨⟩ after) :
    Handed settings started (own ++ members.filterMap Element.method?) [] after.world ∧
      after.ledger = session.ledger := by
  induction members generalizing own session with
  | nil =>
    rw [visitAll] at ran
    cases ran
    rw [List.filterMap_nil, List.append_nil]
    exact ⟨handed, rfl⟩
  | cons member members ih =>
    rw [visitAll] at ran
    obtain ⟨⟨⟩, middle, first, rest⟩ := bind_eq_ok ran
    cases member with
    | nested declared =>
      rw [visit] at first
      obtain ⟨passed, same⟩ := nested_handed declared inside handed first
      rw [← same]
      exact ih passed rest
    | method declared =>
      rw [visit, if_pos inside] at first
      obtain ⟨added, same⟩ := hook_eq_ok first
      have all := ih (handed.own added) rest
      rwa [List.append_assoc, same] at all
    | field declared =>
      rw [visit, if_pos inside] at first
      obtain ⟨unchanged, same⟩ := hook_eq_ok first
      obtain ⟨-, world⟩ := EStateM.Result.ok.inj unchanged
      rw [world] at handed
      rw [← same]
      exact ih handed rest
    | foreign label =>
      rw [visit] at first
      cases first

/-- The methods of superclasses that are folded into a class. -/
def foldedMethods (index : ClassIndex) (policy : SuperclassPolicy) (superclass : Option TypeRef) :
    List MethodDecl :=
  match policy.folded superclass with
  | none => []
  | some superclass =>
    (superclassChain index policy [] superclass).declarations.flatMap ClassDecl.methods

/-- The generator is handed the methods of a chain of superclasses, nearest first. -/
theorem foldSuperclasses_handed (chain : SuperclassChain)
    (handed : Handed session.ledger.settings started own [] session.world)
    (ran : foldSuperclasses generator position chain session = .ok ⟨⟩ after) :
    Handed session.ledger.settings started own
      (chain.declarations.flatMap ClassDecl.methods) after.world ∧
      after.ledger = session.ledger := by
  obtain ⟨⟨⟩, middle, folded, rest⟩ := bind_eq_ok ran
  obtain ⟨all, same⟩ := forM_collects (fun folded (state : Session State) =>
      Handed session.ledger.settings started own folded state.world ∧
        state.ledger = session.ledger) ClassDecl.methods []
    (fun declared _ done state next ⟨held, books⟩ round => by
      obtain ⟨⟨⟩, noted, first, methods⟩ := bind_eq_ok round
      obtain ⟨reported, still⟩ := note_handed held first
      have each := forM_collects (fun folded (state : Session State) =>
          Handed session.ledger.settings started own folded state.world ∧
            state.ledger = session.ledger) (fun method => [method]) done
        (fun method _ done state next ⟨held, books⟩ round => by
          obtain ⟨added, still⟩ := hook_eq_ok round
          rw [books] at added still
          exact ⟨held.inherited added, still⟩) ⟨reported, still.trans books⟩ methods
      simpa using each) ⟨handed, rfl⟩ folded
  rw [List.nil_append] at all
  cases ending : chain.undeclared with
  | none =>
    rw [ending] at rest
    cases rest
    exact ⟨all, same⟩
  | some superclass =>
    rw [ending] at rest
    simp only [reportUndeclared, Processing.report] at rest
    obtain ⟨warned, still⟩ := hook_eq_ok rest
    exact ⟨all.reported warned, still.trans same⟩

/-- A class is handed its own methods, and those of the superclasses that are
folded into it. -/
theorem handMembers_handed (declared : ClassDecl) (inside : position.depth = 1)
    (ran : handMembers generator position index policy declared session = .ok ⟨⟩ after) :
    Handed session.ledger.settings session.world declared.methods
      (foldedMethods index policy declared.superclass) after.world := by
  obtain ⟨⟨⟩, visited, own, rest⟩ := bind_eq_ok ran
  obtain ⟨handed, same⟩ := visitAll_handed declared.members inside .start own
  rw [List.nil_append] at handed
  rw [foldedMethods]
  cases chosen : policy.folded declared.superclass with
  | none =>
    rw [chosen] at rest
    cases rest
    exact handed
  | some superclass =>
    rw [chosen] at rest
    rw [← same] at handed ⊢
    obtain ⟨all, -⟩ := foldSuperclasses_handed _ handed rest
    exact all

/-! ## The whole class -/

/-- A class that was generated was started, handed its own methods and those of
the superclasses that are folded into it, ended, and given up. -/
theorem visitClass_parts (declared : ClassDecl) (directory : Path)
    (fresh : session.ledger.generated.contains declared.name = false)
    (ran : visitClass generator (.outside directory) declared session = .ok ⟨⟩ after)
    (listed : after.ledger.generated.contains declared.name = true) :
    ∃ before started handed ended,
      before.own = session.world.own ∧
      startClass session.ledger.settings declared (.outside directory) before = .ok true started ∧
      Handed session.ledger.settings started declared.methods
        (foldedMethods session.ledger.index started.own.policy declared.superclass) handed ∧
      endClass session.ledger.settings handed = .ok ⟨⟩ ended ∧
      after.world.own = (leave ended).own ∧ after.world.files = (leave ended).files := by
  have visit := visitClass_ends generator directory declared session
  rw [ran] at visit
  cases visit with
  | known already => simp [already] at fresh
  | declined _ start =>
    rw [noted_ledger, fresh] at listed
    cases listed
  | completed _ start members ending log =>
    have handed := handMembers_handed declared rfl members
    exact ⟨asked declared session, _, _, _, rfl, start, handed, ending, rfl, rfl⟩

/-- A class that was generated is given up last, with the account of its own
methods and of those of the superclasses that are folded into it. -/
theorem visitClass_givenUp (declared : ClassDecl) (directory : Path)
    (parsed : declared.type.parse = .ok (TypeTree.named full given 0))
    (owned : DottedName.package? full = some package)
    (plain : DottedName.isQualified (session.world.own.generatedName declared) = false)
    (named : session.world.own.generatedName declared ≠ "")
    (fresh : session.ledger.generated.contains declared.name = false)
    (ran : visitClass generator (.outside directory) declared session = .ok ⟨⟩ after)
    (listed : after.ledger.generated.contains declared.name = true) :
    ∃ place, GivenUp ⟨session.world.own,
        outputPath directory package (session.world.own.generatedName declared), place, package,
        session.world.own.generatedName declared, full⟩
      (declared.methods ++
        foldedMethods session.ledger.index session.world.own.policy declared.superclass)
      after.world := by
  obtain ⟨before, started, handed, ended, own, starting, all, ending, kept, files⟩ :=
    visitClass_parts declared directory fresh ran listed
  rw [← own] at plain named ⊢
  obtain ⟨place, first, begun, account⟩ :=
    startClass_working declared directory parsed owned plain named starting
  have policy : started.own.policy = before.own.policy := by rw [begun]
  rw [policy] at all
  obtain ⟨draft, here, collected⟩ := working_of_handed ⟨first, begun, account⟩ all
  obtain ⟨texts, -, -, released, written⟩ :=
    leave_at here collected.packaged collected.writable ending
  rw [← kept] at released
  rw [← files] at written
  exact ⟨place, _, collected_texts collected texts, released, written⟩

end DelegateClasses.Delegate
