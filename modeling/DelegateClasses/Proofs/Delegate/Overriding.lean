import DelegateClasses.Proofs.Delegate.Calls
import DelegateClasses.Proofs.Delegate.Filing
import Mathlib.Data.List.Induction

/-! Which methods of superclasses a delegating class repeats. A method of a
superclass is left out where the text of its delegate is there already. A method
that overrides it has this text only if both agree in the names of their
parameters, in their result and in what they throw; otherwise both are written.
Main statement: the delegates of a generated class are its own methods and those
of its superclasses whose text is new, and where overriding methods agree no two
delegates have the same name and parameter types. -/
namespace DelegateClasses.Delegate
open ClassDraft Imports Steps Processing

/-! ## Methods that override -/

/-- What decides whether a method overrides another: its name and the types of
its parameters. -/
def profile (method : MethodDecl) : String × List (Except Malformed TypeTree) :=
  (method.name, method.parameters.map (·.type.parse))

/-- The methods agree in all that is left once their profiles are the same. -/
structure Agree (first second : MethodDecl) : Prop where
  names : first.parameters.map (·.name) = second.parameters.map (·.name)
  returns : first.returns.parse = second.returns.parse
  throws : first.throws.map TypeRef.parse = second.throws.map TypeRef.parse

variable {first second method : MethodDecl} {spelling : String → String}

private theorem spelled_eq_of_parse {type other : TypeRef} (same : type.parse = other.parse) :
    type.spelled spelling = other.spelled spelling := by
  rw [TypeRef.spelled, TypeRef.spelled, same]

private theorem spelled_eq_of_parses {types others : List TypeRef}
    (same : types.map TypeRef.parse = others.map TypeRef.parse) :
    types.map (·.spelled spelling) = others.map (·.spelled spelling) := by
  induction types generalizing others with
  | nil => simp_all
  | cons type types ih =>
    cases others with
    | nil => cases same
    | cons other others =>
      obtain ⟨head, rest⟩ := List.cons.inj same
      rw [List.map_cons, List.map_cons, spelled_eq_of_parse head, ih rest]

theorem declaredParameters_eq {parameters others : List ParameterDecl}
    (types : parameters.map (·.type.parse) = others.map (·.type.parse))
    (names : parameters.map (·.name) = others.map (·.name)) :
    parameters.map (declaredParameter · spelling) = others.map (declaredParameter · spelling) := by
  induction parameters generalizing others with
  | nil => simp_all
  | cons parameter parameters ih =>
    cases others with
    | nil => cases types
    | cons other others =>
      obtain ⟨type, moreTypes⟩ := List.cons.inj types
      obtain ⟨name, moreNames⟩ := List.cons.inj names
      have same : parameter.name = other.name := name
      rw [List.map_cons, List.map_cons, ih moreTypes moreNames, declaredParameter,
        declaredParameter, spelled_eq_of_parse type, same]

/-- The call that is passed on is made from names only. -/
theorem delegatedCall_eq (name : first.name = second.name)
    (names : first.parameters.map (·.name) = second.parameters.map (·.name)) :
    delegatedCall first = delegatedCall second := by
  rw [delegatedCall_eq_call, delegatedCall_eq_call, name, names]

theorem delegation_eq (same : profile first = profile second) (agree : Agree first second) :
    delegation first = delegation second := by
  have void : first.returns.isVoid = second.returns.isVoid := by
    rw [Bool.eq_iff_iff, isVoid_iff, isVoid_iff, agree.returns]
  rw [delegation, delegation, void, delegatedCall_eq (congrArg Prod.fst same) agree.names]

/-- Methods that agree are passed on by the same text. -/
theorem spelledDefinition_eq (same : profile first = profile second) (agree : Agree first second) :
    spelledDefinition first spelling = spelledDefinition second spelling := by
  obtain ⟨name, types⟩ := Prod.mk.inj same
  rw [spelledDefinition, spelledDefinition, name, spelled_eq_of_parse agree.returns,
    declaredParameters_eq types agree.names, spelled_eq_of_parses agree.throws,
    delegation_eq same agree]

/-! ## The methods that calls are passed on to -/

/-- The methods that calls are passed on to: those of the class, and of the
others each whose text is not there yet. -/
def passedOn (text : MethodDecl → String) (opening : List String)
    (own folded : List MethodDecl) : List MethodDecl :=
  folded.foldl (fun present method =>
    if text method ∈ opening ++ present.map text then present else present ++ [method]) own

variable {text : MethodDecl → String} {opening : List String} {own folded : List MethodDecl}

theorem passedOn_nil : passedOn text opening own [] = own := rfl

theorem passedOn_append : passedOn text opening own (folded ++ [method]) =
    if text method ∈ opening ++ (passedOn text opening own folded).map text
    then passedOn text opening own folded
    else passedOn text opening own folded ++ [method] := by
  rw [passedOn, List.foldl_append]
  rfl

/-- Calls are passed on to methods that were handed over, in their order. -/
theorem passedOn_sublist : (passedOn text opening own folded).Sublist (own ++ folded) := by
  induction folded using List.reverseRecOn with
  | nil => exact List.sublist_append_left own []
  | append_singleton folded method ih =>
    rw [passedOn_append, ← List.append_assoc]
    split
    · exact ih.trans (List.sublist_append_left _ _)
    · exact ih.append_right _

/-- A method whose text is not there yet is not left out. -/
theorem mem_passedOn_of_new
    (new : text method ∉ opening ++ (own ++ folded).map text) (later : List MethodDecl) :
    method ∈ passedOn text opening own (folded ++ method :: later) := by
  induction later using List.reverseRecOn with
  | nil =>
    have absent : text method ∉ opening ++ (passedOn text opening own folded).map text :=
      fun there => new (List.append_subset.2 ⟨List.subset_append_left _ _,
        List.subset_append_of_subset_right _ (List.map_subset _ passedOn_sublist.subset)⟩ there)
    rw [passedOn_append, if_neg absent]
    exact List.mem_append_right _ (List.mem_singleton.2 rfl)
  | append_singleton later last ih =>
    rw [← List.cons_append, ← List.append_assoc, passedOn_append]
    split
    · exact ih
    · exact List.mem_append_left _ ih

/-- If the text is decided by a key, no key occurs twice. -/
theorem passedOn_nodup {key : MethodDecl → κ} (distinct : (own.map key).Nodup)
    (decided : ∀ first ∈ own ++ folded, ∀ second ∈ own ++ folded,
      key first = key second → text first = text second) :
    ((passedOn text opening own folded).map key).Nodup := by
  induction folded using List.reverseRecOn with
  | nil => exact distinct
  | append_singleton folded method ih =>
    rw [← List.append_assoc] at decided
    have before := ih fun first member second other =>
      decided first (List.mem_append_left _ member) second (List.mem_append_left _ other)
    rw [passedOn_append]
    split
    · exact before
    · next absent =>
      rw [List.map_append, List.nodup_append]
      refine ⟨before, by simp, ?_⟩
      intro held among last single same
      obtain ⟨earlier, passed, rfl⟩ := List.mem_map.1 among
      obtain rfl := List.mem_singleton.1 single
      have handed := passedOn_sublist.subset passed
      refine absent (List.mem_append_right _ (List.mem_map.2 ⟨earlier, passed, ?_⟩))
      exact decided earlier (List.mem_append_left _ handed) method
        (List.mem_append_right _ (List.mem_singleton.2 rfl)) same

/-! ## The delegates of a class -/

/-- The method that passes a call on, with types spelled by the owners of names. -/
def delegateText (owner? : String → Option String) (method : MethodDecl) : String :=
  spelledDefinition method (shortened owner?)

/-- The account of the methods of a class: behind an opening they are those that
calls are passed on to, of all that were handed over. -/
structure Delegates (opening : List String) (own folded : List MethodDecl)
    (draft : ClassDraft) : Prop where
  packaged : ∃ package, draft.package = some package
  writable : draft.sink = some .fresh
  methods : ∀ owner?, Keeps draft.imports owner? → draft.methods = opening ++
    (passedOn (delegateText owner?) opening (own.filter isDelegated)
      (folded.filter isDelegated)).map (delegateText owner?)

variable {target : Target} {draft : ClassDraft} {world after started : World State}

/-- A method of the class itself is always passed on. -/
theorem delegates_own (here : At target draft world) (account : Delegates opening own [] draft)
    (ran : addMethod method world = .ok ⟨⟩ after) :
    ∃ next, At target next after ∧ Delegates opening (own ++ [method]) [] next := by
  rcases addMethod_at here ran with ⟨delegated, text, written, defined, there⟩ | ⟨ignored, there⟩
  · obtain ⟨rfl, spelled⟩ := definition_renders method draft text written defined
    refine ⟨_, there, account.packaged, account.writable, fun owner? keeps => ?_⟩
    have earlier := account.methods owner? (keeps_of_useAll keeps)
    simp only [List.filter_nil, passedOn_nil] at earlier ⊢
    rw [earlier, spelled owner? keeps]
    simp [delegated, delegateText]
  · refine ⟨draft, there, account.packaged, account.writable, ?_⟩
    simpa [ignored] using account.methods

/-- A method of a superclass is passed on unless its text is there already. -/
theorem delegates_inherited (here : At target draft world)
    (account : Delegates opening own folded draft)
    (ran : addInherited settings method world = .ok ⟨⟩ after) :
    ∃ next, At target next after ∧ Delegates opening own (folded ++ [method]) next := by
  rcases addInherited_at here ran with ⟨delegated, text, written, defined, there⟩ | ⟨ignored, there⟩
  · obtain ⟨rfl, spelled⟩ := definition_renders method draft text written defined
    refine ⟨_, there, account.packaged, account.writable, fun owner? keeps => ?_⟩
    have earlier := account.methods owner? (keeps_of_useAll keeps)
    have same : text = delegateText owner? method := spelled owner? keeps
    simp only [List.filter_append, List.filter_cons_of_pos delegated, List.filter_nil,
      passedOn_append, earlier, same]
    split
    · rfl
    · rw [List.map_append, List.append_assoc, List.map_singleton]
  · refine ⟨draft, there, account.packaged, account.writable, ?_⟩
    simpa [ignored] using account.methods

/-- The account starts when the class is started, behind the text of a template. -/
theorem startClass_delegates
    (ran : startClass settings declared position world = .ok true after) :
    ∃ target draft, target.before = world.own ∧ At target draft after ∧
      Opened target world.files after.files ∧ Underway target after.files after ∧
      Delegates draft.methods [] [] draft ∧
      FromTemplate settings world.own.templateName after.files (List.take 1) draft.methods := by
  obtain ⟨package, opened, started, owned, begun, drafted, same, files⟩ := startClass_begun ran
  obtain ⟨place, name, -, made⟩ := begin_at begun
  obtain ⟨empty, here⟩ := made package declared.name
  have underway := startDraft_underway settings owned here ⟨rfl, rfl, rfl⟩
  rw [drafted] at underway
  obtain ⟨still, current, unwritten, now⟩ := underway
  obtain ⟨⟨⟩, wrapped, wrapping, sections⟩ := bind_eq_ok drafted
  obtain ⟨next, worked, there⟩ := drafting_at here wrapping
  obtain ⟨packaged, writable, none⟩ := startWrapping_placed worked
  obtain ⟨texts, added, first⟩ := addFirstSection_at there sections
  have kept := (left_drafting here (ClassDraft.startWrapping declared.type Fragment.wrappedName)).1
  rw [wrapping] at kept
  have behind : opened.files = after.files := still.symm.trans files.symm
  rw [behind] at empty
  rw [show wrapped.files = after.files from kept.trans behind] at first
  refine ⟨_, _, rfl, same.trans added, empty, ⟨rfl, current, unwritten, same.trans now⟩,
    ⟨packaged, writable, fun _ _ => ?_⟩, ?_⟩
  · rw [List.filter_nil, passedOn_nil, List.map_nil, List.append_nil]
  · rw [none]
    exact first

/-- The account tells all methods that were handed over. -/
theorem delegates_of_handed (here : At target draft started)
    (account : Delegates opening [] [] draft)
    (handed : Handed settings started own folded world) :
    ∃ next, At target next world ∧ Delegates opening own folded next := by
  induction handed with
  | start => exact ⟨draft, here, account⟩
  | reported handed ran ih =>
    obtain ⟨next, there, all⟩ := ih
    cases ran
    exact ⟨next, there, all⟩
  | own handed ran ih =>
    obtain ⟨next, there, all⟩ := ih
    exact delegates_own there all ran
  | inherited handed ran ih =>
    obtain ⟨next, there, all⟩ := ih
    exact delegates_inherited there all ran

/-- A generated class passes calls on to its own methods, and to each method of the
superclasses that are folded into it whose text is not there yet; texts of a
template stand before and behind. If its own methods have different profiles, and
methods with the same profile agree in the rest, no two delegates have the same
profile. A method that overrides another without agreeing does not keep it out. -/
theorem generated_class_delegates (declared : ClassDecl) (directory : Path)
    (session after : Session State)
    (fresh : session.ledger.generated.contains declared.name = false)
    (ran : visitClass generator (.outside directory) declared session = .ok ⟨⟩ after)
    (listed : after.ledger.generated.contains declared.name = true) :
    let own := declared.methods.filter isDelegated
    let folded := (foldedMethods session.ledger.index session.world.own.policy
      declared.superclass).filter isDelegated
    ∃ closed opening ending,
      after.world.own.released = session.world.own.released ++ [closed] ∧
      closed.draft.sink = some ⟨[closed.draft.source], 1⟩ ∧
      (∃ files : FileTree, after.world.files =
        files.overwrite closed.place closed.draft.source.toUTF8) ∧
      (session.world.own.templateName = "" → opening = [] ∧ ending = []) ∧
      let text := delegateText closed.draft.imports.owner?
      let delegates := passedOn text opening own folded
      closed.draft.methods = opening ++ delegates.map text ++ ending ∧
      delegates.Sublist (own ++ folded) ∧
      (∀ earlier method later, folded = earlier ++ method :: later →
        text method ∉ opening ++ (own ++ earlier).map text → method ∈ delegates) ∧
      ((own.map profile).Nodup →
        (∀ first ∈ own ++ folded, ∀ second ∈ own ++ folded, profile first = profile second →
          Agree first second) →
        (delegates.map profile).Nodup) := by
  intro own folded
  obtain ⟨before, started, handed, ended, same, starting, all, ending, kept, files⟩ :=
    visitClass_parts declared directory fresh ran listed
  obtain ⟨target, draft, origin, here, -, -, account, first⟩ := startClass_delegates starting
  have policy : started.own.policy = session.world.own.policy := by
    rw [← same, ← origin, here]
  rw [policy] at all
  obtain ⟨last, there, complete⟩ := delegates_of_handed here account all
  obtain ⟨package, packaged⟩ := complete.packaged
  obtain ⟨texts, others, -, released, written⟩ :=
    leave_at there packaged complete.writable ending
  rw [origin, same] at released others
  rw [← kept] at released
  rw [← files] at written
  rw [same] at first
  refine ⟨givenUp target _, draft.methods, texts, released, ?_⟩
  rw [source_givenUp]
  refine ⟨rfl, written, fun without => ⟨first.none without, others.none without⟩, ?_,
    passedOn_sublist, ?_, ?_⟩
  · exact congrArg (· ++ texts) (complete.methods _ fun _ _ held => held)
  · rintro earlier method later parts new
    rw [parts]
    exact mem_passedOn_of_new new later
  · intro distinct agree
    exact passedOn_nodup distinct fun first member second other alike =>
      spelledDefinition_eq alike (agree first member second other alike)

/-- A method that is overridden as it is declared is passed on once. -/
theorem override_passed_on_once :
    let get : MethodDecl := { name := "getName", returns := ⟨"java.lang.String"⟩ }
    let base : ClassDecl := ⟨"org.Base", .ordinary, none, ["public"], [.method get]⟩
    let item : ClassDecl := ⟨"org.Item", .ordinary, some ⟨"org.Base"⟩, ["public"], [.method get]⟩
    let index := (ClassIndex.empty.addAll [item, base]).1
    let own := State.start defaultSuffix (.startingWith "org" .fold)
    ∃ after closed,
      visitClass generator (.outside (.ofText "out")) item
        ⟨.start index, ⟨⟨[], []⟩, .empty, own⟩⟩ = .ok ⟨⟩ after ∧
      after.world.own.released = [closed] ∧
      ∃ delegates : List MethodDecl, closed.draft.methods =
          delegates.map (delegateText closed.draft.imports.owner?) ∧
        (delegates.map profile).Nodup ∧ get ∈ delegates := by
  intro get base item index own
  have done : (match visitClass generator (.outside (.ofText "out")) item
      ⟨.start index, ⟨⟨[], []⟩, .empty, own⟩⟩ with
      | .ok _ after => after.ledger.generated.contains item.name
      | .error _ _ => false) = true := by
    decide +kernel
  have delegated : item.methods.filter isDelegated = [get] := by decide +kernel
  have folded : (foldedMethods index own.policy item.superclass).filter isDelegated = [get] := by
    decide +kernel
  split at done
  · next after ran =>
    obtain ⟨closed, opening, ending, released, -, -, bare, methods, -, -, once⟩ :=
      generated_class_delegates item _ _ after (by decide +kernel) ran done
    obtain ⟨rfl, rfl⟩ := bare rfl
    simp only [Ledger.start, delegated, folded, List.nil_append, List.append_nil] at methods once
    refine ⟨after, closed, ran, released, _, methods, once (by simp) ?_, ?_⟩
    · intro first member second other _
      obtain rfl : first = get := by simpa using member
      obtain rfl : second = get := by simpa using other
      exact ⟨rfl, rfl, rfl⟩
    · simp [passedOn]
  · cases done

/-- A method that is overridden with a narrower result is passed on twice. -/
theorem narrowed_override_passed_on_twice :
    let get : MethodDecl := { name := "getName", returns := ⟨"java.lang.String"⟩ }
    let wider : MethodDecl := { name := "getName", returns := ⟨"java.lang.Object"⟩ }
    let base : ClassDecl := ⟨"org.Base", .ordinary, none, ["public"], [.method wider]⟩
    let item : ClassDecl := ⟨"org.Item", .ordinary, some ⟨"org.Base"⟩, ["public"], [.method get]⟩
    let index := (ClassIndex.empty.addAll [item, base]).1
    let own := State.start defaultSuffix (.startingWith "org" .fold)
    (item.methods.map profile).Nodup ∧ (base.methods.map profile).Nodup ∧
    profile get = profile wider ∧
    ∃ after closed,
      visitClass generator (.outside (.ofText "out")) item
        ⟨.start index, ⟨⟨[], []⟩, .empty, own⟩⟩ = .ok ⟨⟩ after ∧
      after.world.own.released = [closed] ∧
      closed.draft.methods =
        ["  public String getName() \x7b\n    return entity.getName();\n  \x7d",
          "  public Object getName() \x7b\n    return entity.getName();\n  \x7d"] := by
  intro get wider base item index own
  have done : (match visitClass generator (.outside (.ofText "out")) item
      ⟨.start index, ⟨⟨[], []⟩, .empty, own⟩⟩ with
      | .ok _ after => after.world.own.released.map (·.draft.methods)
      | .error _ _ => []) =
      [["  public String getName() \x7b\n    return entity.getName();\n  \x7d",
          "  public Object getName() \x7b\n    return entity.getName();\n  \x7d"]] := by
    decide +kernel
  refine ⟨List.pairwise_singleton _ _, List.pairwise_singleton _ _, rfl, ?_⟩
  split at done
  · next after ran =>
    obtain ⟨closed, rest, released, methods, none⟩ := List.map_eq_cons_iff.1 done
    rw [List.map_eq_nil_iff.1 none] at released
    exact ⟨after, closed, ran, released, methods⟩
  · cases done

end DelegateClasses.Delegate
