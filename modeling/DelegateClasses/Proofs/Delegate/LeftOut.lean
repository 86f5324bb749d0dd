import DelegateClasses.Proofs.Delegate.Body
import DelegateClasses.Proofs.Delegate.Layout

/-! Methods of superclasses that are left out. A class that is being generated holds the
delegates of the methods that it was handed, and a method of a superclass is left out if its
text is among them. Main statement: where all types are named with their packages, it is left
out exactly if the class holds the delegate of a method that agrees with it in all names and
types. -/
namespace DelegateClasses.Delegate
open ClassDraft Imports Steps

variable {settings : Settings} {target : Target} {draft : ClassDraft} {method : MethodDecl}
variable {world started before : World State} {own folded : List MethodDecl}

/-- A method whose types are named with their packages can be passed on. -/
theorem definition_succeeds (regular : Regular method) : Succeeds (definition method) := by
  have readable {type : TypeRef} (packaged : type.Packaged) : ∃ tree, type.parse = .ok tree :=
    packaged.imp fun _ both => both.1
  refine succeeds_bind (signature_succeeds _ _ ?_) fun _ => succeeds_return _
  rw [List.forall_mem_cons, List.forall_mem_append, List.forall_mem_map]
  exact ⟨readable regular.returns, fun parameter member =>
    readable (regular.parameters parameter member).2, fun type member =>
    readable (regular.throws type member)⟩

/-- Nothing prevents such a method from being passed on, unless the class is finished. -/
theorem addInherited_succeeds (settings : Settings) (here : At target draft world)
    (unfinished : draft.ended = false) (regular : Regular method) (delegated : isDelegated method = true) :
    ∃ next, addInherited settings method world = .ok ⟨⟩ next := by
  obtain ⟨text, written, defined, still⟩ := definition_succeeds regular draft unfinished
  obtain ⟨middle, drafted, -, between⟩ := drafting_of_ok here defined
  obtain ⟨same, looked, -, there⟩ := drafting_of_ok between
    (show (do return (← get).methods : Drafting _) written = .ok written.methods written from rfl)
  rw [addInherited, if_pos delegated, bind_of_ok drafted, bind_of_ok looked]
  split
  · exact ⟨_, rfl⟩
  · obtain ⟨next, added, -, -⟩ := drafting_of_ok there
      (show ClassDraft.addMethod text written = _ from bind_of_ok (requireOpen_of_open still))
    exact ⟨next, added⟩

/-- There is only one innermost class. -/
theorem draft_unique {other : ClassDraft} (here : At target draft world)
    (there : At target other world) : draft = other := by
  rw [At] at here there
  rw [here] at there
  simpa using there

/-- The text of a method is among those of others only if it agrees with one of them. -/
theorem mem_delegateTexts {held : List MethodDecl} {owner? : String → Option String}
    (regular : ∀ other ∈ held, Regular other) (fits : Regular method) :
    delegateText owner? method ∈ held.map (delegateText owner?) ↔
      ∃ other ∈ held, profile other = profile method ∧ Agree other method := by
  rw [List.mem_map]
  refine exists_congr fun other => and_congr_right fun member => ?_
  exact ⟨agree_of_spelledDefinition_eq (regular other member) fits,
    fun both => spelledDefinition_eq both.1 both.2⟩

/-- A class without a template holds the delegates of some of the methods that it was handed. -/
theorem held_of_delegates {owner? : String → Option String}
    (account : Delegates [] own folded draft) (keeps : Keeps draft.imports owner?) :
    ∃ held : List MethodDecl, held.Sublist ((own ++ folded).filter isDelegated) ∧
      draft.methods = held.map (delegateText owner?) := by
  have methods := account.methods owner? keeps
  rw [List.nil_append] at methods
  refine ⟨_, ?_, methods⟩
  rw [List.filter_append]
  exact passedOn_sublist

/-- **No method is dropped wrongly.** A class that was begun without a template, and was
handed methods whose types are named with their packages, holds the delegates of some of
them. It takes every further method of a superclass that calls are passed on to, and leaves
it out exactly if it holds the delegate of a method that agrees with it in all names and
types. -/
theorem left_out_exactly_if_held (declared : ClassDecl) (position : Position)
    (bare : world.own.templateName = "")
    (begun : startClass settings declared position world = .ok true started)
    (handed : Handed settings started own folded before)
    (regular : ∀ other ∈ own ++ folded, isDelegated other = true → Regular other)
    (fits : Regular method) (delegated : isDelegated method = true) :
    ∃ (next : World State) (target : Target) (draft taken : ClassDraft) (held : List MethodDecl),
      addInherited settings method before = .ok ⟨⟩ next ∧
      At target draft before ∧ At target taken next ∧
      held.Sublist ((own ++ folded).filter isDelegated) ∧
      draft.methods = held.map (delegateText taken.imports.owner?) ∧
      (taken.methods = draft.methods ↔
        ∃ other ∈ held, profile other = profile method ∧ Agree other method) ∧
      (taken.methods ≠ draft.methods →
        taken.methods = draft.methods ++ [delegateText taken.imports.owner? method]) := by
  obtain ⟨target, first, -, there, -, underway, account, template⟩ := startClass_delegates begun
  rw [template.none bare] at account
  obtain ⟨draft, here, account⟩ := delegates_of_handed there account handed
  obtain ⟨-, current, unwritten, now⟩ := underway_of_handed underway handed
  obtain rfl := draft_unique here now
  obtain ⟨next, ran⟩ := addInherited_succeeds settings here unwritten.unfinished fits delegated
  rcases addInherited_at here ran with ⟨-, text, written, defined, taken⟩ | ⟨ignored, -⟩
  · obtain ⟨same, spelled⟩ := definition_renders method draft text written defined
    have keeps : Keeps draft.imports written.imports.owner? := by
      rw [same]
      exact keeps_of_useAll fun _ _ owned => owned
    obtain ⟨held, listed, methods⟩ := held_of_delegates account keeps
    have known : ∀ other ∈ held, Regular other := fun other member =>
      regular other (List.mem_filter.1 (listed.subset member)).1
        (List.mem_filter.1 (listed.subset member)).2
    have now := spelled written.imports.owner? fun _ _ owned => owned
    have among : text ∈ draft.methods ↔
        ∃ other ∈ held, profile other = profile method ∧ Agree other method := by
      rw [methods, now]
      exact mem_delegateTexts known fits
    refine ⟨next, target, draft, _, held, ran, here, taken, listed, methods, ?_, fun changed => ?_⟩
    · rw [← among]
      refine ⟨fun kept => ?_, fun there => if_pos there⟩
      by_contra absent
      rw [if_neg absent] at kept
      simp at kept
    · rw [if_neg fun there => changed (if_pos there), now]
      rfl
  · rw [delegated] at ignored
    cases ignored

/-- A method whose types differ from those of an own one in blanks only is left out. -/
theorem spaced_override_left_out :
    let get : MethodDecl := { name := "getList", returns := ⟨"java.util.List"⟩ }
    let spaced : MethodDecl := { name := "getList", returns := ⟨" java.util.List "⟩ }
    let item : ClassDecl := ⟨"org.Item", .ordinary, none, ["public"], [.method get]⟩
    let world : World State := ⟨⟨[], []⟩, .empty, .start defaultSuffix .never⟩
    ∃ started before next target draft taken,
      startClass .default item (.outside (.ofText "out")) world = .ok true started ∧
      Handed .default started [get] [] before ∧
      addInherited .default spaced before = .ok ⟨⟩ next ∧
      At target draft before ∧ At target taken next ∧
      draft.methods.length = 1 ∧ taken.methods = draft.methods := by
  intro get spaced item world
  have steps : value? (startClass .default item (.outside (.ofText "out")) world) = some true ∧
      let started := left (startClass .default item (.outside (.ofText "out")) world)
      value? (addMethod get started) = some ⟨⟩ ∧
      (left (addMethod get started)).own.current.map (·.draft.methods.length) = [1] := by
    decide +kernel
  obtain ⟨first, second, count⟩ := steps
  have begun := eq_ok_of_value? first
  have handed : Handed .default _ [get] [] _ := .own .start (eq_ok_of_value? second)
  have name : TypeTree.Name "java.util.List".toList := TypeTree.isTypeName_iff.1 (by decide +kernel)
  have names : ∀ full ∈ (TypeTree.named "java.util.List" [] 0).names,
      DottedName.isQualified full = true ∧
        DottedName.isPrimitive (DottedName.simple full) = false := by
    rw [TypeTree.names_named]
    decide +kernel
  have tight : get.returns.parse = .ok (.named "java.util.List" [] 0) :=
    TypeTree.parse_name name (by decide +kernel)
  have padded : TypeTree.DerivesPadded ([' '] ++ ("java.util.List".toList ++ []) ++ [' '])
      (.plain "java.util.List".toList 0) :=
    .padded Text.blanks_space (.plain name (by decide +kernel) .none) Text.blanks_space
  have loose : TypeTree.parse " java.util.List " = _ := TypeTree.parse_of_derives padded
  have regular : Regular get := ⟨by decide +kernel, ⟨_, tight, names⟩, by simp [get], by simp [get]⟩
  have fits : Regular spaced :=
    ⟨by decide +kernel, ⟨_, loose, names⟩, by simp [spaced], by simp [spaced]⟩
  obtain ⟨next, target, draft, taken, held, ran, here, there, listed, methods, kept, -⟩ :=
    left_out_exactly_if_held item _ rfl begun handed (by simpa using fun _ => regular) fits
      (by decide +kernel)
  have single : held.length = 1 := by
    rw [At] at here
    rw [here, List.map_cons, List.cons.injEq, methods, List.length_map] at count
    exact count.1
  obtain rfl : held = [get] := by
    rcases List.sublist_singleton.1 listed with nothing | single'
    · simp [nothing] at single
    · exact single'
  refine ⟨_, _, next, target, draft, taken, begun, handed, ran, here, there, by simp [methods], ?_⟩
  exact kept.2 ⟨get, by simp, rfl, rfl, tight.trans loose.symm, rfl⟩

end DelegateClasses.Delegate
