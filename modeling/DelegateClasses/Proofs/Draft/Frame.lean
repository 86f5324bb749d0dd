import DelegateClasses.Proofs.Draft.Parts
import DelegateClasses.Proofs.Imports.Reordered

/-! The frame of a class: all of it but its members and its sink. Of its imports only the
claims count, not their order. Main statement: the frame decides what an operation does and
what it adds, and adding a member leaves it alone. -/
namespace DelegateClasses.ClassDraft
open Imports Steps

variable {draft first second third : ClassDraft} {operation : Operation}
variable {operations : List Operation}

/-- The classes differ at most in their members and sinks, and in the order of their claims. -/
structure SameFrame (first second : ClassDraft) : Prop where
  named : first.className = second.className
  reach : first.available = second.available
  packaged : first.package = second.package
  opened : first.classLine = second.classLine
  ended : first.ended = second.ended
  imports : first.imports.SameClaims second.imports

theorem sameFrame_refl (distinct : (draft.imports.names.map DottedName.simple).Nodup) :
    SameFrame draft draft :=
  ⟨rfl, rfl, rfl, rfl, rfl, Registry.sameClaims_refl distinct⟩

theorem sameFrame_symm (same : SameFrame first second) : SameFrame second first :=
  ⟨same.named.symm, same.reach.symm, same.packaged.symm, same.opened.symm, same.ended.symm,
    Registry.sameClaims_symm same.imports⟩

theorem sameFrame_trans (same : SameFrame first second) (more : SameFrame second third) :
    SameFrame first third :=
  ⟨same.named.trans more.named, same.reach.trans more.reach, same.packaged.trans more.packaged,
    same.opened.trans more.opened, same.ended.trans more.ended,
    Registry.sameClaims_trans same.imports more.imports⟩

theorem SameFrame.scope (same : SameFrame first second) : first.scope = second.scope := by
  rw [ClassDraft.scope, ClassDraft.scope, same.packaged, same.reach]

/-- The work ends alike on classes with the same frame. -/
abbrev FrameDecides (work : Drafting α) : Prop :=
  Agrees SameFrame Eq work work

private theorem requireOpen_frame : FrameDecides requireOpen := by
  refine agrees_get fun first second same => ?_
  rw [same.ended, same.named]
  split
  · exact .error rfl same
  · exact .ok _ same

private theorem modify_frame {change : ClassDraft → ClassDraft}
    (each : ∀ first second, SameFrame first second → SameFrame (change first) (change second)) :
    FrameDecides (modify change : Drafting PUnit) :=
  fun first second same => .ok _ (each first second same)

private theorem change_frame {change : ClassDraft → ClassDraft}
    (each : ∀ first second, SameFrame first second → SameFrame (change first) (change second)) :
    FrameDecides (requireOpen >>= fun _ => modify change : Drafting PUnit) :=
  agrees_bind requireOpen_frame fun _ => modify_frame each

private theorem discard_frame {work : Drafting α} (decides : FrameDecides work) :
    FrameDecides (discard work : Drafting PUnit) :=
  agrees_bind decides fun _ => agrees_return _

private theorem startPackage_frame (name : String) : FrameDecides (startPackage name) := by
  refine agrees_bind requireOpen_frame fun _ => agrees_get fun first second same => ?_
  rw [same.packaged]
  cases second.package with
  | none => exact .ok _ { same with packaged := rfl }
  | some package =>
    dsimp only
    rw [same.named]
    split
    · exact .error rfl same
    · exact .ok _ same

private theorem startClass_frame (line : String) : FrameDecides (startClass line) :=
  change_frame fun _ _ same => { same with opened := rfl }

private theorem registerImport_frame (name : String) : FrameDecides (registerImport name) := by
  refine agrees_bind requireOpen_frame fun _ => agrees_get fun first second same => ?_
  rw [same.scope]
  split
  · obtain ⟨answer, claims⟩ := Registry.sameClaims_claim same.imports name true
    change Alike _ _ (.ok (first.imports.claim name true).1 _)
      (.ok (second.imports.claim name true).1 _)
    rw [answer]
    exact .ok _ { same with imports := claims }
  · exact .ok _ same

private theorem bind_frame (name : String) : FrameDecides (ClassDraft.bind name) :=
  modify_frame fun _ _ same =>
    { same with imports := (Registry.sameClaims_claim same.imports name false).2 }

private theorem renderTree_frame (type : TypeTree) : FrameDecides (renderTree type) := by
  refine agrees_bind requireOpen_frame fun _ => agrees_get fun first second same => ?_
  rw [same.scope]
  obtain ⟨spelling, claims⟩ := sameClaims_render type first.imports second.imports same.imports
  change Alike _ _ (.ok (render second.scope type first.imports).1 _)
    (.ok (render second.scope type second.imports).1 _)
  rw [spelling]
  exact .ok _ { same with imports := claims }

private theorem renderType_frame (type : TypeRef) : FrameDecides (renderType type) := by
  refine agrees_bind requireOpen_frame fun _ => ?_
  cases type.parse with
  | error fault => exact agrees_throw rfl
  | ok tree => exact renderTree_frame tree

private theorem signature_frame (name : String) (parameters : List ParameterDecl)
    (returns : TypeRef) (throws : List TypeRef) (modifiers : String) :
    FrameDecides (signature name parameters returns throws modifiers) := by
  refine agrees_bind (renderType_frame returns) fun _ => ?_
  refine agrees_bind (agrees_mapM (fun parameter => ?_) parameters) fun _ => ?_
  · exact agrees_bind (renderType_frame _) fun _ => agrees_return _
  · exact agrees_bind (agrees_mapM renderType_frame throws) fun _ => agrees_return _

private theorem addField_frame (declaration : String) : FrameDecides (addField declaration) :=
  change_frame fun _ _ same => { same with }

private theorem addConstructor_frame (definition : String) :
    FrameDecides (addConstructor definition) :=
  change_frame fun _ _ same => { same with }

private theorem addMethod_frame (definition : String) : FrameDecides (addMethod definition) :=
  change_frame fun _ _ same => { same with }

private theorem startWrapping_frame (type : TypeRef) (name : String) :
    FrameDecides (startWrapping type name) := by
  rw [startWrapping]
  cases type.package? with
  | none => exact agrees_throw rfl
  | some package =>
    refine agrees_bind (startPackage_frame package) fun _ => agrees_get fun first second same => ?_
    rw [same.named]
    refine alike_bind (startClass_frame _ first second same) fun _ => ?_
    refine agrees_bind (bind_frame _) fun _ => agrees_bind (renderType_frame _) fun _ => ?_
    exact agrees_bind (addField_frame _) fun _ => addConstructor_frame _

private theorem finish_frame : FrameDecides finish := by
  intro first second same
  cases ended : second.ended with
  | true =>
    have stopped := requireOpen_of_ended (same.ended.trans ended)
    rw [finish, bind_of_error stopped, bind_of_error (requireOpen_of_ended ended), same.named]
    exact .error rfl same
  | false =>
    obtain ⟨sink, ran⟩ := finish_of_open (same.ended.trans ended)
    obtain ⟨sinkToo, ranToo⟩ := finish_of_open ended
    rw [ran, ranToo]
    exact .ok _ { same with ended := rfl }

private theorem close_frame (same : SameFrame first second) :
    SameFrame first.close second.close := by
  rw [close_eq first, close_eq second]
  exact { same with }

/-- The frame of a class decides what becomes of it. -/
theorem after_frame (same : SameFrame first second) (operation : Operation) :
    SameFrame (operation.after first) (operation.after second) := by
  have decided {operation : Operation} (decides : FrameDecides operation.perform) :
      SameFrame (operation.after first) (operation.after second) :=
    (decides first second same).left
  cases operation with
  | startPackage name => exact decided (startPackage_frame name)
  | startClass line => exact decided (startClass_frame line)
  | registerImport name => exact decided (discard_frame (registerImport_frame name))
  | renderType type => exact decided (discard_frame (renderType_frame type))
  | renderTree type => exact decided (discard_frame (renderTree_frame type))
  | addField declaration => exact decided (addField_frame declaration)
  | addConstructor definition => exact decided (addConstructor_frame definition)
  | addMethod definition => exact decided (addMethod_frame definition)
  | startWrapping type name => exact decided (startWrapping_frame type name)
  | signature name parameters returns throws modifiers =>
    exact decided (discard_frame (signature_frame name parameters returns throws modifiers))
  | source => exact same
  | finish => exact decided finish_frame
  | close => exact close_frame same

theorem performAll_frame (same : SameFrame first second) (operations : List Operation) :
    SameFrame (performAll operations first) (performAll operations second) := by
  induction operations generalizing first second with
  | nil => exact same
  | cons operation operations ih => exact ih (after_frame same operation)

/-! ## What is added -/

private theorem beginWrapping_frame (same : SameFrame first second) (package : String) :
    SameFrame (first.beginWrapping package) (second.beginWrapping package) := by
  have claims := Registry.sameClaims_claim same.imports (DottedName.member package first.className)
    false
  refine { same with packaged := rfl, opened := ?_, imports := ?_ }
  · rw [beginWrapping, beginWrapping, same.named]
  · rw [beginWrapping, beginWrapping, ← same.named]
    exact claims.2

private theorem wrappingParts_frame (same : SameFrame first second) (type : TypeRef)
    (name package : String) :
    wrappingParts first type name package = wrappingParts second type name package := by
  have begun := beginWrapping_frame same package
  rw [wrappingParts, wrappingParts, begun.opened, same.named]
  cases TypeTree.parse type.qualifiedName with
  | error fault => rfl
  | ok tree =>
    simp only
    rw [begun.scope, (sameClaims_render tree _ _ begun.imports).1]

private theorem adds_frame (same : SameFrame first second) (operation : Operation) :
    operation.adds first = operation.adds second := by
  cases operation with
  | startWrapping type name =>
    rw [Operation.adds, Operation.adds]
    simp only [same.packaged, wrappingParts_frame same]
  | _ => rfl

theorem added_frame (same : SameFrame first second) (operations : List Operation) :
    added first operations = added second operations := by
  induction operations generalizing first second with
  | nil => rfl
  | cons operation operations ih =>
    rw [added, added, same.ended, adds_frame same, ih (after_frame same operation)]

/-! ## Members -/

/-- Whether the operation adds a member and does nothing else. -/
def Operation.isMember : Operation → Bool
  | .addField _ => true
  | .addConstructor _ => true
  | .addMethod _ => true
  | _ => false

/-- The operations that do more than to add a member. -/
def withoutMembers (operations : List Operation) : List Operation :=
  operations.filter (!·.isMember)

private theorem change_left (change : ClassDraft → ClassDraft) (draft : ClassDraft) :
    left ((requireOpen >>= fun _ => modify change : Drafting PUnit) draft) =
      if draft.ended then draft else change draft := by
  cases ended : draft.ended with
  | true =>
    rw [bind_of_error (requireOpen_of_ended ended)]
    rfl
  | false =>
    rw [change_of_open ended]
    rfl

/-- A member leaves the frame alone. -/
theorem member_frame (same : SameFrame first second) (member : operation.isMember = true) :
    SameFrame (operation.after first) second := by
  have kept {change : ClassDraft → ClassDraft} (still : SameFrame (change first) second) :
      SameFrame (left ((requireOpen >>= fun _ => modify change : Drafting PUnit) first))
        second := by
    rw [change_left]
    split
    · exact same
    · exact still
  cases operation with
  | addField declaration => exact kept { same with }
  | addConstructor definition => exact kept { same with }
  | addMethod definition => exact kept { same with }
  | _ => cases member

/-- The members that are added make no difference to the frame. -/
theorem performAll_withoutMembers (same : SameFrame first second) (operations : List Operation) :
    SameFrame (performAll operations first) (performAll (withoutMembers operations) second) := by
  induction operations generalizing first second with
  | nil => exact same
  | cons operation operations ih =>
    cases member : operation.isMember with
    | true =>
      rw [withoutMembers, List.filter_cons_of_neg (by simp [member])]
      exact ih (member_frame same member)
    | false =>
      rw [withoutMembers, List.filter_cons_of_pos (by simp [member])]
      exact ih (after_frame same operation)

end DelegateClasses.ClassDraft
