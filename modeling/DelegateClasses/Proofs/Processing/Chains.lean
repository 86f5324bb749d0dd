import DelegateClasses.Processing.Visit
import DelegateClasses.Proofs.Declaration.Index
import DelegateClasses.Proofs.Steps
import Mathlib.Data.List.Nodup
import Mathlib.Data.List.Perm.Subperm

/-! Chains of superclasses whose methods are folded into a class. The chain is followed from
reference to declaration and from declaration to reference, however the references are
written; a name that was met before ends it, so it ends in every index. Main statement: the
methods of the declarations on the chain are handed to the generator, in their order and no
others, and no declaration is met twice. -/
namespace DelegateClasses

namespace ClassIndex

/-- What is found for a reference goes by the name of the reference. -/
theorem qualifiedName_of_lookup {classes : List ClassDecl} {type : TypeRef}
    {declared : ClassDecl} (found : (empty.addAll classes).1.lookup type = some declared) :
    declared.type.qualifiedName = type.qualifiedName := by
  rw [lookup_addAll] at found
  simpa using List.of_mem_filter (List.mem_of_getLast? found)

end ClassIndex

/-- A chain of superclasses from a reference, each given by its reference and what is found
for it, when the names that were visited are not entered again. -/
structure FollowsChain (index : ClassIndex) (policy : SuperclassPolicy) (visited : List String)
    (start : TypeRef) (links : List (TypeRef × ClassDecl)) : Prop where
  /-- The chain starts with what is found for the reference, unless that was visited. -/
  starts : links.head? =
    if start.qualifiedName ∈ visited then none else (index.lookup start).map (start, ·)
  found : ∀ link ∈ links, index.lookup link.1 = some link.2
  /-- Each link refers to the next one, and the policy folds it. -/
  linked : links.IsChain fun link next => policy.folded link.2.superclass = some next.1
  /-- No name is met twice. -/
  distinct : (links.map (·.1.qualifiedName)).Nodup
  fresh : ∀ link ∈ links, link.1.qualifiedName ∉ visited
  /-- What the last link refers to is not folded, was visited, or is not declared. -/
  stops : ∀ last ∈ links.getLast?, ∀ next, policy.folded last.2.superclass = some next →
    next.qualifiedName ∈ visited ++ links.map (·.1.qualifiedName) ∨ index.lookup next = none

variable {index : ClassIndex} {policy : SuperclassPolicy} {visited : List String}
variable {start : TypeRef} {links : List (TypeRef × ClassDecl)}

/-- The chain from a declared reference goes on with the chain from the next one. -/
theorem followsChain_cons {declared : ClassDecl} {next : TypeRef}
    (fresh : start.qualifiedName ∉ visited) (found : index.lookup start = some declared)
    (folded : policy.folded declared.superclass = some next)
    (rest : FollowsChain index policy (start.qualifiedName :: visited) next links) :
    FollowsChain index policy visited start ((start, declared) :: links) where
  starts := by rw [if_neg fresh, found]; rfl
  found := List.forall_mem_cons.2 ⟨found, rest.found⟩
  linked := by
    cases links with
    | nil => exact .singleton _
    | cons link links =>
      have first := rest.starts
      split at first
      · cases first
      · obtain ⟨_, -, same⟩ := Option.map_eq_some_iff.1 first.symm
        rw [List.isChain_cons_cons]
        exact ⟨by rw [← same]; exact folded, rest.linked⟩
  distinct := by
    rw [List.map_cons, List.nodup_cons]
    refine ⟨fun member => ?_, rest.distinct⟩
    obtain ⟨link, among, same⟩ := List.mem_map.1 member
    exact rest.fresh link among (same ▸ List.mem_cons_self)
  fresh := List.forall_mem_cons.2
    ⟨fresh, fun link among visited => rest.fresh link among (List.mem_cons_of_mem _ visited)⟩
  stops := by
    intro last ended other more
    cases links with
    | nil =>
      cases ended
      cases folded.symm.trans more
      have first := rest.starts
      split at first
      · next met => exact .inl (by simpa [or_comm] using met)
      · exact .inr (Option.map_eq_none_iff.1 first.symm)
    | cons link links =>
      rw [List.getLast?_cons_cons] at ended
      refine (rest.stops last ended other more).imp_left fun met => ?_
      simpa [or_left_comm] using met

theorem superclassChain_follows (index : ClassIndex) (policy : SuperclassPolicy)
    (visited : List String) (start : TypeRef) :
    ∃ links, FollowsChain index policy visited start links ∧
      (superclassChain index policy visited start).declarations = links.map Prod.snd := by
  fun_induction superclassChain index policy visited start with
  | case1 visited start met =>
    exact ⟨[], ⟨by rw [if_pos met]; rfl, by simp, .nil, .nil, by simp, by simp⟩, rfl⟩
  | case2 visited start fresh absent =>
    exact ⟨[], ⟨by rw [if_neg fresh, absent]; rfl, by simp, .nil, .nil, by simp, by simp⟩, rfl⟩
  | case3 visited start fresh declared found stopped =>
    refine ⟨[(start, declared)], ⟨by rw [if_neg fresh, found]; rfl, by simpa using found,
      .singleton _, by simp, by simpa using fresh, ?_⟩, rfl⟩
    intro last ended next folded
    cases ended
    cases stopped.symm.trans folded
  | case4 visited start fresh declared found next folded others ih =>
    obtain ⟨links, follows, same⟩ := ih
    exact ⟨(start, declared) :: links, followsChain_cons fresh found folded follows,
      congrArg (declared :: ·) same⟩

/-- No declaration is on a chain twice. -/
theorem declarations_nodup {classes : List ClassDecl}
    (follows : FollowsChain (ClassIndex.empty.addAll classes).1 policy visited start links) :
    (links.map Prod.snd).Nodup := by
  have names : (links.map Prod.snd).map (·.type.qualifiedName) =
      links.map (·.1.qualifiedName) := by
    rw [List.map_map]
    exact List.map_congr_left fun link member =>
      ClassIndex.qualifiedName_of_lookup (follows.found link member)
  refine List.Nodup.of_map (fun declared : ClassDecl => declared.type.qualifiedName) ?_
  rw [names]
  exact follows.distinct

private theorem length_le_size (follows : FollowsChain index policy visited start links) :
    links.length ≤ index.size := by
  have declared : links.map (·.1.qualifiedName) ⊆ index.names := by
    intro name member
    obtain ⟨link, among, rfl⟩ := List.mem_map.1 member
    exact ClassIndex.mem_names_of_get? (follows.found link among)
  have fewer := (follows.distinct.subperm declared).length_le
  rwa [List.length_map, ClassIndex.names, List.length_map] at fewer

namespace Processing

variable {σ : Type} {generator : Generator σ} {position : Position}
variable {first session : Session σ} {methods done more : List MethodDecl}

/-- A method of a superclass is handed to the generator. -/
def handInherited (generator : Generator σ) (position : Position) (method : MethodDecl) :
    Processing σ Unit :=
  hook fun settings => generator.inheritedMethod settings method position

/-- The generator took some methods of superclasses, one after the other; in between there
were only reports. -/
inductive Folded (generator : Generator σ) (position : Position) (first : Session σ) :
    List MethodDecl → Session σ → Prop where
  | start : Folded generator position first [] first
  | reported {methods : List MethodDecl} {session : Session σ}
      (before : Folded generator position first methods session) (log : Log) :
      Folded generator position first methods { session with world := { session.world with log } }
  | method {methods : List MethodDecl} {method : MethodDecl} {session after : Session σ}
      (before : Folded generator position first methods session)
      (ran : handInherited generator position method session = .ok ⟨⟩ after) :
      Folded generator position first (methods ++ [method]) after

/-- How it ends to hand over methods: all of them were taken, or one failed when those before
it had been taken. -/
inductive FoldingEnds (generator : Generator σ) (position : Position) (first : Session σ)
    (methods : List MethodDecl) : EStateM.Result Failure (Session σ) Unit → Prop where
  | taken {session : Session σ} (all : Folded generator position first methods session) :
      FoldingEnds generator position first methods (.ok ⟨⟩ session)
  | failed {earlier later : List MethodDecl} {method : MethodDecl} {session after : Session σ}
      {failure : Failure} (parts : methods = earlier ++ method :: later)
      (before : Folded generator position first earlier session)
      (ran : handInherited generator position method session = .error failure after) :
      FoldingEnds generator position first methods (.error failure after)

theorem foldingEnds_bind {work : Processing σ Unit} {next : Unit → Processing σ Unit}
    (ends : FoldingEnds generator position first done (work session))
    (rest : ∀ middle, Folded generator position first done middle →
      FoldingEnds generator position first (done ++ more) (next ⟨⟩ middle)) :
    FoldingEnds generator position first (done ++ more) ((work >>= next) session) := by
  simp only [bind, EStateM.bind]
  generalize work session = result at ends
  cases ends with
  | taken all => exact rest _ all
  | @failed earlier later method _ _ _ parts before ran =>
    have further : done ++ more = earlier ++ method :: (later ++ more) := by
      rw [parts, List.append_assoc, List.cons_append]
    exact .failed further before ran

private theorem note_foldingEnds (taken : Folded generator position first done session)
    (message : String) : FoldingEnds generator position first done (note message session) :=
  .taken (.reported taken _)

private theorem methods_foldingEnds (taken : Folded generator position first done session)
    (methods : List MethodDecl) : FoldingEnds generator position first (done ++ methods)
      (methods.forM (handInherited generator position) session) := by
  induction methods generalizing done session with
  | nil =>
    rw [List.append_nil]
    exact .taken taken
  | cons method methods ih =>
    have one : FoldingEnds generator position first (done ++ [method])
        (handInherited generator position method session) := by
      cases ran : handInherited generator position method session with
      | ok value after => exact .taken (.method taken ran)
      | error failure after => exact .failed rfl taken ran
    rw [List.append_cons]
    exact foldingEnds_bind one fun middle all => ih all

/-- The methods of the declarations on a chain are handed to the generator, and no others. -/
theorem foldSuperclasses_ends (generator : Generator σ) (position : Position)
    (chain : SuperclassChain) (session : Session σ) :
    FoldingEnds generator position session (chain.declarations.flatMap ClassDecl.methods)
      (foldSuperclasses generator position chain session) := by
  have declarations (declarations : List ClassDecl) : ∀ {done : List MethodDecl}
      {middle : Session σ}, Folded generator position session done middle →
      FoldingEnds generator position session (done ++ declarations.flatMap ClassDecl.methods)
        ((declarations.forM fun declared => do
          note ("Process super: " ++ declared.name)
          declared.methods.forM (handInherited generator position) : Processing σ Unit)
          middle) := by
    induction declarations with
    | nil =>
      intro done middle taken
      rw [List.flatMap_nil, List.append_nil]
      exact .taken taken
    | cons declared declarations ih =>
      intro done middle taken
      rw [List.flatMap_cons, ← List.append_assoc]
      refine foldingEnds_bind ?_ fun _ all => ih all
      exact foldingEnds_bind (note_foldingEnds taken _) fun _ all =>
        methods_foldingEnds all declared.methods
  rw [foldSuperclasses, ← List.append_nil (chain.declarations.flatMap ClassDecl.methods)]
  refine foldingEnds_bind (declarations chain.declarations .start) fun middle all => ?_
  rw [List.append_nil]
  cases chain.undeclared with
  | none => exact .taken all
  | some superclass => exact .taken (.reported all _)

/-- **Folding follows the chain.** Whatever was declared and whichever superclasses the
policy folds, the chain from a reference ends. It has no declaration twice, and no more than
the index. Of the methods of its declarations, in this order, a generator takes all and no
others, or those before one that fails. -/
theorem methods_folded_along_chain (classes : List ClassDecl) (policy : SuperclassPolicy)
    (start : TypeRef) (generator : Generator σ) (position : Position) (session : Session σ) :
    let index := (ClassIndex.empty.addAll classes).1
    let chain := superclassChain index policy [] start
    ∃ links, FollowsChain index policy [] start links ∧
      chain.declarations = links.map Prod.snd ∧
      chain.declarations.Nodup ∧ chain.declarations.length ≤ index.size ∧
      FoldingEnds generator position session (links.flatMap fun link => link.2.methods)
        (foldSuperclasses generator position chain session) := by
  intro index chain
  obtain ⟨links, follows, same⟩ := superclassChain_follows index policy [] start
  refine ⟨links, follows, same, same ▸ declarations_nodup follows, ?_, ?_⟩
  · rw [same, List.length_map]
    exact length_le_size follows
  · have ends := foldSuperclasses_ends generator position chain session
    rwa [same, List.flatMap_map] at ends

/-- Classes that extend each other are each met once, however their names are written. -/
example : (superclassChain (ClassIndex.empty.addAll
      [⟨"a.Bag<T>", .ordinary, some ⟨" a.Box < T > "⟩, ["public"], []⟩,
        ⟨"a.Box", .ordinary, some ⟨"a.Bag<X>"⟩, ["public"], []⟩]).1
    (.startingWith "a." .fold) [] ⟨"a.Bag"⟩).declarations.map (·.name) = ["a.Bag<T>", "a.Box"] := by
  decide +kernel

end Processing

end DelegateClasses
