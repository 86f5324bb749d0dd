import DelegateClasses.Processing.Session
import DelegateClasses.Processing.Superclasses

/-! The traversal of a declared class. Its members are handed to the generator
in order, then the methods of the superclasses that are folded. Classes nested
in a class are not generated. A superclass that is generated on its own is put
on the waiting list once the class is complete. -/
namespace DelegateClasses.Processing

variable {σ : Type}

/-- Hands the methods of a chain of superclasses to the generator. -/
def foldSuperclasses (generator : Generator σ) (position : Position) (chain : SuperclassChain) :
    Processing σ Unit := do
  chain.declarations.forM fun declared => do
    note ("Process super: " ++ declared.name)
    declared.methods.forM fun method =>
      hook fun settings => generator.inheritedMethod settings method position
  match chain.undeclared with
  | none => return ()
  | some superclass => reportUndeclared superclass position.className

/-- Puts a superclass on the waiting list, unless it is generated already. -/
def enqueueSuperclass (superclass : TypeRef) (className : String) : Processing σ Unit := do
  let ledger := (← get).ledger
  match ledger.index.lookup superclass with
  | none => reportUndeclared superclass className
  | some declared =>
    if !ledger.generated.contains declared.name then
      record fun ledger => { ledger with pending := ledger.pending ++ [declared] }

/-- A count in words. -/
def depthText (depth : Int) : String :=
  " depth: " ++ toString depth

/-- Generates a class, given how to visit its members. The policy is asked for once,
when the class starts, and decides for the whole chain of its superclasses. To
ask for it again at each superclass comes to the same as long as the generator
keeps its policy while it works on a class. -/
def generateClass (generator : Generator σ) (position : Position) (declared : ClassDecl)
    (visitMembers : Position → Processing σ Unit) : Processing σ Unit := do
  let depth := position.depth + 1
  if depth > 1 then
    note ("Skipping nested class: " ++ declared.name ++ depthText depth)
  else if (← get).ledger.generated.contains declared.name then
    note ("Already generated: " ++ declared.name)
  else
    note ("Start class: " ++ declared.name ++ depthText depth)
    if ← hook fun settings => generator.startClass settings declared position then
      let inside := { position with className := declared.name, depth }
      let session ← get
      let policy := generator.policy session.world.own
      closing (do
          visitMembers inside
          match policy.folded declared.superclass with
          | none => pure ()
          | some superclass =>
            foldSuperclasses generator inside
              (superclassChain session.ledger.index policy [] superclass)
          hook fun settings => generator.endClass settings declared inside)
        (generator.leaveClass declared)
      record (·.complete declared.name)
      note ("End class: " ++ declared.name ++ depthText position.depth)
      match policy.separated declared.superclass with
      | none => return ()
      | some superclass => enqueueSuperclass superclass declared.name
    else note ("Skipping class: " ++ declared.name)

mutual

/-- Visits a class. -/
def visitClass (generator : Generator σ) (position : Position) : ClassDecl → Processing σ Unit
  | ⟨name, kind, superclass, modifiers, members⟩ =>
    generateClass generator position ⟨name, kind, superclass, modifiers, members⟩ fun inside =>
      visitAll generator inside members

/-- Visits an element. Methods and fields count directly inside of a class. -/
def visit (generator : Generator σ) (position : Position) : Element → Processing σ Unit
  | .nested declared => visitClass generator position declared
  | .method declared =>
    if position.depth = 1 then hook fun settings => generator.method settings declared position
    else return ()
  | .field declared =>
    if position.depth = 1 then hook fun settings => generator.field settings declared position
    else return ()
  | .foreign label => throw (.foreignElement label)

/-- Visits elements one after the other. -/
def visitAll (generator : Generator σ) (position : Position) : List Element → Processing σ Unit
  | [] => return ()
  | element :: elements => do
    visit generator position element
    visitAll generator position elements

end

end DelegateClasses.Processing
