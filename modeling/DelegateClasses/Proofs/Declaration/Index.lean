import DelegateClasses.Declaration.Index

/-! What the index knows of classes that were declared. A class is added before the classes
nested in it, by the recursion along its members. Main statement: of several declarations of
a name the index keeps the last one, in the order in which they are entered. -/
namespace DelegateClasses.ClassIndex

variable {index : ClassIndex} {name other : String} {declared : ClassDecl}

private theorem find?_replaced (entries : List (String × ClassDecl)) :
    (entries.map fun entry => if entry.1 = name then (name, declared) else entry).find?
        (·.1 == other) =
      if other = name then (entries.find? (·.1 == name)).map fun _ => (name, declared)
      else entries.find? (·.1 == other) := by
  induction entries with
  | nil => simp
  | cons entry entries ih =>
    rw [List.map_cons, List.find?_cons, List.find?_cons, List.find?_cons, ih]
    by_cases here : entry.1 = name
    · by_cases same : other = name
      · simp [here, same]
      · have apart : (name == other) = false := by simpa using Ne.symm same
        simp [here, same, apart]
    · have apart : (entry.1 == name) = false := by simpa using here
      by_cases same : other = name
      · simp [here, same, apart]
      · simp [here, same]

/-- The declaration that is entered last is the one that counts. -/
theorem get?_insert : (index.insert name declared).get? other =
    if other = name then some declared else index.get? other := by
  rw [insert]
  split
  · next known =>
    rw [get?, find?_replaced]
    split
    · obtain ⟨entry, member, same⟩ := List.mem_map.1 (List.contains_iff_mem.1 known)
      have found : (index.entries.find? (·.1 == name)).isSome = true := by
        rw [List.find?_isSome]
        exact ⟨entry, member, by simpa using same⟩
      obtain ⟨first, found⟩ := Option.isSome_iff_exists.1 found
      rw [found]
      rfl
    · rfl
  · next fresh =>
    rw [get?, List.find?_append]
    by_cases same : other = name
    · have nothing : index.entries.find? (·.1 == name) = none := by
        rw [List.find?_eq_none]
        intro entry member named
        apply fresh
        rw [contains, List.contains_iff_mem]
        exact List.mem_map.2 ⟨entry, member, by simpa using named⟩
      simp [same, nothing]
    · have apart : (name == other) = false := by simpa using Ne.symm same
      simp [same, apart, get?]

/-! ## One class after the other -/

mutual

/-- A class and the classes nested in it, each before its own nested classes. -/
def withNested : ClassDecl → List ClassDecl
  | ⟨name, kind, superclass, modifiers, members⟩ =>
    ⟨name, kind, superclass, modifiers, members⟩ :: nestedIn members

/-- The classes that an element declares. -/
def declaredBy : Element → List ClassDecl
  | .nested declared => withNested declared
  | .method _ => []
  | .field _ => []
  | .foreign _ => []

/-- The classes that a list of members declares. -/
def nestedIn : List Element → List ClassDecl
  | [] => []
  | member :: members => declaredBy member ++ nestedIn members

end

/-- What was declared again before does not matter. -/
theorem foldl_enter_reports (classes : List ClassDecl) (index : ClassIndex)
    (repeated : List String) : classes.foldl enter (index, repeated) =
      ((classes.foldl enter (index, [])).1, repeated ++ (classes.foldl enter (index, [])).2) := by
  induction classes generalizing index repeated with
  | nil => rw [List.foldl_nil, List.foldl_nil, List.append_nil]
  | cons declared classes ih =>
    rw [List.foldl_cons, List.foldl_cons, ih (enter (index, repeated) declared).1,
      ih (enter (index, []) declared).1]
    simp only [enter]
    split
    · rw [List.nil_append, List.append_assoc]
    · rw [List.nil_append]

mutual

/-- A class is added by entering it before the classes nested in it, at every depth. -/
theorem add_eq (index : ClassIndex) :
    ∀ declared, index.add declared = (withNested declared).foldl enter (index, [])
  | ⟨_, _, _, _, members⟩ => by
    rw [add, withNested, List.foldl_cons, addNested_eq _ members]

theorem addNested_eq (state : ClassIndex × List String) :
    ∀ members, addNested state members = (nestedIn members).foldl enter state
  | [] => by
    rw [addNested, nestedIn]
    rfl
  | .nested declared :: members => by
    rw [addNested, addNested_eq _ members, add_eq _ declared, ← foldl_enter_reports, nestedIn,
      declaredBy, List.foldl_append]
  | .method _ :: members => by
    rw [addNested, nestedIn, declaredBy, List.nil_append, addNested_eq _ members]
  | .field _ :: members => by
    rw [addNested, nestedIn, declaredBy, List.nil_append, addNested_eq _ members]
  | .foreign _ :: members => by
    rw [addNested, nestedIn, declaredBy, List.nil_append, addNested_eq _ members]

end

private theorem foldl_addNext (classes : List ClassDecl) (index : ClassIndex)
    (repeated : List String) :
    classes.foldl addNext (index, repeated) =
      (classes.flatMap withNested).foldl enter (index, repeated) := by
  induction classes generalizing index repeated with
  | nil => rfl
  | cons declared classes ih =>
    rw [List.foldl_cons, List.flatMap_cons, List.foldl_append, addNext, add_eq, ih,
      ← foldl_enter_reports]

/-- Classes that are added one after the other are entered in the order of all their
declarations. -/
theorem addAll_eq (index : ClassIndex) (classes : List ClassDecl) :
    index.addAll classes = (classes.flatMap withNested).foldl enter (index, []) :=
  foldl_addNext classes index []

/-- The index after classes were entered one after the other. -/
theorem foldl_enter_fst (classes : List ClassDecl) (index : ClassIndex) (repeated : List String) :
    (classes.foldl enter (index, repeated)).1 =
      classes.foldl (fun index declared => index.insert declared.type.qualifiedName declared)
        index := by
  induction classes generalizing index repeated with
  | nil => rfl
  | cons declared classes ih => exact ih _ _

theorem addAll_append (index : ClassIndex) (classes others : List ClassDecl) :
    ((index.addAll classes).1.addAll others).1 = (index.addAll (classes ++ others)).1 := by
  rw [addAll_eq, addAll_eq, addAll_eq, foldl_enter_fst, foldl_enter_fst, foldl_enter_fst,
    List.flatMap_append, List.foldl_append]

private theorem get?_foldl_insert (classes : List ClassDecl) (index : ClassIndex) (name : String) :
    (classes.foldl (fun index declared => index.insert declared.type.qualifiedName declared)
        index).get? name =
      (classes.filter (·.type.qualifiedName = name)).getLast?.or (index.get? name) := by
  induction classes generalizing index with
  | nil => rfl
  | cons declared classes ih =>
    rw [List.foldl_cons, ih, get?_insert, List.filter_cons]
    by_cases same : name = declared.type.qualifiedName
    · rw [if_pos same, if_pos (by simpa using same.symm), List.getLast?_cons]
      cases (classes.filter (·.type.qualifiedName = name)).getLast? <;> rfl
    · rw [if_neg same, if_neg (by simpa using Ne.symm same)]

/-- **The last declaration counts.** The index gives the last of the declarations of a
name, nested ones included. -/
theorem lookup_addAll (classes : List ClassDecl) (type : TypeRef) :
    (empty.addAll classes).1.lookup type = ((classes.flatMap withNested).filter
      (·.type.qualifiedName = type.qualifiedName)).getLast? := by
  rw [lookup, addAll_eq, foldl_enter_fst, get?_foldl_insert]
  exact Option.or_none

end DelegateClasses.ClassIndex
