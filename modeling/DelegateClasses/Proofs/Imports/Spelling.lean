import DelegateClasses.Proofs.DottedName
import DelegateClasses.Proofs.Imports.Ownership
import DelegateClasses.Proofs.TypeTree.Canonical

/-! How a file spells types. A rendered text is the written form of the type
with some names cut down to their simple names, and which ones follows from the
owners of the simple names. Owners never change, so the texts rendered first
keep their meaning. Main statement: every rendered text is read back, and with
its undotted names replaced by their owners it is the type that was rendered. -/
namespace DelegateClasses.TypeTree

mutual

/-- The qualified names of the nodes, each node before its arguments and bound. -/
def names : TypeTree → List String
  | ⟨_, qualified, arguments, _, _, bound⟩ =>
    qualified.toList ++ namesAll arguments ++ match bound with
      | none => []
      | some type => names type

/-- The qualified names of the nodes of several types. -/
def namesAll : List TypeTree → List String
  | [] => []
  | type :: types => names type ++ namesAll types

/-- The type with other qualified names. -/
def rename (spelling : String → String) : TypeTree → TypeTree
  | ⟨name, qualified, arguments, dimensions, kind, bound⟩ =>
    let content := match bound with
      | none => none
      | some type => some (rename spelling type)
    match qualified with
    | none => ⟨name, none, renameAll spelling arguments, dimensions, kind, content⟩
    | some full => ⟨DottedName.simple (spelling full), some (spelling full),
        renameAll spelling arguments, dimensions, kind, content⟩

/-- Several types with other qualified names. -/
def renameAll (spelling : String → String) : List TypeTree → List TypeTree
  | [] => []
  | type :: types => rename spelling type :: renameAll spelling types

end

theorem namesAll_eq_flatMap (types : List TypeTree) : namesAll types = types.flatMap names := by
  induction types with
  | nil => rfl
  | cons type types ih => rw [namesAll, ih, List.flatMap_cons]

private theorem renameAll_eq_map (types : List TypeTree) :
    renameAll spelling types = types.map (rename spelling) := by
  induction types with
  | nil => rfl
  | cons type types ih => rw [renameAll, ih, List.map_cons]

theorem names_anything : anything.names = [] := by
  simp [anything, names, namesAll]

theorem names_bounded : (bounded kind content).names = content.names := by
  simp [bounded, names, namesAll]

theorem names_primitive : (primitive written count).names = [] := by
  simp [primitive, names, namesAll]

theorem names_named : (named full given count).names = full :: namesAll given := by
  simp [named, names]

theorem rename_anything : anything.rename spelling = anything := by
  simp [anything, rename, renameAll]

theorem rename_bounded :
    (bounded kind content).rename spelling = bounded kind (content.rename spelling) := by
  simp [bounded, rename, renameAll]

theorem rename_primitive : (primitive written count).rename spelling = primitive written count := by
  simp [primitive, rename, renameAll]

theorem rename_named : (named full given count).rename spelling =
    named (spelling full) (given.map (rename spelling)) count := by
  simp [named, rename, renameAll_eq_map]

/-- A renaming that takes back another gives the tree back. -/
theorem rename_rename (wellFormed : WellFormed tree)
    (back : ∀ full ∈ tree.names, second (first full) = full) :
    (tree.rename first).rename second = tree := by
  induction wellFormed with
  | anything => rw [rename_anything, rename_anything]
  | bounded word bound ih =>
    rw [names_bounded] at back
    rw [rename_bounded, rename_bounded, ih back]
  | primitive listed => rw [rename_primitive, rename_primitive]
  | @named full given count name ordinary each ih =>
    rw [names_named, namesAll_eq_flatMap] at back
    have arguments : (given.map (rename first)).map (rename second) = given := by
      rw [List.map_map]
      refine (List.map_congr_left fun argument member => ?_).trans (List.map_id given)
      exact ih argument member fun full among =>
        back full (List.mem_cons_of_mem _ (List.mem_flatMap.2 ⟨argument, member, among⟩))
    rw [rename_named, rename_named, back full (by simp), arguments]

/-- A tree stays well formed when its names are changed to ordinary ones. -/
theorem wellFormed_rename (wellFormed : WellFormed tree)
    (names : ∀ full ∈ tree.names, Name (spelling full).toList)
    (ordinary : ∀ full ∈ tree.names, DottedName.isPrimitive (spelling full) = false) :
    WellFormed (tree.rename spelling) := by
  induction wellFormed with
  | anything =>
    rw [rename_anything]
    exact .anything
  | bounded word bound ih =>
    rw [names_bounded] at names ordinary
    rw [rename_bounded]
    exact .bounded word (ih names ordinary)
  | primitive listed =>
    rw [rename_primitive]
    exact .primitive listed
  | @named full given count _ _ each ih =>
    rw [names_named, namesAll_eq_flatMap] at names ordinary
    rw [rename_named]
    refine .named (names full (by simp)) (ordinary full (by simp)) fun argument member => ?_
    obtain ⟨given, among, rfl⟩ := List.mem_map.1 member
    have inside : ∀ name ∈ given.names, name ∈ full :: _ := fun name listed =>
      List.mem_cons_of_mem full (List.mem_flatMap.2 ⟨given, among, listed⟩)
    exact ih given among (fun name listed => names name (inside name listed))
      fun name listed => ordinary name (inside name listed)

theorem name_of_mem_names (wellFormed : WellFormed tree) :
    ∀ full ∈ tree.names, Name full.toList ∧ DottedName.isPrimitive full = false := by
  induction wellFormed with
  | anything => simp [names_anything]
  | bounded word bound ih => rwa [names_bounded]
  | primitive listed => simp [names_primitive]
  | @named full given count name ordinary each ih =>
    rw [names_named, namesAll_eq_flatMap]
    intro other member
    rcases List.mem_cons.1 member with rfl | later
    · exact ⟨name, ordinary⟩
    · obtain ⟨argument, among, listed⟩ := List.mem_flatMap.1 later
      exact ih argument among other listed

/-- The simple name of a name is an identifier. -/
theorem name_simple (name : Name full) : Identifier (DottedName.lastSegment full) := by
  induction name with
  | single identifier =>
    rw [DottedName.lastSegment_of_no_dot (identifier_no_dot identifier)]
    exact identifier
  | dotted identifier others ih => rwa [DottedName.lastSegment_append]

end DelegateClasses.TypeTree

namespace DelegateClasses.Imports
open TypeTree

variable {scope : Scope} {registry : Registry}

/-- How a name is written where the owners of simple names are known. -/
def shortened (owner? : String → Option String) (full : String) : String :=
  if owner? (DottedName.simple full) = some full then DottedName.simple full else full

/-- The name that is meant where the owners of simple names are known. -/
def expanded (owner? : String → Option String) (written : String) : String :=
  if DottedName.isQualified written then written else (owner? written).getD written

theorem expanded_shortened (owner? : String → Option String)
    (dotted : DottedName.isQualified full = true) :
    expanded owner? (shortened owner? full) = full := by
  by_cases owned : owner? (DottedName.simple full) = some full
  · simp [shortened, expanded, owned, DottedName.isQualified_simple]
  · simp [shortened, expanded, owned, dotted]

theorem name_shortened (name : Name full.toList) : Name (shortened owner? full).toList := by
  rw [shortened]
  split
  · rw [DottedName.simple, String.toList_ofList]
    exact .single (name_simple name)
  · exact name

theorem shortened_ordinary (ordinary : DottedName.isPrimitive full = false)
    (simple : DottedName.isPrimitive (DottedName.simple full) = false) :
    DottedName.isPrimitive (shortened owner? full) = false := by
  rw [shortened]
  split
  · exact simple
  · exact ordinary

/-! ## One node -/

theorem render_anything : render scope anything registry = (wildcardName, registry) := by
  simp [anything, render]

theorem render_bounded : render scope (bounded kind content) registry =
    (boundText kind (render scope content registry).1, (render scope content registry).2) := by
  simp [bounded, render]

theorem render_primitive (listed : DottedName.isPrimitive written = true) :
    render scope (primitive written count) registry = (applied written [] count, registry) := by
  have ordinary : written ≠ wildcardName := by
    rintro rfl
    cases listed
  simp [primitive, render, Scope.spell, renderAll, ordinary]

theorem render_named (name : Name full.toList) :
    render scope (named full given count) registry =
      (applied (if (scope.use full registry).1 then DottedName.simple full else full)
        (renderAll scope given (scope.use full registry).2).1 count,
        (renderAll scope given (scope.use full registry).2).2) := by
  simp [named, render, Scope.spell, simple_ne_wildcard name]

/-! ## Claims of a type -/

theorem renderAll_registry
    (each : ∀ type ∈ types, ∀ registry, (render scope type registry).2 =
      scope.useAll type.names registry) (registry : Registry) :
    (renderAll scope types registry).2 = scope.useAll (namesAll types) registry := by
  induction types generalizing registry with
  | nil => simp [renderAll, namesAll]
  | cons type types ih =>
    rw [namesAll, Scope.useAll_append, ← each type (by simp),
      ← ih (fun other member => each other (List.mem_cons_of_mem _ member))]
    simp [renderAll]

/-- A type claims the names of its nodes, in the order of the nodes. -/
theorem render_registry (wellFormed : WellFormed tree) (registry : Registry) :
    (render scope tree registry).2 = scope.useAll tree.names registry := by
  induction wellFormed generalizing registry with
  | anything => simp [render_anything, names_anything]
  | bounded word bound ih => rw [render_bounded, names_bounded, ih]
  | primitive listed => simp [render_primitive listed, names_primitive]
  | named name ordinary each ih =>
    rw [render_named name, names_named, Scope.useAll_cons, renderAll_registry ih]

/-! ## The text of a type -/

/-- The owners of a registry, kept by an account of owners that may know more. -/
def Keeps (registry : Registry) (owner? : String → Option String) : Prop :=
  ∀ simple owner, registry.owner? simple = some owner → owner? simple = some owner

theorem keeps_of_useAll (keeps : Keeps (scope.useAll used registry) owner?) :
    Keeps registry owner? := by
  intro simple owner owned
  refine keeps simple owner ?_
  rw [Scope.owner?_useAll, owned, Option.some_or]

/-- A name is spelled by its simple name as long as it will own it. -/
theorem use_spelling (keeps : Keeps (scope.use full registry).2 owner?) :
    (if (scope.use full registry).1 then DottedName.simple full else full) =
      shortened owner? full := by
  have owned : ((scope.use full registry).2.owner? (DottedName.simple full)).isSome := by
    rw [Scope.owner?_use, firstNamed_self]
    simp
  obtain ⟨owner, found⟩ := Option.isSome_iff_exists.1 owned
  have granted := scope.use_granted full registry
  rw [found] at granted
  rw [shortened, keeps _ _ found]
  simp [granted]

theorem renderAll_texts (each : ∀ type ∈ types, WellFormed type)
    (texts : ∀ type ∈ types, ∀ registry, Keeps (render scope type registry).2 owner? →
      (render scope type registry).1 = (type.rename (shortened owner?)).text)
    (keeps : Keeps (renderAll scope types registry).2 owner?) :
    (renderAll scope types registry).1 = types.map fun type =>
      (type.rename (shortened owner?)).text := by
  induction types generalizing registry with
  | nil => rfl
  | cons type types ih =>
    have eachRest := fun other member => each other (List.mem_cons_of_mem type member)
    have shape : renderAll scope (type :: types) registry =
        ((render scope type registry).1 :: (renderAll scope types (render scope type registry).2).1,
          (renderAll scope types (render scope type registry).2).2) := rfl
    rw [shape] at keeps ⊢
    have first : Keeps (render scope type registry).2 owner? := by
      rw [renderAll_registry fun other member =>
        render_registry (eachRest other member)] at keeps
      exact keeps_of_useAll keeps
    rw [List.map_cons, texts type (by simp) registry first,
      ih eachRest (fun other member => texts other (List.mem_cons_of_mem _ member)) keeps]

/-- A rendered text is the written form of the type with its names shortened,
also where later claims are known. -/
theorem render_text (wellFormed : WellFormed tree)
    (keeps : Keeps (render scope tree registry).2 owner?) :
    (render scope tree registry).1 = (tree.rename (shortened owner?)).text := by
  induction wellFormed generalizing registry with
  | anything => rw [render_anything, rename_anything, text_anything]
  | bounded word bound ih =>
    rw [render_bounded] at keeps
    rw [render_bounded, rename_bounded, text_bounded, ih keeps]
  | primitive listed => rw [render_primitive listed, rename_primitive, text_primitive listed]
  | named name ordinary each ih =>
    rw [render_named name] at keeps
    have first := keeps
    rw [renderAll_registry fun type member => render_registry (each type member)] at first
    rw [render_named name, rename_named, text_named (name_shortened name),
      use_spelling (keeps_of_useAll first),
      renderAll_texts each (fun type member _ => ih type member) keeps, List.map_map]
    rfl

/-! ## Several texts in one file -/

/-- Texts of types, rendered one after the other into one file. -/
def renderTexts (scope : Scope) : List String → Registry → Except Malformed (List String × Registry)
  | [], registry => .ok ([], registry)
  | descriptor :: descriptors, registry => do
    let (spelling, registry) ← renderText scope descriptor registry
    let (spellings, registry) ← renderTexts scope descriptors registry
    return (spelling :: spellings, registry)

theorem renderTexts_eq (read : descriptors.mapM parse = .ok trees) (registry : Registry) :
    renderTexts scope descriptors registry = .ok (renderAll scope trees registry) := by
  induction descriptors generalizing trees registry with
  | nil =>
    cases read
    rfl
  | cons descriptor descriptors ih =>
    obtain ⟨tree, others, first, rest, rfl⟩ := mapM_cons_eq_ok read
    rw [renderTexts, renderText, first]
    simp only [Except.map, bind, Except.bind, ih rest]
    rfl

theorem wellFormed_of_mapM {descriptors : List String} (read : descriptors.mapM parse = .ok trees) :
    ∀ tree ∈ trees, WellFormed tree := by
  induction descriptors generalizing trees with
  | nil =>
    cases read
    simp
  | cons descriptor descriptors ih =>
    obtain ⟨tree, others, first, rest, rfl⟩ := mapM_cons_eq_ok read
    exact List.forall_mem_cons.2 ⟨wellFormed_of_parse first, ih rest⟩

/-- Texts that are rendered one after the other into a new file can all be read
again, whatever was rendered after them. What is read gives the types that were
rendered when every undotted name is replaced by its owner, and it names exactly
those nodes in full whose simple name was first had by another name. -/
theorem rendering_keeps_types (scope : Scope) {descriptors : List String}
    (read : descriptors.mapM parse = .ok trees)
    (dotted : ∀ full ∈ namesAll trees, DottedName.isQualified full = true)
    (ordinary : ∀ full ∈ namesAll trees, DottedName.isPrimitive (DottedName.simple full) = false) :
    ∃ texts registry spelled, renderTexts scope descriptors .empty = .ok (texts, registry) ∧
      texts.mapM parse = .ok spelled ∧
      spelled.map (rename (expanded registry.owner?)) = trees ∧
      spelled = trees.map (rename (shortened (firstNamed (namesAll trees)))) := by
  have wellFormed := wellFormed_of_mapM read
  have owners : (renderAll scope trees .empty).2.owner? = firstNamed (namesAll trees) := by
    funext simple
    rw [renderAll_registry fun tree member => render_registry (wellFormed tree member)]
    rw [Scope.owner?_useAll, Registry.owner?_empty, Option.none_or]
  have keeps : Keeps (renderAll scope trees .empty).2 (firstNamed (namesAll trees)) := by
    intro simple owner owned
    rwa [owners] at owned
  have texts := renderAll_texts wellFormed
    (fun tree member registry => render_text (wellFormed tree member)) keeps
  have inside : ∀ tree ∈ trees, ∀ full ∈ tree.names, full ∈ namesAll trees := by
    intro tree member full listed
    rw [namesAll_eq_flatMap]
    exact List.mem_flatMap.2 ⟨tree, member, listed⟩
  refine ⟨_, _, _, renderTexts_eq read .empty, ?_, ?_, rfl⟩
  · rw [texts, List.mapM_map]
    refine mapM_of_each _ fun tree member => ?_
    have named := name_of_mem_names (wellFormed tree member)
    refine parse_of_text (wellFormed_rename (wellFormed tree member) ?_ ?_)
    · exact fun full listed => name_shortened (named full listed).1
    · exact fun full listed => shortened_ordinary (named full listed).2
        (ordinary full (inside tree member full listed))
  · rw [owners, List.map_map]
    refine (List.map_congr_left fun tree member => ?_).trans (List.map_id trees)
    exact rename_rename (wellFormed tree member) fun full listed =>
      expanded_shortened _ (dotted full (inside tree member full listed))

/-- Of two lists that clash, the one that is met first keeps the simple name. -/
theorem clashing_lists_keep_types :
    ∃ texts registry spelled,
      renderTexts ⟨"org", defaultAvailable⟩ ["a.List<b.List>", "b.List[]"] .empty =
        .ok (texts, registry) ∧
      texts.mapM parse = .ok spelled ∧
      spelled.map (rename (expanded registry.owner?)) =
        [named "a.List" [named "b.List" [] 0] 0, named "b.List" [] 1] ∧
      spelled = [named "List" [named "b.List" [] 0] 0, named "b.List" [] 1] := by
  have outer : Name "a.List".toList := isTypeName_iff.1 (by decide +kernel)
  have inside : Name "b.List".toList := isTypeName_iff.1 (by decide +kernel)
  have nested : parse "a.List<b.List>" = .ok (named "a.List" [named "b.List" [] 0] 0) := by
    rw [show "a.List<b.List>" = (named "a.List" [named "b.List" [] 0] 0).text by decide +kernel]
    refine parse_of_text (.named outer (by decide) fun _ member => ?_)
    rw [List.mem_singleton.1 member]
    exact .named inside (by decide) (by simp)
  have array : parse "b.List[]" = .ok (named "b.List" [] 1) := by
    rw [show "b.List[]" = (named "b.List" [] 1).text by decide +kernel]
    exact parse_of_text (.named inside (by decide) (by simp))
  have read : ["a.List<b.List>", "b.List[]"].mapM parse =
      .ok [named "a.List" [named "b.List" [] 0] 0, named "b.List" [] 1] := by
    rw [List.mapM_cons, nested, List.mapM_cons, array]
    rfl
  obtain ⟨texts, registry, spelled, rendered, again, same, rfl⟩ :=
    rendering_keeps_types ⟨"org", defaultAvailable⟩ read (by decide +kernel) (by decide +kernel)
  refine ⟨texts, registry, _, rendered, again, same, ?_⟩
  simp only [List.map_cons, List.map_nil, rename_named]
  rfl

end DelegateClasses.Imports
