import DelegateClasses.Proofs.Delegate.ClassRun
import DelegateClasses.Proofs.Draft.Source

/-! The imports of a generated class. They are read off its text and compared
with the names that the class uses, which are known from the methods that the
generator was handed. Main statement: imported is exactly what needs an import
and was the first to use its simple name. -/
namespace DelegateClasses.Delegate
open Imports Steps Processing

/-- The imports of a text that is placed in a package and uses some names. -/
structure ExactImports (package : String) (used imports : List String) (text : String) : Prop where
  /-- The import lines of the text, in their order. -/
  lines : importLinesOf text = imports.map Fragment.importLine
  ascending : imports.Pairwise (· < ·)
  /-- Imported is what needs an import and comes first with its simple name. -/
  exact : ∀ name, name ∈ imports ↔ name ∈ used ∧
    Scope.requires ⟨package, defaultAvailable⟩ name = true ∧
    firstNamed used (DottedName.simple name) = some name
  distinct : (imports.map DottedName.simple).Nodup
  /-- Nothing is imported from the package of the text or from `java.lang`. -/
  foreign : ∀ name ∈ imports,
    DottedName.package? name ≠ some package ∧ DottedName.package? name ≠ some "java.lang"
  /-- A dotted name that is written by its simple name can be resolved. -/
  resolved : ∀ name ∈ used, DottedName.isQualified name = true →
    shortened (firstNamed used) name ≠ name →
    name ∈ imports ∨ DottedName.package? name = some package ∨
      DottedName.package? name = some "java.lang"

variable {target : Target} {handed : List MethodDecl} {draft : ClassDraft}

private theorem oneLine_of_name (name : TypeTree.Name text) : Text.OneLine text := by
  intro c member
  have solid := TypeTree.not_blank_of_name_char (TypeTree.name_chars name c member)
  constructor
  · rintro rfl
    exact absurd solid (by decide)
  · rintro rfl
    exact absurd solid (by decide)

/-- The names in a type that can be read are names of the grammar. -/
theorem names_are_names (type : TypeRef) : ∀ full ∈ type.names, TypeTree.Name full.toList := by
  intro full member
  rw [TypeRef.names] at member
  split at member
  · next read =>
    exact (TypeTree.name_of_mem_names (TypeTree.wellFormed_of_parse read) full member).1
  · cases member

private theorem methodNames_are_names (method : MethodDecl) :
    ∀ full ∈ methodNames method, TypeTree.Name full.toList := by
  intro full member
  simp only [methodNames, List.mem_append, List.mem_flatMap] at member
  rcases member with returned | ⟨parameter, -, listed⟩ | ⟨thrown, -, listed⟩
  · exact names_are_names _ full returned
  · exact names_are_names _ full listed
  · exact names_are_names _ full listed

/-- What a class uses besides its own name are names of the grammar. -/
theorem used_are_names (source : TypeTree.Name target.source.toList) :
    ∀ full ∈ target.used handed, full ≠ DottedName.member target.package target.className →
      TypeTree.Name full.toList := by
  intro full member other
  rcases List.mem_cons.1 member with rfl | member
  · exact absurd rfl other
  rcases List.mem_cons.1 member with rfl | member
  · exact source
  · obtain ⟨method, -, listed⟩ := List.mem_flatMap.1 member
    exact methodNames_are_names method full listed

private theorem settled_of_collected (collected : Collected target handed draft) :
    Settled target.scope draft.imports := by
  rw [collected.imports]
  exact settled_useAll settled_empty

/-- The owners of simple names in a class are the first of the names it uses. -/
theorem owners_of_collected (collected : Collected target handed draft) (simple : String) :
    draft.imports.owner? simple = firstNamed (target.used handed) simple := by
  rw [collected.imports, Scope.owner?_useAll, Registry.owner?_empty, Option.none_or]

theorem mem_imports_iff (collected : Collected target handed draft) :
    name ∈ draft.imports.toList ↔ target.scope.requires name = true ∧
      firstNamed (target.used handed) (DottedName.simple name) = some name := by
  rw [mem_toList, mem_imported_iff (settled_of_collected collected), owners_of_collected collected]

private theorem opening_of_collected (collected : Collected target handed draft) :
    draft.opening = Fragment.classLine draft.className "public" := by
  rw [ClassDraft.opening, collected.line, collected.named]
  simp only
  split <;> rfl

/-- The import lines of a class are those of its registry. -/
theorem importLines_of_collected (collected : Collected target handed draft)
    (source : TypeTree.Name target.source.toList)
    (owned : DottedName.package? target.source = some target.package)
    (plain : DottedName.isQualified target.className = false) :
    importLinesOf draft.source = draft.imports.toList.map Fragment.importLine := by
  refine ClassDraft.importLinesOf_source collected.packaged (opening_of_collected collected) ?_ ?_
  · obtain ⟨rest, -, shape⟩ := DottedName.package?_eq_some.1 owned
    intro c member
    exact oneLine_of_name source c (by rw [shape]; exact List.mem_append_left _ member)
  · intro name member
    obtain ⟨required, first⟩ := (mem_imports_iff collected).1 member
    refine oneLine_of_name (used_are_names source name (firstNamed_mem first) ?_)
    rintro rfl
    rw [requires_own plain] at required
    cases required

/-- The imports of a class, as its account tells them. -/
theorem exactImports_of_collected (collected : Collected target handed draft)
    (source : TypeTree.Name target.source.toList)
    (owned : DottedName.package? target.source = some target.package)
    (plain : DottedName.isQualified target.className = false) :
    ExactImports target.package (target.used handed) draft.imports.toList draft.source where
  lines := importLines_of_collected collected source owned plain
  ascending := toList_ascending (settled_of_collected collected).distinct
  exact := by
    intro name
    rw [mem_imports_iff collected]
    exact ⟨fun ⟨required, first⟩ => ⟨firstNamed_mem first, required, first⟩,
      fun ⟨_, required, first⟩ => ⟨required, first⟩⟩
  distinct := by
    rw [List.Nodup, List.pairwise_map]
    refine (toList_ascending (settled_of_collected collected).distinct).imp_of_mem ?_
    intro first second member other below same
    have owner := ((mem_imports_iff collected).1 member).2
    rw [same, ((mem_imports_iff collected).1 other).2] at owner
    cases owner
    exact String.lt_irrefl _ below
  foreign := by
    intro name member
    obtain ⟨-, builtin, elsewhere⟩ := requires_iff.1 ((mem_imports_iff collected).1 member).1
    exact ⟨elsewhere, builtin⟩
  resolved := by
    intro name member dotted short
    have first : firstNamed (target.used handed) (DottedName.simple name) = some name := by
      rw [shortened] at short
      split at short
      · assumption
      · exact absurd rfl short
    by_cases required : target.scope.requires name = true
    · exact .inl ((mem_imports_iff collected).2 ⟨required, first⟩)
    · rw [Target.scope, requires_iff] at required
      by_cases builtin : DottedName.package? name = some "java.lang"
      · exact .inr (.inr builtin)
      · by_cases here : DottedName.package? name = some target.package
        · exact .inr (.inl here)
        · exact absurd ⟨dotted, builtin, here⟩ required

/-- Nothing that is imported is named like the class or like the class it wraps. -/
theorem imports_spare_names (collected : Collected target handed draft)
    (owned : DottedName.package? target.source = some target.package)
    (plain : DottedName.isQualified target.className = false) :
    ∀ name ∈ draft.imports.toList, DottedName.simple name ≠ target.className ∧
      DottedName.simple name ≠ DottedName.simple target.source := by
  intro name member
  obtain ⟨required, first⟩ := (mem_imports_iff collected).1 member
  have own : DottedName.simple (DottedName.member target.package target.className) =
      target.className := DottedName.simple_member plain
  have spared : target.scope.requires target.source = false := by
    rw [← Bool.not_eq_true, Target.scope, requires_iff, owned]
    simp
  rw [Target.used, firstNamed_cons, own, firstNamed_cons] at first
  constructor
  · intro same
    rw [if_pos same.symm] at first
    cases first
    rw [requires_own plain] at required
    cases required
  · intro same
    rw [if_pos same.symm] at first
    split at first
    · cases first
      rw [requires_own plain] at required
      cases required
    · cases first
      rw [spared] at required
      cases required

/-- The imports of a class that was given up, as its account tells them. -/
theorem givenUp_imports {world : World State} (given : GivenUp target handed world)
    (source : TypeTree.Name target.source.toList)
    (owned : DottedName.package? target.source = some target.package)
    (plain : DottedName.isQualified target.className = false) :
    ∃ closed imports,
      world.own.released = target.before.released ++ [closed] ∧ closed.path = target.path ∧
      closed.draft.sink = some ⟨[closed.draft.source], 1⟩ ∧
      (∃ files : FileTree, world.files =
        files.overwrite closed.place closed.draft.source.toUTF8) ∧
      ExactImports target.package (target.used handed) imports closed.draft.source ∧
      (∀ name ∈ imports, DottedName.simple name ≠ target.className ∧
        DottedName.simple name ≠ DottedName.simple target.source) ∧
      (∀ method ∈ handed, isDelegated method = true →
        spelledDefinition method (shortened (firstNamed (target.used handed))) ∈
          closed.draft.methods) ∧
      closed.draft.fields = [ClassDraft.wrappedField
        (shortened (firstNamed (target.used handed)) target.source) Fragment.wrappedName] ∧
      closed.draft.constructors = [ClassDraft.wrappingConstructor target.className
        (shortened (firstNamed (target.used handed)) target.source) Fragment.wrappedName] := by
  obtain ⟨draft, collected, released, files⟩ := given
  have keeps : Keeps draft.imports (firstNamed (target.used handed)) := by
    intro simple owner held
    rwa [owners_of_collected collected] at held
  refine ⟨givenUp target draft, draft.imports.toList, released, rfl, ?_⟩
  rw [source_givenUp]
  refine ⟨rfl, files, exactImports_of_collected collected source owned plain,
    imports_spare_names collected owned plain, ?_, collected.wrapped _ keeps⟩
  exact fun method member delegated => collected.delegates method member delegated _ keeps

/-- The name of a generated class is a name of its own, without a package. -/
theorem generatedName_plain {declared : ClassDecl} {own : State}
    (parsed : declared.type.parse = .ok (TypeTree.named full given 0))
    (suffix : DottedName.isQualified own.suffix = false) :
    DottedName.isQualified (own.generatedName declared) = false ∧
      own.generatedName declared ≠ "" := by
  have simple : declared.simpleName = DottedName.simple full := by
    rw [ClassDecl.simpleName, TypeRef.simpleName, TypeRef.qualifiedName,
      TypeTree.withoutArguments_of_parse parsed]
  have wellFormed := TypeTree.wellFormed_of_parse parsed
  obtain ⟨name, -⟩ := TypeTree.name_of_mem_names wellFormed full <| by
    rw [TypeTree.names_named]
    exact List.mem_cons_self
  obtain ⟨first, rest, shape, -⟩ := TypeTree.name_simple name
  rw [State.generatedName, simple]
  constructor
  · have free := DottedName.isQualified_simple full
    simp only [DottedName.isQualified, String.toList_append, List.contains_append] at free suffix ⊢
    rw [free, suffix]
    rfl
  · intro empty
    have chars := congrArg String.toList empty
    simp [DottedName.simple, shape] at chars

/-- The imports of a generated class are exactly the needed ones. The names that
the class uses are its own, that of the wrapped class, and those in all methods
that the generator was handed, those included that a method of the class
overrides; each call is passed on by a method that names types accordingly. -/
theorem generated_class_imports (declared : ClassDecl) (directory : Path)
    (session after : Session State)
    (parsed : declared.type.parse = .ok (TypeTree.named full given 0))
    (owned : DottedName.package? full = some package)
    (suffix : DottedName.isQualified session.world.own.suffix = false)
    (fresh : session.ledger.generated.contains declared.name = false)
    (ran : visitClass generator (.outside directory) declared session = .ok ⟨⟩ after)
    (listed : after.ledger.generated.contains declared.name = true) :
    let className := session.world.own.generatedName declared
    let handed := declared.methods ++
      foldedMethods session.ledger.index session.world.own.policy declared.superclass
    let used := DottedName.member package className :: full ::
      (handed.filter isDelegated).flatMap methodNames
    ∃ closed imports,
      after.world.own.released = session.world.own.released ++ [closed] ∧
      closed.path = outputPath directory package className ∧
      closed.draft.sink = some ⟨[closed.draft.source], 1⟩ ∧
      (∃ files : FileTree, after.world.files =
        files.overwrite closed.place closed.draft.source.toUTF8) ∧
      ExactImports package used imports closed.draft.source ∧
      (∀ name ∈ imports, DottedName.simple name ≠ className ∧
        DottedName.simple name ≠ DottedName.simple full) ∧
      (∀ method ∈ handed, isDelegated method = true →
        spelledDefinition method (shortened (firstNamed used)) ∈ closed.draft.methods) ∧
      closed.draft.fields = [ClassDraft.wrappedField (shortened (firstNamed used) full)
        Fragment.wrappedName] ∧
      closed.draft.constructors = [ClassDraft.wrappingConstructor className
        (shortened (firstNamed used) full) Fragment.wrappedName] := by
  obtain ⟨plain, named⟩ := generatedName_plain parsed suffix
  obtain ⟨place, given⟩ :=
    visitClass_givenUp declared directory parsed owned plain named fresh ran listed
  have wellFormed := TypeTree.wellFormed_of_parse parsed
  obtain ⟨name, -⟩ := TypeTree.name_of_mem_names wellFormed full <| by
    rw [TypeTree.names_named]
    exact List.mem_cons_self
  simpa only [Target.used] using givenUp_imports given name owned plain

/-- Of two lists that clash, the one in the class's own method is imported, the
one in a method of its superclass is not. -/
theorem item_wrapper_imports :
    let get : MethodDecl := { name := "get", returns := ⟨"java.util.List"⟩ }
    let put : MethodDecl := { name := "put", parameters := [⟨"all", ⟨"a.List"⟩⟩] }
    let base : ClassDecl := ⟨"org.Base", .ordinary, none, ["public"], [.method put]⟩
    let item : ClassDecl := ⟨"org.Item", .ordinary, some ⟨"org.Base"⟩, ["public"], [.method get]⟩
    let index := (ClassIndex.empty.addAll [item, base]).1
    let own := State.start defaultSuffix (.startingWith "org" .fold)
    ∃ after closed, ∃ imports : List String,
      visitClass generator (.outside (.ofText "out")) item
        ⟨.start index, ⟨⟨[], []⟩, .empty, own⟩⟩ = .ok ⟨⟩ after ∧
      after.world.own.released = [closed] ∧
      importLinesOf closed.draft.source = imports.map Fragment.importLine ∧
      "java.util.List" ∈ imports ∧ "a.List" ∉ imports := by
  intro get put base item index own
  have single : TypeTree.WellFormed (.named "org.Item" [] 0) :=
    .named (TypeTree.isTypeName_iff.1 (by decide +kernel)) (by decide) (by simp)
  have written : "org.Item" = (TypeTree.named "org.Item" [] 0).text := by decide +kernel
  have parsed : item.type.parse = .ok (.named "org.Item" [] 0) :=
    (congrArg TypeTree.parse written).trans (TypeTree.parse_of_text single)
  have owned : DottedName.package? "org.Item" = some "org" := by decide +kernel
  have done : (match visitClass generator (.outside (.ofText "out")) item
      ⟨.start index, ⟨⟨[], []⟩, .empty, own⟩⟩ with
      | .ok _ after => after.ledger.generated.contains item.name
      | .error _ _ => false) = true := by
    decide +kernel
  split at done
  · next after ran =>
    obtain ⟨closed, imports, released, -, -, -, needed, -⟩ :=
      generated_class_imports item _ _ after parsed owned (by decide +kernel) (by decide +kernel)
        ran done
    refine ⟨after, closed, imports, ran, released, needed.lines, (needed.exact _).2 ?_,
      fun member => ?_⟩
    · decide +kernel
    · exact absurd ((needed.exact _).1 member) (by decide +kernel)
  · cases done

end DelegateClasses.Delegate
