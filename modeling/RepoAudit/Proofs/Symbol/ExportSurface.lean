import RepoAudit.DeadCode
import RepoAudit.Proofs.CallGraph
import RepoAudit.Proofs.Symbol.Program

/-! # Exported names and export markers

There are two notions of an export.  A search follows an exported name through lists, imports and
re-exports to what it denotes; a declaration carries a marker when it, or something around it, is
exported.  They agree where the search ends at the binding of a declared function.  A variable in
between hides the function from the markers.

* `Module.Accounted` – where bindings of functions and entries of the export table come from;
* `Program.Provides` – the ways from an exported name to a binding;
* `Module.ExportsPlainly` – the functions of a name stand where a marker reaches them;
* `exists_exported_of_exportOf` – a function found behind an exported name is marked.
-/

namespace RepoAudit

open Syntax

/-! ## Where bindings and exports come from -/

namespace Source

variable (f : Source)

/-- A function that a source file declares under a name, in the scope of the node with this key. -/
def DeclaresFunction (scope : NodeKey) (name : String) (d : Cursor) : Prop :=
  d ∈ f.root.walk ∧ d.kind.isFunctionDeclaration = true ∧
    (d.child? "name").map (fun own => f.text own.node) = some name ∧ (scopeOf false d).key = scope

/-- Some export statement of a source file holds a declaration of the name. -/
def ExportsDeclaration (name : String) : Prop :=
  ∃ e ∈ f.root.walk, e.kind = "export_statement" ∧
    ∃ declaration ∈ e.child? "declaration", name ∈ f.declaredNames declaration

end Source

namespace Module

variable {f : Source} {c : Cursor} {m m' : Module}

/-- What a module knows about functions and exports comes from its source file.  The name of the
default export stands for itself when it has no declaration. -/
structure Accounted (m : Module) : Prop where
  function : ∀ scope name qualified, m.boundAt? scope name = some (.entity (.function qualified)) →
    name = defaultName ∨
      ∃ d, m.source.DeclaresFunction scope name d ∧ m.source.qualifiedName? d = some qualified
  exported : ∀ name localName, m.exports.find? name = some localName →
    localName = defaultName ∨ localName ∈ m.exportedLocals ∨ m.source.ExportsDeclaration localName

theorem Accounted.bind {scope : NodeKey} {name : String} {b : Binding} (h : m.Accounted)
    (function : ∀ qualified, b = .entity (.function qualified) → name = defaultName ∨
      ∃ d, m.source.DeclaresFunction scope name d ∧ m.source.qualifiedName? d = some qualified) :
    (m.bind scope name b).Accounted where
  function scope' name' qualified found := by
    rcases boundAt?_of_bind found with before | ⟨rfl, rfl, bound⟩
    · exact h.function scope' name' qualified before
    · exact function qualified bound.symm
  exported := h.exported

theorem Accounted.exportLocal {localName : String} (h : m.Accounted) :
    (m.exportLocal localName).Accounted where
  function := h.function
  exported name other found := by
    rcases h.exported name other found with isDefault | listed | declared
    · exact .inl isDefault
    · exact .inr (.inl (Text.mem_insertText.2 (.inl listed)))
    · exact .inr (.inr declared)

theorem Accounted.exportAs {exported localName : String} (h : m.Accounted)
    (origin : localName = defaultName ∨ localName ∈ m.exportedLocals ∨
      m.source.ExportsDeclaration localName) : (m.exportAs exported localName).Accounted where
  function := h.function
  exported name other found := by
    rcases Table.of_find?_insert found with ⟨-, rfl⟩ | before
    · exact origin
    · exact h.exported name other before

theorem Accounted.change (visited : c ∈ f.root.walk) (source : m.source = f) (h : m.Accounted)
    (change : Change f c m m') : m'.Accounted := by
  subst source
  cases change with
  | @function name qualified kind hname hqualified =>
    refine h.bind fun other equal => .inr ?_
    cases equal
    exact ⟨c, ⟨visited, kind, by rw [hname]; rfl, rfl⟩, hqualified⟩
  | defaultFunction => exact h.bind fun _ _ => .inl rfl
  | bindClass | bindObject | bindVariable | bindImport => exact h.bind fun _ equal => by cases equal
  | mention => exact h.exportLocal
  | exportNamed => exact h.exportLocal.exportAs (.inr (.inl (Text.mem_insertText.2 (.inr rfl))))
  | exportDeclared kind place declares =>
    exact h.exportAs (.inr (.inr ⟨c, visited, kind, _, place, declares⟩))
  | exportValue => exact h.exportAs (.inl rfl)
  | addClass | addObject | reexport | star => exact ⟨h.function, h.exported⟩

/-- An indexed source file accounts for its functions and exports. -/
theorem index_accounted (f : Source) : (index f).Accounted := by
  refine index_induction ⟨?_, ?_⟩ ?_
  · intro scope name qualified found
    cases found
  · intro name localName found
    cases found
  · intro c visited m m' source change h
    exact h.change visited source change

end Module

/-! ## From an exported name to a binding -/

namespace Program

/-- What `m` exports under a name leads to the binding of a local name of another module: through the
table of exports and imports of the name found there, names passed on, and modules passed on as a
whole.  An import is followed, so a way ends at an entity or at a variable. -/
inductive Provides (p : Program) : Module → String → Module → String → Binding → Prop
  | entity {m : Module} {name localName : String} {e : Entity} :
      m.exports.find? name = some localName → m.outermost? localName = some (.entity e) →
      Provides p m name m localName (.entity e)
  | held {m : Module} {name localName : String} {type value : Option Cursor} :
      m.exports.find? name = some localName →
      m.outermost? localName = some (.variable type value) →
      Provides p m name m localName (.variable type value)
  | imported {m target home : Module} {name localName specifier source found : String}
      {b : Binding} :
      m.exports.find? name = some localName →
      m.outermost? localName = some (.imported specifier source) →
      p.resolveModule m.path specifier = some target →
      Provides p target source home found b → Provides p m name home found b
  | reexported {m target home : Module} {name specifier source found : String} {b : Binding} :
      m.exports.find? name = none → m.reexports.find? name = some (specifier, source) →
      p.resolveModule m.path specifier = some target →
      Provides p target source home found b → Provides p m name home found b
  | star {m target home : Module} {name specifier found : String} {b : Binding} :
      m.exports.find? name = none → m.reexports.find? name = none → name ≠ defaultName →
      specifier ∈ m.starExports → p.resolveModule m.path specifier = some target →
      Provides p target name home found b → Provides p m name home found b

variable {p : Program} {m home : Module} {name localName : String} {b : Binding}

theorem Provides.known (grounded : p.Grounded) (h : p.Provides m name home localName b)
    (known : p.module? m.path = some m) : p.module? home.path = some home := by
  induction h with
  | entity | held => exact known
  | imported _ _ led _ ih => exact ih (grounded.module?_of_resolveModule led)
  | reexported _ _ led _ ih => exact ih (grounded.module?_of_resolveModule led)
  | star _ _ _ _ led _ ih => exact ih (grounded.module?_of_resolveModule led)

/-- A way ends at an entry of the export table and at the outermost binding behind it. -/
theorem Provides.entry (h : p.Provides m name home localName b) :
    (∃ exported, home.exports.find? exported = some localName) ∧
      home.outermost? localName = some b := by
  induction h with
  | entity listed bound => exact ⟨⟨_, listed⟩, bound⟩
  | held listed bound => exact ⟨⟨_, listed⟩, bound⟩
  | imported _ _ _ _ ih => exact ih
  | reexported _ _ _ _ ih => exact ih
  | star _ _ _ _ _ _ ih => exact ih

/-- A binding that denotes a function is an entity or a variable, or it is an import whose target
exports the function. -/
theorem resolveBinding_function {hops : Nat} {qualified : String}
    (h : p.resolveBinding hops m b = some (.entity (.function qualified))) :
    (∃ e, b = .entity e) ∨ (∃ type value, b = .variable type value) ∨
      ∃ specifier source target less, b = .imported specifier source ∧ less < hops ∧
        p.resolveModule m.path specifier = some target ∧
        (p.resolveExport less [] target source).1 = some (.entity (.function qualified)) := by
  cases b with
  | entity e => exact .inl ⟨e, rfl⟩
  | «variable» type value => exact .inr (.inl ⟨type, value, rfl⟩)
  | imported specifier source =>
    refine .inr (.inr ?_)
    cases hops with
    | zero => simp [resolveBinding] at h
    | succ less =>
      rw [resolveBinding] at h
      split at h
      · cases h
      · rename_i target led
        split at h
        · cases h
        · exact ⟨specifier, source, target, less, rfl, Nat.lt_succ_self less, led, h⟩

/-- A function found behind an exported name is what a binding at the end of some way denotes. -/
theorem provides_of_resolveExport {hops : Nat} {visited : Visited} {qualified : String}
    (h : (p.resolveExport hops visited m name).1 = some (.entity (.function qualified))) :
    ∃ home localName b hops', p.Provides m name home localName b ∧
      p.resolveBinding hops' home b = some (.entity (.function qualified)) := by
  -- an import takes two hops at once, so the induction hypothesis is needed for all smaller numbers
  induction hops using Nat.strongRecOn generalizing visited m name with
  | ind hops ih =>
    cases hops with
    | zero => simp [resolveExport] at h
    | succ hops =>
      cases exportOrigin_of_resolveExport h with
      | @binding localName b _ listed bound denoted =>
        rcases resolveBinding_function denoted with ⟨e, rfl⟩ | ⟨type, value, rfl⟩ |
          ⟨specifier, source, target, less, rfl, smaller, led, found⟩
        · exact ⟨m, localName, _, hops, .entity listed bound, denoted⟩
        · exact ⟨m, localName, _, hops, .held listed bound, denoted⟩
        · obtain ⟨home, inner, b, hops', way, denotes⟩ := ih less (by omega) found
          exact ⟨home, inner, b, hops', .imported listed bound led way, denotes⟩
      | passed unlisted passed led answered =>
        obtain ⟨home, inner, b, hops', way, denotes⟩ := ih hops (by omega) answered
        exact ⟨home, inner, b, hops', .reexported unlisted passed led way, denotes⟩
      | star unlisted unpassed notDefault mem led answered =>
        obtain ⟨home, inner, b, hops', way, denotes⟩ := ih hops (by omega) answered
        exact ⟨home, inner, b, hops', .star unlisted unpassed notDefault mem led way, denotes⟩

end Program

/-! ## Where markers reach -/

namespace Module

variable {m : Module} {d : Cursor} {localName : String}

/-- The functions that a module declares under a local name stand where export markers reach them.

* `named` – the name is one that a declaration can have;
* `implemented` – a declared function has a body;
* `placed` – the functions stand directly in the module or in an export statement;
* `together` – when an export statement declares the name and no list exports it, then every function
  of that name stands in an export statement. -/
structure ExportsPlainly (m : Module) (localName : String) : Prop where
  named : localName ≠ defaultName
  implemented : ∀ d, m.source.DeclaresFunction m.source.tree.key localName d →
    (d.child? "body").isSome = true
  placed : ∀ d, m.source.DeclaresFunction m.source.tree.key localName d →
    d.parent?.map (·.kind) = some "program" ∨ d.parent?.map (·.kind) = some "export_statement"
  together : m.source.ExportsDeclaration localName → localName ∉ m.exportedLocals →
    ∀ d, m.source.DeclaresFunction m.source.tree.key localName d →
      d.parent?.map (·.kind) = some "export_statement"

/-- The search for a marker from a function in the tree looks at its parent and at what it declares. -/
theorem isExported_of_parent? {parent : Cursor} (kind : d.kind.isFunctionDeclaration = true)
    (place : d.parent? = some parent)
    (marked : parent.kind = "export_statement" ∨ m.declaresExported d = true) :
    m.isExported d = true := by
  have notRoot : d.kind ≠ "program" := Kind.ne_of_isFunctionDeclaration kind rfl
  rw [isExported, Cursor.selfAndAncestors, Cursor.ancestors_of_parent? place, exportedAlong]
  rcases marked with inExport | declares
  · simp [notRoot, inExport]
  · simp [notRoot, declares]

theorem declaresExported_of_listed {scope : NodeKey}
    (declares : m.source.DeclaresFunction scope localName d)
    (top : d.parent?.map (·.kind) = some "program") (listed : localName ∈ m.exportedLocals) :
    m.declaresExported d = true := by
  obtain ⟨-, kind, named, -⟩ := declares
  have notDeclarator : d.kind ≠ "variable_declarator" := Kind.ne_of_isFunctionDeclaration kind rfl
  have notLexical : d.kind ≠ "lexical_declaration" := Kind.ne_of_isFunctionDeclaration kind rfl
  have notVariable : d.kind ≠ "variable_declaration" := Kind.ne_of_isFunctionDeclaration kind rfl
  have notExpression : d.kind ≠ "expression_statement" := Kind.ne_of_isFunctionDeclaration kind rfl
  have names : m.localNames d = [localName] := by
    simp [localNames, Source.declaredNames, notDeclarator, notLexical, notVariable, notExpression,
      named]
  obtain ⟨parent, place, parentKind⟩ := Option.map_eq_some_iff.1 top
  have topLevel : isTopLevel d = true := by
    simp [isTopLevel, place, parentKind, notDeclarator, notLexical, notVariable]
  simp [declaresExported, topLevel, names, listed]

/-- A function whose name some export of its module mentions carries a marker. -/
theorem ExportsPlainly.isExported (plain : m.ExportsPlainly localName) (accounted : m.Accounted)
    {name : String} (exported : m.exports.find? name = some localName)
    (declares : m.source.DeclaresFunction m.source.tree.key localName d) :
    m.isExported d = true := by
  have inExport (place : d.parent?.map (·.kind) = some "export_statement") :
      m.isExported d = true := by
    obtain ⟨parent, hparent, parentKind⟩ := Option.map_eq_some_iff.1 place
    exact isExported_of_parent? declares.2.1 hparent (.inl parentKind)
  by_cases listed : localName ∈ m.exportedLocals
  · rcases plain.placed d declares with top | place
    · obtain ⟨parent, hparent, -⟩ := Option.map_eq_some_iff.1 top
      exact isExported_of_parent? declares.2.1 hparent
        (.inr (declaresExported_of_listed declares top listed))
    · exact inExport place
  · rcases accounted.exported name localName exported with isDefault | mentioned | declared
    · exact absurd isDefault plain.named
    · exact absurd mentioned listed
    · exact inExport (plain.together declared listed d declares)

end Module

/-- A visited function with a body and a name is a declaration of the program. -/
theorem mem_allDeclarations_of_function {sources : List Source} (markers : List String) {m : Module}
    {d : Cursor} {qualified : String} (listed : m.source ∈ sources)
    (known : (Program.ofSources sources).module? m.path = some m)
    (visited : d ∈ m.source.root.walk) (kind : d.kind.isFunctionDeclaration = true)
    (body : (d.child? "body").isSome = true) (named : m.source.qualifiedName? d = some qualified) :
    ∃ declaration ∈ allDeclarations (Program.ofSources sources) markers sources,
      declaration.qualifiedName = qualified ∧ declaration.exported = m.isExported d := by
  have candidate : m.source.isCandidate d = true := by
    rw [Source.isCandidate, if_pos kind]
    exact body
  have found : ∃ declaration, declaration? m markers m.source d = some declaration ∧
      declaration.qualifiedName = qualified ∧ declaration.exported = m.isExported d := by
    simp [declaration?, candidate, named]
  obtain ⟨declaration, extracted, agrees⟩ := found
  refine ⟨declaration, List.mem_flatMap.2 ⟨m.source, listed, ?_⟩, agrees⟩
  rw [Module.path] at known
  rw [declarationsOf, known]
  exact List.mem_filterMap.2 ⟨d, visited, extracted⟩

/-- When a search finds a function behind an exported name, and every binding through which the name
denotes it is the plainly exported one of the function itself, then a declaration of that function is
marked as exported, so that it is a root whoever calls it. -/
theorem exists_exported_of_exportOf (sources : List Source) (markers : List String) {path : String}
    {m : Module} {name qualified : String}
    (known : (Program.ofSources sources).module? path = some m)
    (answer : (Program.ofSources sources).exportOf m name = some (.entity (.function qualified)))
    (direct : ∀ home localName b hops,
      (Program.ofSources sources).Provides m name home localName b →
      (Program.ofSources sources).resolveBinding hops home b = some (.entity (.function qualified)) →
      b = .entity (.function qualified) ∧ home.ExportsPlainly localName) :
    ∃ d ∈ allDeclarations (Program.ofSources sources) markers sources,
      d.qualifiedName = qualified ∧ d.exported = true ∧ ∀ g, Reachability.of g d = .root := by
  have grounded := Program.ofSources_grounded sources
  obtain ⟨home, localName, b, hops, way, denotes⟩ := Program.provides_of_resolveExport answer
  obtain ⟨rfl, plain⟩ := direct home localName b hops way denotes
  have homeKnown := way.known grounded (grounded.module?_path known)
  obtain ⟨f, listed, -, rfl⟩ := Program.exists_source_of_module? homeKnown
  obtain ⟨⟨exported, entry⟩, bound⟩ := way.entry
  have accounted := Module.index_accounted f
  rcases accounted.function _ _ _ bound with isDefault | ⟨d, declares, named⟩
  · exact absurd isDefault plain.named
  · obtain ⟨declaration, mem, sameName, sameMarker⟩ :=
      mem_allDeclarations_of_function markers (by simpa using listed) homeKnown declares.1
        declares.2.1 (plain.implemented d declares) named
    have marked : declaration.exported = true := by
      rw [sameMarker]
      exact plain.isExported accounted entry declares
    refine ⟨declaration, mem, sameName, marked, fun g => ?_⟩
    simp [Reachability.of, Declaration.isRoot, marked]

/-- The file `a.ts` with the text `export{f as g}from"./b"`. -/
def passingFile : Source where
  path := "a.ts"
  language := "typescript"
  bytes := Text.Utf8.encode "export{f as g}from\"./b\""
  tree := ⟨"program", true, none, 0, 23,
    [⟨"export_statement", true, none, 0, 23,
      [⟨"export_clause", true, none, 6, 14,
        [⟨"export_specifier", true, none, 7, 13,
          [⟨"identifier", true, some "name", 7, 8, []⟩,
           ⟨"identifier", true, some "alias", 12, 13, []⟩]⟩]⟩,
       ⟨"string", true, some "source", 18, 23, []⟩]⟩]⟩

/-- The file `b.ts` with the text `function f(){}export{f}`. -/
def listingFile : Source where
  path := "b.ts"
  language := "typescript"
  bytes := Text.Utf8.encode "function f(){}export{f}"
  tree := ⟨"program", true, none, 0, 23,
    [⟨"function_declaration", true, none, 0, 14,
      [⟨"identifier", true, some "name", 9, 10, []⟩,
       ⟨"formal_parameters", true, some "parameters", 10, 12, []⟩,
       ⟨"statement_block", true, some "body", 12, 14, []⟩]⟩,
     ⟨"export_statement", true, none, 14, 23,
      [⟨"export_clause", true, none, 20, 23,
        [⟨"export_specifier", true, none, 21, 22,
          [⟨"identifier", true, some "name", 21, 22, []⟩]⟩]⟩]⟩]⟩

theorem listingFile_exportsPlainly : (Module.index listingFile).ExportsPlainly "f" := by
  have functions : ∀ d ∈ listingFile.root.walk, d.kind.isFunctionDeclaration = true →
      (d.child? "body").isSome = true ∧ d.parent?.map (·.kind) = some "program" := by
    decide +kernel
  refine ⟨by decide, ?_, ?_, ?_⟩
  · rintro d ⟨visited, kind, -, -⟩
    rw [Module.index_source] at visited
    exact (functions d visited kind).1
  · rintro d ⟨visited, kind, -, -⟩
    rw [Module.index_source] at visited
    exact .inl (functions d visited kind).2
  · intro _ unlisted
    have listed : "f" ∈ (Module.index listingFile).exportedLocals := by decide +kernel
    exact absurd listed unlisted

/-- The only way from the name in the one file leads to the function in the other. -/
theorem passingFile_provides {home : Module} {localName : String} {b : Binding}
    (way : (Program.ofSources [passingFile, listingFile]).Provides (Module.index passingFile) "g"
      home localName b) :
    home = Module.index listingFile ∧ localName = "f" ∧ b = .entity (.function "\"b.ts\".f") := by
  have unlisted : (Module.index passingFile).exports.find? "g" = none := by decide +kernel
  have passed : (Module.index passingFile).reexports.find? "g" = some ("./b", "f") := by
    decide +kernel
  have listed : (Module.index listingFile).exports.find? "f" = some "f" := by decide +kernel
  have bound : (Module.index listingFile).outermost? "f" = some (.entity (.function "\"b.ts\".f")) := by
    decide +kernel
  have target : (Program.ofSources [passingFile, listingFile]).resolveModule
      (Module.index passingFile).path "./b" = some (Module.index listingFile) := by
    rw [Module.index_path]
    rfl
  cases way with
  | entity here | held here | imported here => cases unlisted.symm.trans here
  | star _ here => cases passed.symm.trans here
  | reexported _ here led onward =>
    cases passed.symm.trans here
    cases target.symm.trans led
    cases onward with
    | entity there found =>
      cases listed.symm.trans there
      cases bound.symm.trans found
      exact ⟨rfl, rfl, rfl⟩
    | held there found | imported there found =>
      cases listed.symm.trans there
      cases bound.symm.trans found
    | reexported there | star there => cases listed.symm.trans there

/-- The function of the one file that the other passes on under a new name is marked. -/
theorem exists_exported_of_exportOf_passed_on :
    (Program.ofSources [passingFile, listingFile]).exportOf (Module.index passingFile) "g" =
      some (.entity (.function "\"b.ts\".f")) ∧
    ∃ d ∈ allDeclarations (Program.ofSources [passingFile, listingFile]) defaultTestMarkers
        [passingFile, listingFile],
      d.qualifiedName = "\"b.ts\".f" ∧ d.exported = true ∧ ∀ g, Reachability.of g d = .root := by
  have known : (Program.ofSources [passingFile, listingFile]).module? "a.ts" =
      some (Module.index passingFile) := rfl
  have answer : (Program.ofSources [passingFile, listingFile]).exportOf (Module.index passingFile) "g"
      = some (.entity (.function "\"b.ts\".f")) := by decide +kernel
  refine ⟨answer, exists_exported_of_exportOf _ _ known answer ?_⟩
  intro home localName b hops way _
  obtain ⟨rfl, rfl, rfl⟩ := passingFile_provides way
  exact ⟨rfl, listingFile_exportsPlainly⟩

/-- The file `a.ts` with the text `function helper(){}const run=helper;export{run}`. -/
def aliasingFile : Source where
  path := "a.ts"
  language := "typescript"
  bytes := Text.Utf8.encode "function helper(){}const run=helper;export{run}"
  tree := ⟨"program", true, none, 0, 47,
    [⟨"function_declaration", true, none, 0, 19,
      [⟨"identifier", true, some "name", 9, 15, []⟩,
       ⟨"formal_parameters", true, some "parameters", 15, 17, []⟩,
       ⟨"statement_block", true, some "body", 17, 19, []⟩]⟩,
     ⟨"lexical_declaration", true, none, 19, 36,
      [⟨"variable_declarator", true, none, 25, 35,
        [⟨"identifier", true, some "name", 25, 28, []⟩,
         ⟨"identifier", true, some "value", 29, 35, []⟩]⟩]⟩,
     ⟨"export_statement", true, none, 36, 47,
      [⟨"export_clause", true, none, 42, 47,
        [⟨"export_specifier", true, none, 43, 46,
          [⟨"identifier", true, some "name", 43, 46, []⟩]⟩]⟩]⟩]⟩

/-- A function that is exported under the name of a variable which stands for it is found behind that
name, and no declaration of it is marked. -/
theorem exported_alias_unmarked :
    ¬ ∀ (sources : List Source) (markers : List String) (path : String) (m : Module)
        (name qualified : String),
      (Program.ofSources sources).module? path = some m →
      (Program.ofSources sources).exportOf m name = some (.entity (.function qualified)) →
      (∃ d ∈ allDeclarations (Program.ofSources sources) markers sources,
        d.qualifiedName = qualified) →
      ∃ d ∈ allDeclarations (Program.ofSources sources) markers sources,
        d.qualifiedName = qualified ∧ d.exported = true := by
  intro agree
  have known : (Program.ofSources [aliasingFile]).module? "a.ts" =
      some (Module.index aliasingFile) := rfl
  have answer : (Program.ofSources [aliasingFile]).exportOf (Module.index aliasingFile) "run" =
      some (.entity (.function "\"a.ts\".helper")) := by decide +kernel
  have declared : ∃ d ∈ allDeclarations (Program.ofSources [aliasingFile]) defaultTestMarkers
      [aliasingFile], d.qualifiedName = "\"a.ts\".helper" := by decide +kernel
  have unmarked : ¬ ∃ d ∈ allDeclarations (Program.ofSources [aliasingFile]) defaultTestMarkers
      [aliasingFile], d.qualifiedName = "\"a.ts\".helper" ∧ d.exported = true := by decide +kernel
  exact unmarked (agree _ _ _ _ _ _ known answer declared)

end RepoAudit
