import RepoAudit.DeadCode
import RepoAudit.Proofs.Symbol.Program

/-! # Calls lead to functions that imports can reach

Resolution follows scopes, imports, re-exports, types, members and superclasses, in any order and
through cycles.  Whatever it answers stands for a node of a module that the import specifiers of the
modules on the way lead to.

* `Module.Mentions`, `Program.Leads`, `Program.Reaches` – the ways that imports open;
* `Symbol.Traced` – a symbol that stands for a node of a reachable module;
* `tracedAt` – all seven searches answer with traced symbols, by induction on the hops left;
* `calleeOf_names_function` – a resolved call names a function of a reachable module.
-/

namespace RepoAudit

open Syntax
open Relation (ReflTransGen)

/-! ## The ways that imports open -/

/-- A specifier occurs in an import, in a name passed on or in an export of everything. -/
def Module.Mentions (m : Module) (specifier : String) : Prop :=
  (∃ scope name imported, m.boundAt? scope name = some (.imported specifier imported)) ∨
  (∃ name imported, m.reexports.find? name = some (specifier, imported)) ∨
  specifier ∈ m.starExports

def Program.Leads (p : Program) (m target : Module) : Prop :=
  ∃ specifier, m.Mentions specifier ∧ p.resolveModule m.path specifier = some target

/-- Any number of specifiers, each of the module reached so far, lead from one module to another. -/
def Program.Reaches (p : Program) : Module → Module → Prop :=
  ReflTransGen p.Leads

/-- A module of the program that can be reached from `origin`. -/
structure Program.Near (p : Program) (origin m : Module) : Prop where
  known : p.module? m.path = some m
  reached : p.Reaches origin m

/-- A symbol stands for nodes of a module near `origin`, or for such a module as a whole. -/
def Symbol.Traced (p : Program) (origin : Module) : Symbol → Prop
  | .entity e => ∃ m, p.Near origin m ∧ e.Grounded m.source
  | .space path => ∃ m, p.Near origin m ∧ m.path = path

namespace Program

variable {p : Program} {origin m target : Module} {hops : Nat}

theorem Near.step (grounded : p.Grounded) (near : p.Near origin m) {specifier : String}
    (mentioned : m.Mentions specifier) (led : p.resolveModule m.path specifier = some target) :
    p.Near origin target where
  known := grounded.module?_of_resolveModule led
  reached := near.reached.tail ⟨specifier, mentioned, led⟩

theorem Near.grounded (near : p.Near origin m) (grounded : p.Grounded) : m.Grounded :=
  grounded.module m.path m near.known

/-- The module that an entity names as its own is the one in whose tree it stands. -/
theorem Near.eq_of_module? (near : p.Near origin m) {other : Module} {path : String}
    (same : path = m.source.path) (found : p.module? path = some other) : other = m := by
  have known := near.known
  rw [Module.path, ← same, found] at known
  exact Option.some.inj known

/-! ## The seven searches -/

/-- With `hops` hops left, every search that starts near `origin` answers with a traced symbol. -/
structure TracedAt (p : Program) (origin : Module) (hops : Nat) : Prop where
  value : ∀ m c s, p.Near origin m → resolveValue p hops m c = some s → s.Traced p origin
  binding : ∀ m scope name b s, p.Near origin m → m.boundAt? scope name = some b →
    resolveBinding p hops m b = some s → s.Traced p origin
  instance_ : ∀ m c cls, p.Near origin m → resolveInstance p hops m c = some cls →
    cls.symbol.Traced p origin
  type : ∀ m c cls, p.Near origin m → resolveType p hops m c = some cls →
    cls.symbol.Traced p origin
  superclass : ∀ cls parent, cls.symbol.Traced p origin →
    Program.superclass p hops cls = some parent → parent.symbol.Traced p origin
  member : ∀ container name s, container.Traced p origin →
    Program.member p hops container name = some s → s.Traced p origin
  export_ : ∀ visited m name s, p.Near origin m →
    (resolveExport p hops visited m name).1 = some s → s.Traced p origin

theorem symbol_traced_of_class? {s : Symbol} {cls : ClassSymbol} (traced : s.Traced p origin)
    (h : s.class? = some cls) : cls.symbol.Traced p origin := by
  unfold Symbol.class? at h
  split at h
  · cases h
    exact traced
  · cases h

theorem tracedAt_zero : TracedAt p origin 0 where
  value _ _ _ _ h := by cases h
  binding _ _ _ _ _ _ _ h := by cases h
  instance_ _ _ _ _ h := by cases h
  type _ _ _ _ h := by cases h
  superclass _ _ _ h := by cases h
  member _ _ _ _ h := by cases h
  export_ _ _ _ _ _ h := by cases h

variable {s : Symbol} {cls : ClassSymbol}

theorem entity_traced {e : Entity} (near : p.Near origin m) (h : e.Grounded m.source) :
    (Symbol.entity e).Traced p origin :=
  ⟨m, near, h⟩

theorem resolveValue_traced (grounded : p.Grounded) (ih : TracedAt p origin hops)
    (near : p.Near origin m) {c : Cursor} (h : resolveValue p (hops + 1) m c = some s) :
    s.Traced p origin := by
  have named : ∀ {name site b}, m.lookup? name site = some b → resolveBinding p hops m b = some s →
      s.Traced p origin := by
    intro name site b visible found
    obtain ⟨scope, -, bound⟩ := Module.lookup?_eq_some_iff.1 visible
    exact ih.binding m scope.key name b s near bound found
  rw [resolveValue] at h
  split at h
  -- in parentheses
  · split at h
    · exact ih.value m _ s near h
    · cases h
  -- a name, as an expression or as a member of an object literal
  · split at h
    · rename_i visible
      exact named visible h
    · cases h
  · split at h
    · rename_i visible
      exact named visible h
    · cases h
  -- an instance
  · obtain ⟨cls, made, rfl⟩ := Option.map_eq_some_iff.1 h
    exact ih.instance_ m c cls near made
  -- `this`
  · obtain ⟨e, owner, rfl⟩ := Option.map_eq_some_iff.1 h
    exact entity_traced near ((near.grounded grounded).owner? owner)
  -- `super`
  · split at h
    · rename_i cls owner
      obtain ⟨parent, above, rfl⟩ := Option.map_eq_some_iff.1 h
      exact ih.superclass cls parent (entity_traced near ((near.grounded grounded).owner? owner)) above
    · cases h
  -- a member
  · split at h
    · split at h
      · split at h
        · rename_i container held
          exact ih.member container _ s (ih.value m _ container near held) h
        · cases h
      · cases h
    · cases h
  · cases h

theorem resolveBinding_traced (grounded : p.Grounded) (ih : TracedAt p origin hops)
    (near : p.Near origin m) {scope : NodeKey} {name : String} {b : Binding}
    (bound : m.boundAt? scope name = some b) (h : resolveBinding p (hops + 1) m b = some s) :
    s.Traced p origin := by
  unfold resolveBinding at h
  split at h
  · rename_i e
    cases h
    exact entity_traced near ((near.grounded grounded).bound scope name e bound)
  · rename_i specifier imported
    split at h
    · cases h
    · rename_i target led
      have next := near.step grounded (.inl ⟨scope, name, imported, bound⟩) led
      split at h
      · cases h
        exact ⟨target, next, rfl⟩
      · exact ih.export_ [] target imported s next h
  · obtain ⟨cls, typed, rfl⟩ := Option.map_eq_some_iff.1 h
    exact ih.type m _ cls near typed
  · split at h
    · obtain ⟨cls, made, rfl⟩ := Option.map_eq_some_iff.1 h
      exact ih.instance_ m _ cls near made
    · split at h
      · exact ih.value m _ s near h
      · cases h
  · cases h

theorem resolveInstance_traced (ih : TracedAt p origin hops) (near : p.Near origin m) {c : Cursor}
    (h : resolveInstance p (hops + 1) m c = some cls) : cls.symbol.Traced p origin := by
  rw [resolveInstance] at h
  split at h
  · cases h
  · obtain ⟨s, found, isClass⟩ := Option.bind_eq_some_iff.1 h
    exact symbol_traced_of_class? (ih.value m _ s near found) isClass

theorem resolveType_traced (ih : TracedAt p origin hops) (near : p.Near origin m) {c : Cursor}
    (h : resolveType p (hops + 1) m c = some cls) : cls.symbol.Traced p origin := by
  rw [resolveType] at h
  split at h
  · cases h
  · split at h
    · split at h
      · rename_i b visible
        obtain ⟨scope, -, bound⟩ := Module.lookup?_eq_some_iff.1 visible
        obtain ⟨s, found, isClass⟩ := Option.bind_eq_some_iff.1 h
        exact symbol_traced_of_class? (ih.binding m scope.key _ b s near bound found) isClass
      · cases h
    · split at h
      · split at h
        · split at h
          · rename_i container held
            obtain ⟨s, found, isClass⟩ := Option.bind_eq_some_iff.1 h
            have inside := ih.value m _ container near held
            exact symbol_traced_of_class? (ih.member container _ s inside found) isClass
          · cases h
        · cases h
      · cases h

theorem superclass_traced (ih : TracedAt p origin hops) {parent : ClassSymbol}
    (traced : cls.symbol.Traced p origin) (h : superclass p (hops + 1) cls = some parent) :
    parent.symbol.Traced p origin := by
  obtain ⟨home, near, own, -⟩ := traced
  rw [superclass] at h
  split at h
  · rename_i heritage m _ found
    obtain rfl := near.eq_of_module? own found
    split at h
    · rename_i other extended
      split at h
      · cases h
      · cases h
        obtain ⟨s, found, isClass⟩ := Option.bind_eq_some_iff.1 extended
        exact symbol_traced_of_class? (ih.value m heritage s near found) isClass
    · cases h
  · cases h

theorem member_traced (grounded : p.Grounded) (ih : TracedAt p origin hops) {container : Symbol}
    {name : String} (traced : container.Traced p origin)
    (h : member p (hops + 1) container name = some s) : s.Traced p origin := by
  unfold member at h
  split at h
  · rename_i path
    obtain ⟨home, near, own⟩ := traced
    split at h
    · rename_i m found
      obtain rfl := near.eq_of_module? own.symm found
      exact ih.export_ [] m name s near h
    · cases h
  · rename_i object
    obtain ⟨home, near, own, within⟩ := traced
    split at h
    · rename_i m target found held
      obtain rfl := near.eq_of_module? own found
      split at h
      · rename_i kind
        obtain ⟨qualified, hqualified, rfl⟩ := Option.map_eq_some_iff.1 h
        refine entity_traced near ⟨target, within name target held, ?_, hqualified⟩
        rw [eq_of_beq kind]
        decide
      · split at h
        · obtain ⟨inner, hinner, rfl⟩ := Option.map_eq_some_iff.1 h
          exact entity_traced near ((near.grounded grounded).objects _ inner hinner)
        · exact ih.value m target s near h
    · cases h
  · rename_i cls
    have ofClass := traced
    obtain ⟨home, near, own, methods⟩ := traced
    split at h
    · rename_i qualified held
      cases h
      exact entity_traced near (methods name qualified held)
    · split at h
      · rename_i typed _
        split at h
        · rename_i m found
          obtain rfl := near.eq_of_module? own found
          split at h
          · obtain ⟨made, hmade, rfl⟩ := Option.map_eq_some_iff.1 h
            exact ih.instance_ m typed made near hmade
          · obtain ⟨made, hmade, rfl⟩ := Option.map_eq_some_iff.1 h
            exact ih.type m typed made near hmade
        · cases h
      · split at h
        · rename_i parent above
          exact ih.member parent.symbol name s (ih.superclass cls parent ofClass above) h
        · cases h
  · cases h

theorem resolveExport_traced (grounded : p.Grounded) (ih : TracedAt p origin hops)
    (near : p.Near origin m) {visited : Visited} {name : String}
    (h : (resolveExport p (hops + 1) visited m name).1 = some s) : s.Traced p origin := by
  cases exportOrigin_of_resolveExport h with
  | @binding localName b _ _ bound denoted =>
    exact ih.binding m m.source.tree.key localName b s near bound denoted
  | @space _ target _ passed led =>
    exact ⟨target, near.step grounded (.inr (.inl ⟨name, wholeModule, passed⟩)) led, rfl⟩
  | @passed _ source target visited _ _ passed led answered =>
    have next := near.step grounded (.inr (.inl ⟨name, source, passed⟩)) led
    exact ih.export_ visited target source s next answered
  | @star _ target visited _ _ _ _ mem led answered =>
    exact ih.export_ visited target name s (near.step grounded (.inr (.inr mem)) led) answered

theorem tracedAt_succ (grounded : p.Grounded) (ih : TracedAt p origin hops) :
    TracedAt p origin (hops + 1) where
  value _ _ _ near h := resolveValue_traced grounded ih near h
  binding _ _ _ _ _ near bound h := resolveBinding_traced grounded ih near bound h
  instance_ _ _ _ near h := resolveInstance_traced ih near h
  type _ _ _ near h := resolveType_traced ih near h
  superclass _ _ traced h := superclass_traced ih traced h
  member _ _ _ traced h := member_traced grounded ih traced h
  export_ _ _ _ _ near h := resolveExport_traced grounded ih near h

/-- However many hops are left, what the searches answer stands for nodes that imports lead to. -/
theorem tracedAt (grounded : p.Grounded) (origin : Module) (hops : Nat) :
    TracedAt p origin hops := by
  induction hops with
  | zero => exact tracedAt_zero
  | succ hops ih => exact tracedAt_succ grounded ih

theorem near_self (grounded : p.Grounded) {path : String} (known : p.module? path = some m) :
    p.Near m m :=
  ⟨grounded.module?_path known, .refl⟩

theorem valueOf_traced (grounded : p.Grounded) {path : String} (known : p.module? path = some m)
    {c : Cursor} (h : p.valueOf m c = some s) : s.Traced p m :=
  (tracedAt grounded m maxHops).value m c s (near_self grounded known) h

end Program

/-! ## Calls -/

/-- A call of a module that resolves to a name resolves to the qualified name of a function that
stands in the tree of a module of the program, and specifiers of the modules on the way lead there
from the module of the call. -/
theorem calleeOf_names_function (sources : List Source) {path : String} {m : Module} {call : Cursor}
    {name : String} (known : (Program.ofSources sources).module? path = some m)
    (resolved : calleeOf (Program.ofSources sources) m call = some name) :
    ∃ home, (Program.ofSources sources).module? home.path = some home ∧
      (Program.ofSources sources).Reaches m home ∧ home.source.NamesFunction name := by
  unfold calleeOf at resolved
  split at resolved
  · unfold Program.resolveCallee at resolved
    split at resolved
    · rename_i found
      cases resolved
      obtain ⟨home, near, names⟩ :=
        Program.valueOf_traced (Program.ofSources_grounded sources) known found
      exact ⟨home, near.known, near.reached, names⟩
    · cases resolved
  · cases resolved

/-- The file `a.ts` with the text `import{f}from"./b";f()`. -/
def importingFile : Source where
  path := "a.ts"
  language := "typescript"
  bytes := Text.Utf8.encode "import{f}from\"./b\";f()"
  tree := ⟨"program", true, none, 0, 22,
    [⟨"import_statement", true, none, 0, 19,
      [⟨"import_clause", true, none, 6, 9,
        [⟨"named_imports", true, none, 6, 9,
          [⟨"import_specifier", true, none, 7, 8,
            [⟨"identifier", true, some "name", 7, 8, []⟩]⟩]⟩]⟩,
       ⟨"string", true, some "source", 13, 18, []⟩]⟩,
     ⟨"expression_statement", true, none, 19, 22,
      [⟨"call_expression", true, none, 19, 22,
        [⟨"identifier", true, some "function", 19, 20, []⟩,
         ⟨"arguments", true, some "arguments", 20, 22, []⟩]⟩]⟩]⟩

/-- The file `b.ts` with the text `export function f(){}`. -/
def exportingFile : Source where
  path := "b.ts"
  language := "typescript"
  bytes := Text.Utf8.encode "export function f(){}"
  tree := ⟨"program", true, none, 0, 21,
    [⟨"export_statement", true, none, 0, 21,
      [⟨"function_declaration", true, some "declaration", 7, 21,
        [⟨"identifier", true, some "name", 16, 17, []⟩,
         ⟨"formal_parameters", true, some "parameters", 17, 19, []⟩,
         ⟨"statement_block", true, some "body", 19, 21, []⟩]⟩]⟩]⟩

/-- The file at a path that passes on everything of files next to it with names of one letter: for
the letters `c` and `d` its text is `export*from"./c";export*from"./d";`. -/
def starFile (path : String) (letters : List Char) : Source where
  path := path
  language := "typescript"
  bytes := letters.flatMap fun letter =>
    Text.Utf8.encode ("export*from\"./" ++ letter.toString ++ "\";")
  tree := ⟨"program", true, none, 0, 17 * letters.length,
    (List.range letters.length).map fun i =>
      ⟨"export_statement", true, none, 17 * i, 17 * i + 17,
        [⟨"string", true, some "source", 17 * i + 11, 17 * i + 16, []⟩]⟩⟩

/-- The call in the one file names the function in the other. -/
theorem calleeOf_names_function_imported :
    ∃ call ∈ callSites importingFile,
      calleeOf (Program.ofSources [importingFile, exportingFile]) (Module.index importingFile) call
        = some "\"b.ts\".f" ∧
      ∃ home, (Program.ofSources [importingFile, exportingFile]).module? home.path = some home ∧
        (Program.ofSources [importingFile, exportingFile]).Reaches (Module.index importingFile) home ∧
        home.source.NamesFunction "\"b.ts\".f" := by
  have known : (Program.ofSources [importingFile, exportingFile]).module? "a.ts" =
      some (Module.index importingFile) := rfl
  have resolved : ∃ call ∈ callSites importingFile,
      calleeOf (Program.ofSources [importingFile, exportingFile]) (Module.index importingFile) call
        = some "\"b.ts\".f" := by decide +kernel
  obtain ⟨call, visited, resolved⟩ := resolved
  exact ⟨call, visited, resolved, calleeOf_names_function _ known resolved⟩

end RepoAudit
