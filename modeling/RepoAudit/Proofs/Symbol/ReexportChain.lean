import RepoAudit.Proofs.DeadCode.LocalCalls
import RepoAudit.Proofs.Symbol.ExportStep

/-! # How far a name is passed on

A module may pass a name on from another module, under a new name each time, and so on along a chain
of modules.  Every module on the way takes one hop.  A call of an imported name has used two hops when
it comes to the first of them, and the function at the end takes one of its own, so the limit on hops
is a limit on the length of the chain.

* `Program.PassedOn` – a chain of names passed on, with a function at its end;
* `resolveExport_of_passedOn` – the search for an export along a chain, by induction on the chain;
* `resolveCallee_of_passedOn` – which chains a call can follow.
-/

namespace RepoAudit

open Syntax

namespace Program

/-- What `m` exports under `name` is the function `qualified`, after the name was passed on `k` times.
The modules of the chain with their names are listed as places.  At each step but the last the module
does not export the name itself and passes on one name of another module; what else the modules
contain is left open. -/
inductive PassedOn (p : Program) (qualified : String) : Nat → Visited → Module → String → Prop
  | declared {m : Module} {name localName : String} :
      m.exports.find? name = some localName →
      m.outermost? localName = some (.entity (.function qualified)) →
      PassedOn p qualified 0 [(m.path, name)] m name
  | passed {k : Nat} {places : Visited} {m target : Module} {name specifier source : String} :
      m.exports.find? name = none → m.reexports.find? name = some (specifier, source) →
      source ≠ wholeModule → p.resolveModule m.path specifier = some target →
      PassedOn p qualified k places target source →
      PassedOn p qualified (k + 1) ((m.path, name) :: places) m name

variable {p : Program} {m : Module} {name qualified : String} {k hops : Nat}
  {places visited : Visited}

theorem resolveBinding_entity (e : Entity) :
    p.resolveBinding hops m (.entity e) = if 0 < hops then some (.entity e) else none := by
  cases hops with
  | zero => rfl
  | succ hops => rfl

/-- Along a chain of distinct places, none of which was seen before, a search comes to the function if
it has a hop for each module and one more for the function. -/
theorem resolveExport_of_passedOn (chain : p.PassedOn qualified k places m name)
    (distinct : places.Nodup) (fresh : ∀ place ∈ places, place ∉ visited) :
    (p.resolveExport hops visited m name).1 =
      if k + 1 < hops then some (.entity (.function qualified)) else none := by
  induction chain generalizing hops visited with
  | declared listed bound =>
    cases hops with
    | zero => rfl
    | succ hops =>
      rw [resolveExport_listed (fresh _ List.mem_cons_self) listed, bound, Option.bind_some,
        resolveBinding_entity]
      simp only [Nat.zero_add, Nat.lt_add_left_iff_pos]
  | @passed k places m target name specifier source unlisted passed single led rest ih =>
    cases hops with
    | zero => rfl
    | succ hops =>
      obtain ⟨new, distinctRest⟩ := List.nodup_cons.1 distinct
      have freshRest : ∀ place ∈ places, place ∉ (m.path, name) :: visited := by
        intro place mem seen
        rcases List.mem_cons.1 seen with rfl | before
        · exact new mem
        · exact fresh place (List.mem_cons_of_mem _ mem) before
      rw [resolveExport_passed (fresh _ List.mem_cons_self) unlisted passed single led,
        ih distinctRest freshRest]
      simp only [Nat.add_lt_add_iff_right]

end Program

/-- An identifier that stands for an imported name denotes the function at the end of a chain of names
passed on, if the name is passed on at most 29 times, and otherwise nothing. -/
theorem resolveCallee_of_passedOn (p : Program) {importer m : Module} {callee : Cursor}
    {specifier name qualified : String} {k : Nat} {places : Visited}
    (kind : callee.kind = "identifier")
    (bound : importer.lookup? (importer.text callee) callee = some (.imported specifier name))
    (single : name ≠ wholeModule) (led : p.resolveModule importer.path specifier = some m)
    (chain : p.PassedOn qualified k places m name) (distinct : places.Nodup) :
    p.resolveCallee importer callee = if k ≤ 29 then some qualified else none := by
  -- of the hops of the search one goes to the identifier and one to the import
  have imported : p.valueOf importer callee = (p.resolveExport 31 [] m name).1 := by
    rw [Program.valueOf, Program.maxHops, Program.resolveValue_identifier kind bound,
      Program.resolveBinding]
    simp [led, single]
  have found : (p.resolveExport 31 [] m name).1 =
      if k + 1 < 31 then some (.entity (.function qualified)) else none :=
    Program.resolveExport_of_passedOn chain distinct fun _ _ => List.not_mem_nil
  rw [Program.resolveCallee, imported, found]
  by_cases near : k ≤ 29
  · rw [if_pos near, if_pos (by omega)]
  · rw [if_neg near, if_neg (by omega)]

instance (specifier name : String) :
    (found : Option Binding) → Decidable (found = some (.imported specifier name))
  | some (.imported specifier' name') =>
    decidable_of_iff (specifier' = specifier ∧ name' = name) (by simp)
  | some (.entity _) | some (.variable _ _) | none => isFalse (by simp)

def relayNames : List Char :=
  "abcdefghijklmnopqrstuvwxyzABCDE".toList

def relayName (i : Nat) : String :=
  (relayNames.getD i ' ').toString

/-- The file `b.ts`, which passes thirty of the names on from itself, each as the one before it, and
declares a function with the last name: `export{b as a,c as b,…,E as D,}from"./b";export function E(){}`. -/
def relayFile : Source where
  path := "b.ts"
  language := "typescript"
  bytes := Text.Utf8.encode "export\x7b" ++
    ((List.range 30).flatMap fun i =>
      Text.Utf8.encode (relayName (i + 1) ++ " as " ++ relayName i ++ ",")) ++
    Text.Utf8.encode "\x7dfrom\"./b\";export function E(){}"
  tree := ⟨"program", true, none, 0, 249,
    [⟨"export_statement", true, none, 0, 228,
      [⟨"export_clause", true, none, 6, 218,
        (List.range 30).map fun i =>
          ⟨"export_specifier", true, none, 7 * i + 7, 7 * i + 13,
            [⟨"identifier", true, some "name", 7 * i + 7, 7 * i + 8, []⟩,
             ⟨"identifier", true, some "alias", 7 * i + 12, 7 * i + 13, []⟩]⟩⟩,
       ⟨"string", true, some "source", 222, 227, []⟩]⟩,
     ⟨"export_statement", true, none, 228, 249,
      [⟨"function_declaration", true, some "declaration", 235, 249,
        [⟨"identifier", true, some "name", 244, 245, []⟩,
         ⟨"formal_parameters", true, some "parameters", 245, 247, []⟩,
         ⟨"statement_block", true, some "body", 247, 249, []⟩]⟩]⟩]⟩

/-- The file `a.ts` with the text `import{a,b}from"./b";a();b()`. -/
def relayCalls : Source where
  path := "a.ts"
  language := "typescript"
  bytes := Text.Utf8.encode "import{a,b}from\"./b\";a();b()"
  tree := ⟨"program", true, none, 0, 28,
    [⟨"import_statement", true, none, 0, 21,
      [⟨"import_clause", true, none, 6, 11,
        [⟨"named_imports", true, none, 6, 11,
          [⟨"import_specifier", true, none, 7, 8, [⟨"identifier", true, some "name", 7, 8, []⟩]⟩,
           ⟨"import_specifier", true, none, 9, 10, [⟨"identifier", true, some "name", 9, 10, []⟩]⟩]⟩]⟩,
       ⟨"string", true, some "source", 15, 20, []⟩]⟩,
     ⟨"expression_statement", true, none, 21, 25,
      [⟨"call_expression", true, none, 21, 24,
        [⟨"identifier", true, some "function", 21, 22, []⟩,
         ⟨"arguments", true, some "arguments", 22, 24, []⟩]⟩]⟩,
     ⟨"expression_statement", true, none, 25, 28,
      [⟨"call_expression", true, none, 25, 28,
        [⟨"identifier", true, some "function", 25, 26, []⟩,
         ⟨"arguments", true, some "arguments", 26, 28, []⟩]⟩]⟩]⟩

/-- What the file exports, and what it passes on. -/
theorem relayFile_entries :
    (Module.index relayFile).exports.entries = [("E", "E")] ∧
    (Module.index relayFile).reexports.entries =
      (List.range 30).map fun i => (relayName i, "./b", relayName (i + 1)) := by
  decide +kernel

/-- The places from the one that is `k` steps before the last name on. -/
def relayPlaces (k : Nat) : Visited :=
  (List.range' (30 - k) (k + 1)).map fun i => ("b.ts", relayName i)

/-- The name `k` steps before the last one is passed on `k` times. -/
theorem relayFile_passedOn {k : Nat} (le : k ≤ 30) :
    (Program.ofSources [relayCalls, relayFile]).PassedOn "\"b.ts\".E" k (relayPlaces k)
      (Module.index relayFile) (relayName (30 - k)) := by
  have path : (Module.index relayFile).path = "b.ts" := Module.index_path relayFile
  induction k with
  | zero =>
    have listed : (Module.index relayFile).exports.find? (relayName 30) = some "E" := by
      rw [Table.find?, relayFile_entries.1]
      decide
    have bound : (Module.index relayFile).outermost? "E" = some (.entity (.function "\"b.ts\".E")) := by
      decide +kernel
    have place : relayPlaces 0 = [((Module.index relayFile).path, relayName 30)] := by
      rw [path]
      rfl
    rw [place]
    exact .declared listed bound
  | succ k ih =>
    have names : ∀ i < 30, (Module.index relayFile).exports.find? (relayName i) = none ∧
        (Module.index relayFile).reexports.find? (relayName i) = some ("./b", relayName (i + 1)) ∧
        relayName (i + 1) ≠ wholeModule := by
      simp only [Table.find?, relayFile_entries]
      decide +kernel
    have led : (Program.ofSources [relayCalls, relayFile]).resolveModule
        (Module.index relayFile).path "./b" = some (Module.index relayFile) := by
      rw [path]
      rfl
    obtain ⟨unlisted, passed, single⟩ := names (30 - (k + 1)) (by omega)
    have next : 30 - (k + 1) + 1 = 30 - k := by omega
    have places : relayPlaces (k + 1) =
        ((Module.index relayFile).path, relayName (30 - (k + 1))) :: relayPlaces k := by
      rw [path, relayPlaces, relayPlaces, List.range'_succ, List.map_cons, next]
    rw [next] at passed single
    rw [places]
    exact .passed unlisted passed single led (ih (by omega))

/-- Of two calls the one of the name that is passed on thirty times reaches nothing, and the one of
the name that is passed on twenty-nine times reaches the function. -/
theorem resolveCallee_of_passedOn_relay :
    (∃ callee ∈ (callSites relayCalls).filterMap (·.child? "function"),
      (Module.index relayCalls).text callee = "a" ∧
      (Program.ofSources [relayCalls, relayFile]).resolveCallee (Module.index relayCalls) callee
        = none) ∧
    ∃ callee ∈ (callSites relayCalls).filterMap (·.child? "function"),
      (Module.index relayCalls).text callee = "b" ∧
      (Program.ofSources [relayCalls, relayFile]).resolveCallee (Module.index relayCalls) callee
        = some "\"b.ts\".E" := by
  have led : (Program.ofSources [relayCalls, relayFile]).resolveModule
      (Module.index relayCalls).path "./b" = some (Module.index relayFile) := by
    rw [Module.index_path]
    rfl
  have sites : ∀ name ∈ ["a", "b"], ∃ callee ∈ (callSites relayCalls).filterMap (·.child? "function"),
      callee.kind = "identifier" ∧ (Module.index relayCalls).text callee = name ∧
      (Module.index relayCalls).lookup? ((Module.index relayCalls).text callee) callee =
        some (.imported "./b" name) := by decide +kernel
  constructor
  · obtain ⟨callee, called, kind, text, bound⟩ := sites "a" (by decide)
    exact ⟨callee, called, text, resolveCallee_of_passedOn _ kind bound (by decide) led
      (relayFile_passedOn (Nat.le_refl 30)) (by decide)⟩
  · obtain ⟨callee, called, kind, text, bound⟩ := sites "b" (by decide)
    exact ⟨callee, called, text, resolveCallee_of_passedOn _ kind bound (by decide) led
      (relayFile_passedOn (by decide : 29 ≤ 30)) (by decide)⟩

end RepoAudit
