import RepoAudit.Proofs.Symbol.Grounded
import RepoAudit.Proofs.Symbol.Lookup

/-! # Programs and the modules they know

Which module a program has for a path, and where the modules that specifiers lead to come from.

* `module?_ofSources` – a path stands for the last file that has it;
* `Program.Grounded` – modules are filed under their own paths, and their tables stand for nodes;
* `module?_of_resolveModule` – a specifier leads to a module of the program;
* `ExportOrigin` – what one step of a search for an export can answer with.
-/

namespace RepoAudit

open Syntax

namespace Program

variable {p : Program}

/-- A path stands for the last source file that has it. -/
theorem module?_ofSources (sources : List Source) (path : String) :
    (ofSources sources).module? path =
      (sources.reverse.find? (·.path = path)).map Module.index := by
  rw [module?, ofSources, Table.find?_ofList, ← List.map_reverse, List.find?_map, Option.map_map]
  rfl

theorem exists_source_of_module? {sources : List Source} {path : String} {m : Module}
    (h : (ofSources sources).module? path = some m) :
    ∃ f ∈ sources, f.path = path ∧ m = Module.index f := by
  rw [module?_ofSources] at h
  obtain ⟨f, found, rfl⟩ := Option.map_eq_some_iff.1 h
  refine ⟨f, ?_, by simpa using List.find?_some found, rfl⟩
  exact List.mem_reverse.1 (List.mem_of_find?_eq_some found)

/-- Every file of a program has a module. -/
theorem exists_module?_of_mem {sources : List Source} {f : Source} (h : f ∈ sources) :
    ∃ m, (ofSources sources).module? f.path = some m := by
  rw [module?_ofSources]
  cases found : sources.reverse.find? (·.path = f.path) with
  | some last => exact ⟨Module.index last, rfl⟩
  | none =>
    have missing := List.find?_eq_none.1 found f (List.mem_reverse.2 h)
    simp at missing

/-- Modules are filed under their own paths, and what their tables hold stands for nodes of their
trees. -/
structure Grounded (p : Program) : Prop where
  path_eq : ∀ path m, p.module? path = some m → m.path = path
  module : ∀ path m, p.module? path = some m → m.Grounded

theorem ofSources_grounded (sources : List Source) : (ofSources sources).Grounded where
  path_eq path m found := by
    obtain ⟨f, -, rfl, rfl⟩ := exists_source_of_module? found
    exact Module.index_path f
  module path m found := by
    obtain ⟨f, -, -, rfl⟩ := exists_source_of_module? found
    exact Module.index_grounded f

theorem Grounded.module?_path (h : p.Grounded) {path : String} {m : Module}
    (found : p.module? path = some m) : p.module? m.path = some m := by
  rw [h.path_eq path m found]
  exact found

/-- A specifier leads to a module of the program. -/
theorem Grounded.module?_of_resolveModule (h : p.Grounded) {importer specifier : String}
    {target : Module} (led : p.resolveModule importer specifier = some target) :
    p.module? target.path = some target := by
  unfold resolveModule at led
  split at led
  · obtain ⟨path, -, found⟩ := List.exists_of_findSome?_eq_some led
    exact h.module?_path found
  · cases led

/-! ## Answers of single steps -/

/-- When modules are asked in turn, the answer is one that a module of the list gives. -/
theorem exists_of_firstAnswer {ask : Visited → Module → Option Symbol × Visited} {visited : Visited}
    {ms : List Module} {s : Symbol} (h : (firstAnswer ask visited ms).1 = some s) :
    ∃ m ∈ ms, ∃ before, (ask before m).1 = some s := by
  induction ms generalizing visited with
  | nil => cases h
  | cons m rest ih =>
    rw [firstAnswer] at h
    split at h
    · rename_i answer after asked
      exact ⟨m, by simp, visited, by rw [asked]; exact h⟩
    · rename_i after asked
      obtain ⟨other, mem, before, answered⟩ := ih h
      exact ⟨other, List.mem_cons_of_mem _ mem, before, answered⟩

/-- Where a symbol that a module exports under a name comes from, when the next steps have `hops` hops
left: from the binding of a local name, from a module passed on under the name, from a name passed on
out of another module, or from a module of which everything is passed on. -/
inductive ExportOrigin (p : Program) (hops : Nat) (m : Module) (name : String) : Symbol → Prop
  | binding {localName : String} {b : Binding} {s : Symbol} :
      m.exports.find? name = some localName → m.outermost? localName = some b →
      p.resolveBinding hops m b = some s → ExportOrigin p hops m name s
  | space {specifier : String} {target : Module} :
      m.exports.find? name = none → m.reexports.find? name = some (specifier, wholeModule) →
      p.resolveModule m.path specifier = some target →
      ExportOrigin p hops m name (.space target.path)
  | passed {specifier source : String} {target : Module} {visited : Visited} {s : Symbol} :
      m.exports.find? name = none → m.reexports.find? name = some (specifier, source) →
      p.resolveModule m.path specifier = some target →
      (p.resolveExport hops visited target source).1 = some s → ExportOrigin p hops m name s
  | star {specifier : String} {target : Module} {visited : Visited} {s : Symbol} :
      m.exports.find? name = none → m.reexports.find? name = none → name ≠ defaultName →
      specifier ∈ m.starExports → p.resolveModule m.path specifier = some target →
      (p.resolveExport hops visited target name).1 = some s → ExportOrigin p hops m name s

theorem exportOrigin_of_resolveExport {hops : Nat} {visited : Visited} {m : Module} {name : String}
    {s : Symbol} (h : (p.resolveExport (hops + 1) visited m name).1 = some s) :
    p.ExportOrigin hops m name s := by
  rw [resolveExport] at h
  split at h
  · cases h
  · dsimp only at h
    split at h
    · rename_i localName listed
      split at h
      · rename_i b bound
        exact .binding listed bound h
      · cases h
    · rename_i unlisted
      split at h
      · rename_i specifier source passed
        split at h
        · cases h
        · rename_i target led
          split at h
          · rename_i isWhole
            cases h
            rw [beq_iff_eq] at isWhole
            exact .space unlisted (isWhole ▸ passed) led
          · exact .passed unlisted passed led h
      · rename_i unpassed
        split at h
        · cases h
        · rename_i notDefault
          obtain ⟨target, asked, before, answered⟩ := exists_of_firstAnswer h
          obtain ⟨specifier, mem, led⟩ := List.mem_filterMap.1 asked
          exact .star unlisted unpassed (by simpa using notDefault) mem led answered

end Program

namespace Module

variable {m : Module}

/-- What `this` means is a class or an object literal of the tree. -/
theorem Grounded.owner? (h : m.Grounded) {c : Cursor} {e : Entity} (found : m.owner? c = some e) :
    e.Grounded m.source := by
  rcases ownerAlong_cases found with ⟨cls, symbol, -, entry, rfl⟩ | ⟨key, object, entry, rfl⟩
  · exact h.classes _ symbol entry
  · exact h.objects key object entry

end Module

end RepoAudit
