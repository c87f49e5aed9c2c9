import RepoAudit.Proofs.Symbol.Program

/-! # One step of a search for an export

A search for an export first looks whether it was there before.  If not, it remembers the place and
goes one of six ways, depending on what the module says about the name.

* `Program.ExportCase` – the six ways, of which one is always open;
* `resolveExport_listed`, …, `resolveExport_star` – what the search does on each of them;
* `subset_visited_resolveExport` – a search forgets no place where it was;
* `firstAnswer_visited`, `exists_later_of_firstAnswer` – what modules asked in turn do to the places
  seen, and that those asked later know all places seen before.
-/

namespace RepoAudit

open Syntax

namespace Program

variable {p : Program} {m target : Module} {name specifier source localName : String} {hops : Nat}
  {s : Symbol} {visited : Visited}

/-- The modules of which a module passes on everything, in the order in which it lists them. -/
def starTargets (p : Program) (m : Module) : List Module :=
  m.starExports.filterMap (p.resolveModule m.path)

theorem mem_starTargets :
    target ∈ p.starTargets m ↔
      ∃ specifier ∈ m.starExports, p.resolveModule m.path specifier = some target :=
  List.mem_filterMap

/-- What a module says about a name: it exports the name itself, passes it on from another module
or passes a module on under it, does so in vain because the specifier leads nowhere, or says
nothing.  In the last case everything passed on is asked, unless the name is that of the default
export. -/
inductive ExportCase (p : Program) (m : Module) (name : String) : Prop
  | listed {localName : String} : m.exports.find? name = some localName → ExportCase p m name
  | astray {specifier source : String} : m.exports.find? name = none →
      m.reexports.find? name = some (specifier, source) →
      p.resolveModule m.path specifier = none → ExportCase p m name
  | space {specifier : String} {target : Module} : m.exports.find? name = none →
      m.reexports.find? name = some (specifier, wholeModule) →
      p.resolveModule m.path specifier = some target → ExportCase p m name
  | passed {specifier source : String} {target : Module} : m.exports.find? name = none →
      m.reexports.find? name = some (specifier, source) → source ≠ wholeModule →
      p.resolveModule m.path specifier = some target → ExportCase p m name
  | unnamed : m.exports.find? name = none → m.reexports.find? name = none → name = defaultName →
      ExportCase p m name
  | star : m.exports.find? name = none → m.reexports.find? name = none → name ≠ defaultName →
      ExportCase p m name

theorem exportCase (p : Program) (m : Module) (name : String) : p.ExportCase m name := by
  cases listed : m.exports.find? name with
  | some localName => exact .listed listed
  | none =>
    cases passed : m.reexports.find? name with
    | none =>
      by_cases isDefault : name = defaultName
      · exact .unnamed listed passed isDefault
      · exact .star listed passed isDefault
    | some entry =>
      obtain ⟨specifier, source⟩ := entry
      cases led : p.resolveModule m.path specifier with
      | none => exact .astray listed passed led
      | some target =>
        by_cases isWhole : source = wholeModule
        · exact .space listed (isWhole ▸ passed) led
        · exact .passed listed passed isWhole led

/-! ## What each way does -/

theorem resolveExport_of_mem (seen : (m.path, name) ∈ visited) :
    p.resolveExport hops visited m name = (none, visited) := by
  cases hops with
  | zero => rfl
  | succ hops => simp [resolveExport, seen]

section unseen

variable (unseen : (m.path, name) ∉ visited)

include unseen

theorem resolveExport_listed (listed : m.exports.find? name = some localName) :
    p.resolveExport (hops + 1) visited m name =
      ((m.outermost? localName).bind (p.resolveBinding hops m), (m.path, name) :: visited) := by
  cases bound : m.outermost? localName <;> simp [resolveExport, unseen, listed, bound]

theorem resolveExport_astray (unlisted : m.exports.find? name = none)
    (passed : m.reexports.find? name = some (specifier, source))
    (lost : p.resolveModule m.path specifier = none) :
    p.resolveExport (hops + 1) visited m name = (none, (m.path, name) :: visited) := by
  simp [resolveExport, unseen, unlisted, passed, lost]

theorem resolveExport_space (unlisted : m.exports.find? name = none)
    (passed : m.reexports.find? name = some (specifier, wholeModule))
    (led : p.resolveModule m.path specifier = some target) :
    p.resolveExport (hops + 1) visited m name =
      (some (.space target.path), (m.path, name) :: visited) := by
  simp [resolveExport, unseen, unlisted, passed, led]

theorem resolveExport_passed (unlisted : m.exports.find? name = none)
    (passed : m.reexports.find? name = some (specifier, source)) (single : source ≠ wholeModule)
    (led : p.resolveModule m.path specifier = some target) :
    p.resolveExport (hops + 1) visited m name =
      p.resolveExport hops ((m.path, name) :: visited) target source := by
  simp [resolveExport, unseen, unlisted, passed, single, led]

theorem resolveExport_unnamed (unlisted : m.exports.find? name = none)
    (unpassed : m.reexports.find? name = none) (isDefault : name = defaultName) :
    p.resolveExport (hops + 1) visited m name = (none, (m.path, name) :: visited) := by
  subst isDefault
  simp [resolveExport, unseen, unlisted, unpassed]

theorem resolveExport_star (unlisted : m.exports.find? name = none)
    (unpassed : m.reexports.find? name = none) (notDefault : name ≠ defaultName) :
    p.resolveExport (hops + 1) visited m name =
      firstAnswer (fun visited target => p.resolveExport hops visited target name)
        ((m.path, name) :: visited) (p.starTargets m) := by
  simp [resolveExport, unseen, unlisted, unpassed, notDefault, starTargets]

end unseen

/-! ## Modules asked in turn -/

section firstAnswer

variable {ask : Visited → Module → Option Symbol × Visited} {rest : List Module}

theorem firstAnswer_cons_of_some (h : (ask visited m).1 = some s) :
    (firstAnswer ask visited (m :: rest)).1 = some s := by
  rw [firstAnswer]
  split
  · rename_i asked
    rw [asked] at h
    exact h
  · rename_i asked
    rw [asked] at h
    cases h

theorem firstAnswer_cons_of_none (h : (ask visited m).1 = none) :
    firstAnswer ask visited (m :: rest) = firstAnswer ask (ask visited m).2 rest := by
  rw [firstAnswer]
  split
  · rename_i asked
    rw [asked] at h
    cases h
  · rename_i asked
    rw [asked]

/-- When nothing asked forgets a place, the module that answers was asked with every place known
that was known at the start. -/
theorem exists_later_of_firstAnswer (grows : ∀ visited m, visited ⊆ (ask visited m).2)
    {ms : List Module} (h : (firstAnswer ask visited ms).1 = some s) :
    ∃ m ∈ ms, ∃ later, visited ⊆ later ∧ (ask later m).1 = some s := by
  induction ms generalizing visited with
  | nil => cases h
  | cons m rest ih =>
    cases answer : (ask visited m).1 with
    | some found =>
      rw [firstAnswer_cons_of_some answer] at h
      exact ⟨m, by simp, visited, List.Subset.refl _, answer.trans h⟩
    | none =>
      rw [firstAnswer_cons_of_none answer] at h
      obtain ⟨other, mem, later, kept, answered⟩ := ih h
      exact ⟨other, List.mem_cons_of_mem _ mem, later, List.Subset.trans (grows visited m) kept,
        answered⟩

/-- What every module asked does to the places seen, modules asked in turn do to them. -/
theorem firstAnswer_visited {R : Visited → Visited → Prop} (refl : ∀ visited, R visited visited)
    (trans : ∀ {a b c}, R a b → R b c → R a c) {ms : List Module}
    (asks : ∀ m ∈ ms, ∀ visited, R visited (ask visited m).2) (visited : Visited) :
    R visited (firstAnswer ask visited ms).2 := by
  induction ms generalizing visited with
  | nil => exact refl visited
  | cons m rest ih =>
    have first := asks m (by simp) visited
    have later := ih fun other mem => asks other (List.mem_cons_of_mem _ mem)
    rw [firstAnswer]
    split
    · rename_i asked
      rw [asked] at first
      exact first
    · rename_i asked
      rw [asked] at first
      exact trans first (later _)

end firstAnswer

/-! ## Places are remembered -/

/-- When searches with fewer hops forget no place, neither does one with a hop more, and it remembers
the place where it begins. -/
theorem marked_subset_resolveExport
    (grows : ∀ visited m name, visited ⊆ (p.resolveExport hops visited m name).2)
    (unseen : (m.path, name) ∉ visited) :
    (m.path, name) :: visited ⊆ (p.resolveExport (hops + 1) visited m name).2 := by
  cases p.exportCase m name with
  | listed listed =>
    rw [resolveExport_listed unseen listed]
    exact List.Subset.refl _
  | astray unlisted passed lost =>
    rw [resolveExport_astray unseen unlisted passed lost]
    exact List.Subset.refl _
  | space unlisted passed led =>
    rw [resolveExport_space unseen unlisted passed led]
    exact List.Subset.refl _
  | passed unlisted passed single led =>
    rw [resolveExport_passed unseen unlisted passed single led]
    exact grows _ _ _
  | unnamed unlisted unpassed isDefault =>
    rw [resolveExport_unnamed unseen unlisted unpassed isDefault]
    exact List.Subset.refl _
  | star unlisted unpassed notDefault =>
    rw [resolveExport_star unseen unlisted unpassed notDefault]
    exact firstAnswer_visited (fun _ => List.Subset.refl _) List.Subset.trans
      (fun _ _ _ => grows _ _ _) _

/-- A search forgets no place where it was. -/
theorem subset_visited_resolveExport (hops : Nat) (visited : Visited) (m : Module) (name : String) :
    visited ⊆ (p.resolveExport hops visited m name).2 := by
  induction hops generalizing visited m name with
  | zero => exact List.Subset.refl _
  | succ hops ih =>
    by_cases seen : (m.path, name) ∈ visited
    · rw [resolveExport_of_mem seen]
      exact List.Subset.refl _
    · exact List.Subset.trans (List.subset_cons_self _ _) (marked_subset_resolveExport ih seen)

/-- A search with a hop left remembers where it began. -/
theorem mem_visited_resolveExport (hops : Nat) (visited : Visited) (m : Module) (name : String) :
    (m.path, name) ∈ (p.resolveExport (hops + 1) visited m name).2 := by
  by_cases seen : (m.path, name) ∈ visited
  · exact subset_visited_resolveExport _ _ _ _ seen
  · exact marked_subset_resolveExport (subset_visited_resolveExport hops) seen List.mem_cons_self

end Program

end RepoAudit
