import Mathlib.Logic.Relation
import RepoAudit.Proofs.Symbol.ExportStep
import RepoAudit.Proofs.Symbol.Locality

/-! # Everything passed on is searched depth first

Modules pass on everything of other modules, these of further ones, in cycles and along several ways
to one module.  The search for an export remembers where it was, over all branches, and gives up when
its hops are used up.  In a program of at most 32 modules neither hides a module: the search finds
what a plain traversal in depth-first order meets first.

* `Program.depthFirst` – the modules met along everything passed on, each once;
* `mem_depthFirst_iff` – these are the reachable modules;
* `resolveExport_goesThrough` – the search is a search through that order, by induction on hops;
* `exportOf_finds_first_provider` – it answers exactly if a reachable module exports the name, with
  the binding of the first one.
-/

namespace RepoAudit

open Syntax
open Relation (ReflTransGen)

namespace Program

variable {p : Program} {m target : Module} {name : String} {hops : Nat} {visited : Visited}
  {unseen : List String} {ms : List Module}

/-! ## The order -/

/-- The paths that are still to be met after some modules. -/
def stillUnseen (unseen : List String) (met : List Module) : List String :=
  unseen.filter fun path => path ∉ met.map Module.path

@[simp] theorem stillUnseen_nil (unseen : List String) : stillUnseen unseen [] = unseen := by
  simp [stillUnseen]

theorem stillUnseen_append (unseen : List String) (met later : List Module) :
    stillUnseen (stillUnseen unseen met) later = stillUnseen unseen (met ++ later) := by
  simp only [stillUnseen, List.filter_filter, List.map_append, List.mem_append, not_or]
  refine List.filter_congr fun path _ => ?_
  rw [decide_eq_decide.2 And.comm, Bool.decide_and]

theorem mem_stillUnseen {path : String} {met : List Module} :
    path ∈ stillUnseen unseen met ↔ path ∈ unseen ∧ path ∉ met.map Module.path := by
  simp [stillUnseen]

theorem length_stillUnseen_le (unseen : List String) (met : List Module) :
    (stillUnseen unseen met).length ≤ unseen.length :=
  List.length_filter_le _ _

theorem length_stillUnseen_lt (isUnseen : m.path ∈ unseen) :
    (stillUnseen unseen [m]).length < unseen.length :=
  List.length_filter_lt_length_iff_exists.2 ⟨m.path, isUnseen, by simp⟩

/-- The modules met from a row of modules, when of all paths those in `unseen` are still to be met: a
module comes before those of which it passes on everything, and these before the modules after it. -/
def starOrder (p : Program) (unseen : List String) : List Module → List Module
  | [] => []
  | m :: rest =>
    if m.path ∈ unseen then
      m :: starOrder p (stillUnseen unseen [m]) (p.starTargets m ++ rest)
    else starOrder p unseen rest
termination_by ms => (unseen.length, ms.length)
decreasing_by
  · exact Prod.Lex.left _ _ (length_stillUnseen_lt ‹_›)
  · exact Prod.Lex.right _ (by simp)

/-- The modules met from a module along everything passed on, in depth-first order. -/
def depthFirst (p : Program) (m : Module) : List Module :=
  p.starOrder p.modules.keys [m]

/-- What is met from a row of modules is met from its first part, and then from the second with what
the first has left. -/
theorem starOrder_append (ms rest : List Module) :
    p.starOrder unseen (ms ++ rest) =
      p.starOrder unseen ms ++ p.starOrder (stillUnseen unseen (p.starOrder unseen ms)) rest := by
  fun_induction starOrder p unseen ms with
  | case1 unseen => simp
  | case2 unseen m ms isUnseen ih =>
    rw [List.cons_append, starOrder, if_pos isUnseen, ← List.append_assoc, ih, List.cons_append,
      stillUnseen_append, List.singleton_append]
  | case3 unseen m ms isSeen ih => rw [List.cons_append, starOrder, if_neg isSeen, ih]

theorem starOrder_singleton (isUnseen : m.path ∈ unseen) :
    p.starOrder unseen [m] = m :: p.starOrder (stillUnseen unseen [m]) (p.starTargets m) := by
  rw [starOrder, if_pos isUnseen, List.append_nil]

theorem starOrder_singleton_of_notMem (isSeen : m.path ∉ unseen) : p.starOrder unseen [m] = [] := by
  rw [starOrder, if_neg isSeen, starOrder]

/-! ## Which modules are met -/

/-- Everything of one module is passed on by another, directly or through further modules. -/
def StarReaches (p : Program) : Module → Module → Prop :=
  ReflTransGen fun m target => target ∈ p.starTargets m

theorem starReaches_of_mem_starOrder (h : target ∈ p.starOrder unseen ms) :
    ∃ m ∈ ms, p.StarReaches m target := by
  fun_induction starOrder p unseen ms with
  | case1 => cases h
  | case2 unseen m rest isUnseen ih =>
    rcases List.mem_cons.1 h with rfl | later
    · exact ⟨target, by simp, .refl⟩
    · obtain ⟨other, mem, reached⟩ := ih later
      rcases List.mem_append.1 mem with passed | after
      · exact ⟨m, by simp, .head passed reached⟩
      · exact ⟨other, List.mem_cons_of_mem _ after, reached⟩
  | case3 unseen m rest isSeen ih =>
    obtain ⟨other, mem, reached⟩ := ih h
    exact ⟨other, List.mem_cons_of_mem _ mem, reached⟩

/-- Whatever stands in the row, or is passed on by a module met, is met or was seen before. -/
theorem starOrder_closed (p : Program) (unseen : List String) (ms : List Module) :
    (∀ m ∈ ms, m.path ∈ unseen → m.path ∈ (p.starOrder unseen ms).map Module.path) ∧
    ∀ m ∈ p.starOrder unseen ms, ∀ target ∈ p.starTargets m, target.path ∈ unseen →
      target.path ∈ (p.starOrder unseen ms).map Module.path := by
  fun_induction starOrder p unseen ms with
  | case1 => simp
  | case2 unseen m rest isUnseen ih =>
    obtain ⟨row, passedOn⟩ := ih
    -- a path other than that of `m` is unseen after `m` as well
    have split {path : String} (h : path ∈ unseen) :
        path = m.path ∨ path ∈ stillUnseen unseen [m] := by
      by_cases same : path = m.path
      · exact .inl same
      · exact .inr (mem_stillUnseen.2 ⟨h, by simpa using same⟩)
    simp only [List.map_cons, List.mem_cons]
    constructor
    · rintro other (rfl | mem) isUnseen
      · exact .inl rfl
      · exact (split isUnseen).imp_right (row other (List.mem_append_right _ mem))
    · rintro other (rfl | met) target passed isUnseen
      · exact (split isUnseen).imp_right (row target (List.mem_append_left _ passed))
      · exact (split isUnseen).imp_right (passedOn other met target passed)
  | case3 unseen m rest isSeen ih =>
    obtain ⟨row, passedOn⟩ := ih
    refine ⟨?_, passedOn⟩
    rintro other mem isUnseen
    rcases List.mem_cons.1 mem with rfl | after
    · exact absurd isUnseen isSeen
    · exact row other after isUnseen

theorem StarReaches.known (grounded : p.Grounded) (known : p.module? m.path = some m)
    (reached : p.StarReaches m target) : p.module? target.path = some target := by
  induction reached with
  | refl => exact known
  | tail _ passed _ =>
    obtain ⟨specifier, -, led⟩ := mem_starTargets.1 passed
    exact grounded.module?_of_resolveModule led

theorem mem_keys_of_module? (known : p.module? m.path = some m) : m.path ∈ p.modules.keys :=
  Table.mem_keys_of_find? known

/-- The modules met are those of which everything is passed on, directly or not. -/
theorem mem_depthFirst_iff (grounded : p.Grounded) (known : p.module? m.path = some m) :
    target ∈ p.depthFirst m ↔ p.StarReaches m target := by
  constructor
  · intro met
    obtain ⟨start, mem, reached⟩ := starReaches_of_mem_starOrder met
    rwa [← List.mem_singleton.1 mem]
  · intro reached
    obtain ⟨row, passedOn⟩ := starOrder_closed p p.modules.keys [m]
    -- a module met under the path of another is that one, for paths stand for modules
    have byPath : ∀ other, p.module? other.path = some other →
        other.path ∈ (p.depthFirst m).map Module.path → other ∈ p.depthFirst m := by
      intro other knownOther mem
      obtain ⟨same, met, samePath⟩ := List.mem_map.1 mem
      obtain ⟨start, single, reachedSame⟩ := starReaches_of_mem_starOrder met
      rw [List.mem_singleton.1 single] at reachedSame
      have knownSame := reachedSame.known grounded known
      rw [samePath, knownOther] at knownSame
      cases knownSame
      exact met
    induction reached with
    | refl => exact byPath m known (row m (by simp) (mem_keys_of_module? known))
    | @tail between target before passed ih =>
      have knownTarget := StarReaches.known grounded known (before.tail passed)
      exact byPath target knownTarget
        (passedOn between ih target passed (mem_keys_of_module? knownTarget))

/-! ## The search -/

/-- What a module itself exports under a name, when the name stands for an entity of the module. -/
def ownExport? (name : String) (m : Module) : Option Symbol :=
  match (m.exports.find? name).bind m.outermost? with
  | some (.entity e) => some (.entity e)
  | _ => none

/-- A name is only exported by modules themselves, and then stands for an entity there, or passed on
together with everything else. -/
structure PlainName (p : Program) (name : String) : Prop where
  notDefault : name ≠ defaultName
  unpassed : ∀ m, p.module? m.path = some m → m.reexports.find? name = none
  bound : ∀ m localName, p.module? m.path = some m → m.exports.find? name = some localName →
    ∃ e, m.outermost? localName = some (.entity e)

theorem ownExport?_of_unlisted (unlisted : m.exports.find? name = none) :
    ownExport? name m = none := by
  simp [ownExport?, unlisted]

theorem ownExport?_of_listed {localName : String} {e : Entity}
    (listed : m.exports.find? name = some localName)
    (bound : m.outermost? localName = some (.entity e)) :
    ownExport? name m = some (.entity e) := by
  simp [ownExport?, listed, bound]

/-- The modules still to be met are those in which the name was not looked for. -/
def Unmarked (p : Program) (name : String) (visited : Visited) (unseen : List String) : Prop :=
  ∀ m, p.module? m.path = some m → (m.path ∈ unseen ↔ (m.path, name) ∉ visited)

theorem Unmarked.mark (h : p.Unmarked name visited unseen) (m : Module) :
    p.Unmarked name ((m.path, name) :: visited) (stillUnseen unseen [m]) := by
  intro other known
  rw [mem_stillUnseen, h other known]
  simp [not_or, and_comm]

/-- A search has gone through some modules: it answers with what the first of them that exports the
name exports under it, and if none does, exactly these modules are no longer to be met. -/
structure GoesThrough (p : Program) (name : String) (unseen : List String) (met : List Module)
    (result : Option Symbol × Visited) : Prop where
  answer : result.1 = met.findSome? (ownExport? name)
  left : result.1 = none → p.Unmarked name result.2 (stillUnseen unseen met)

/-- When each module of a row is searched in the order of the traversal, so is the row. -/
theorem firstAnswer_goesThrough {ask : Visited → Module → Option Symbol × Visited}
    (asks : ∀ t ∈ ms, ∀ visited unseen, p.Unmarked name visited unseen → unseen.length < hops →
      p.GoesThrough name unseen (p.starOrder unseen [t]) (ask visited t))
    (unmarked : p.Unmarked name visited unseen) (room : unseen.length < hops) :
    p.GoesThrough name unseen (p.starOrder unseen ms) (firstAnswer ask visited ms) := by
  induction ms generalizing visited unseen with
  | nil =>
    rw [starOrder]
    exact ⟨rfl, fun _ => by rwa [stillUnseen_nil]⟩
  | cons t rest ih =>
    have first := asks t (by simp) visited unseen unmarked room
    rw [← List.singleton_append, starOrder_append, List.singleton_append]
    cases found : (ask visited t).1 with
    | some s =>
      have answered : (firstAnswer ask visited (t :: rest)).1 = some s :=
        firstAnswer_cons_of_some found
      refine ⟨?_, fun nothing => ?_⟩
      · rw [answered, List.findSome?_append, ← first.answer, found, Option.some_or]
      · rw [answered] at nothing
        cases nothing
    | none =>
      have room' : (stillUnseen unseen (p.starOrder unseen [t])).length < hops :=
        Nat.lt_of_le_of_lt (length_stillUnseen_le _ _) room
      have later := ih (fun other mem => asks other (List.mem_cons_of_mem _ mem)) (first.left found)
        room'
      rw [firstAnswer_cons_of_none found]
      refine ⟨?_, fun nothing => ?_⟩
      · rw [later.answer, List.findSome?_append, ← first.answer, found, Option.none_or]
      · rw [← stillUnseen_append]
        exact later.left nothing

/-- With more hops than modules still to be met, the search for an export goes through them in the
order of the traversal.  Each module on the way takes one hop and is met only once. -/
theorem resolveExport_goesThrough (grounded : p.Grounded) (plain : p.PlainName name)
    (known : p.module? m.path = some m) (unmarked : p.Unmarked name visited unseen)
    (room : unseen.length < hops) :
    p.GoesThrough name unseen (p.starOrder unseen [m]) (p.resolveExport hops visited m name) := by
  induction hops generalizing visited unseen m with
  | zero => exact absurd room (Nat.not_lt_zero _)
  | succ hops ih =>
    by_cases isUnseen : m.path ∈ unseen
    · have fresh : (m.path, name) ∉ visited := (unmarked m known).1 isUnseen
      have room' : (stillUnseen unseen [m]).length < hops := by
        have := length_stillUnseen_lt isUnseen
        omega
      rw [starOrder_singleton isUnseen]
      cases listed : m.exports.find? name with
      | some localName =>
        obtain ⟨e, bound⟩ := plain.bound m localName known listed
        -- the binding takes a hop of its own
        obtain ⟨hops, rfl⟩ : ∃ n, hops = n + 1 := ⟨hops - 1, by omega⟩
        have own := ownExport?_of_listed listed bound
        rw [resolveExport_listed fresh listed, bound]
        refine ⟨?_, fun nothing => ?_⟩
        · rw [List.findSome?_cons, own]
          rfl
        · cases nothing
      | none =>
        have unpassed := plain.unpassed m known
        rw [resolveExport_star fresh listed unpassed plain.notDefault]
        have asks : ∀ t ∈ p.starTargets m, ∀ visited unseen, p.Unmarked name visited unseen →
            unseen.length < hops → p.GoesThrough name unseen (p.starOrder unseen [t])
              (p.resolveExport hops visited t name) := by
          intro t mem visited unseen unmarked room
          obtain ⟨specifier, -, led⟩ := mem_starTargets.1 mem
          exact ih (grounded.module?_of_resolveModule led) unmarked room
        have through := firstAnswer_goesThrough asks (unmarked.mark m) room'
        refine ⟨?_, fun nothing => ?_⟩
        · rw [List.findSome?_cons, ownExport?_of_unlisted listed]
          exact through.answer
        · have left := through.left nothing
          rwa [stillUnseen_append, List.singleton_append] at left
    · have seen : (m.path, name) ∈ visited := by
        rw [unmarked m known, Decidable.not_not] at isUnseen
        exact isUnseen
      rw [starOrder_singleton_of_notMem isUnseen, resolveExport_of_mem seen]
      exact ⟨rfl, fun _ => by rwa [stillUnseen_nil]⟩

/-- The search with all hops, in a program of fewer modules than hops. -/
theorem exportOf_eq_findSome? (grounded : p.Grounded) (small : p.modules.size < maxHops)
    (plain : p.PlainName name) (known : p.module? m.path = some m) :
    p.exportOf m name = (p.depthFirst m).findSome? (ownExport? name) := by
  have unmarked : p.Unmarked name [] p.modules.keys := by
    intro other knownOther
    simp [mem_keys_of_module? knownOther]
  have room : p.modules.keys.length < maxHops := by
    rw [Table.keys, List.length_map]
    exact small
  exact (resolveExport_goesThrough grounded plain known unmarked room).answer

theorem ownExport?_eq_some_iff {s : Symbol} :
    ownExport? name m = some s ↔
      ∃ localName e, m.exports.find? name = some localName ∧
        m.outermost? localName = some (.entity e) ∧ s = .entity e := by
  constructor
  · intro own
    unfold ownExport? at own
    split at own
    · rename_i e held
      obtain ⟨localName, listed, bound⟩ := Option.bind_eq_some_iff.1 held
      exact ⟨localName, e, listed, bound, (Option.some.inj own).symm⟩
    · cases own
  · rintro ⟨localName, e, listed, bound, rfl⟩
    exact ownExport?_of_listed listed bound

theorem isSome_ownExport? (plain : p.PlainName name) (known : p.module? m.path = some m) :
    (ownExport? name m).isSome = m.exports.contains name := by
  rw [Table.contains]
  cases listed : m.exports.find? name with
  | none => simp [ownExport?_of_unlisted listed]
  | some localName =>
    obtain ⟨e, bound⟩ := plain.bound m localName known listed
    simp [ownExport?_of_listed listed bound]

/-- The first own export of a name is that of the first module that exports it. -/
theorem findSome?_ownExport?_eq_some_iff (plain : p.PlainName name)
    (known : ∀ m ∈ ms, p.module? m.path = some m) {s : Symbol} :
    ms.findSome? (ownExport? name) = some s ↔
      ∃ first, ms.find? (·.exports.contains name) = some first ∧ ownExport? name first = some s := by
  induction ms with
  | nil => simp
  | cons m rest ih =>
    have provides := isSome_ownExport? plain (known m (by simp))
    have later := ih fun m mem => known m (List.mem_cons_of_mem _ mem)
    cases own : ownExport? name m with
    | some found =>
      rw [own] at provides
      simp [own, ← provides]
    | none =>
      rw [own] at provides
      simp [own, ← provides, later]

end Program

/-! ## Exports of a program -/

/-- In a program of at most 32 modules, a name that no module passes on by itself, and that stands for
an entity wherever it is exported, is found from a module exactly if some module of which everything
is passed on exports it.  The answer is the entity of the first such module in depth-first order. -/
theorem exportOf_finds_first_provider (sources : List Source)
    (small : (Program.ofSources sources).modules.size ≤ 32) {path : String} {m : Module}
    (known : (Program.ofSources sources).module? path = some m) {name : String}
    (notDefault : name ≠ defaultName)
    (unpassed : ∀ path m, (Program.ofSources sources).module? path = some m →
      m.reexports.find? name = none)
    (bound : ∀ path m localName, (Program.ofSources sources).module? path = some m →
      m.exports.find? name = some localName → ∃ e, m.outermost? localName = some (.entity e)) :
    (((Program.ofSources sources).exportOf m name).isSome ↔
      ∃ target, (Program.ofSources sources).StarReaches m target ∧ target.exports.contains name) ∧
    ∀ s, (Program.ofSources sources).exportOf m name = some s ↔
      ∃ first localName e,
        ((Program.ofSources sources).depthFirst m).find? (·.exports.contains name) = some first ∧
        first.exports.find? name = some localName ∧ first.outermost? localName = some (.entity e) ∧
        s = .entity e := by
  have grounded := Program.ofSources_grounded sources
  have known' := grounded.module?_path known
  have plain : (Program.ofSources sources).PlainName name :=
    ⟨notDefault, fun m => unpassed m.path m, fun m localName => bound m.path m localName⟩
  have knownMet : ∀ t ∈ (Program.ofSources sources).depthFirst m,
      (Program.ofSources sources).module? t.path = some t := by
    intro t met
    exact ((Program.mem_depthFirst_iff grounded known').1 met).known grounded known'
  rw [Program.exportOf_eq_findSome? grounded (Nat.lt_succ_of_le small) plain known']
  constructor
  · rw [List.findSome?_isSome_iff]
    refine exists_congr fun target => ?_
    rw [← Program.mem_depthFirst_iff grounded known']
    refine and_congr_right fun met => ?_
    rw [Program.isSome_ownExport? plain (knownMet target met)]
  · intro s
    rw [Program.findSome?_ownExport?_eq_some_iff plain knownMet]
    simp only [Program.ownExport?_eq_some_iff, exists_and_left]

/-- Two ways lead from `a.ts` to `d.ts`, which exports `f`, and one of them leads back to `a.ts` first;
`e.ts` exports another `f`. -/
def cyclicFiles : List Source :=
  [starFile "a.ts" ['b', 'c'], starFile "b.ts" ['a', 'd'], starFile "c.ts" ['e', 'd'],
   { exportingFile with path := "d.ts" }, { exportingFile with path := "e.ts" }]

/-- From `a.ts` the name leads to `d.ts`, which comes before `e.ts`. -/
theorem exportOf_finds_first_provider_cyclic :
    (Program.ofSources cyclicFiles).exportOf (Module.index (starFile "a.ts" ['b', 'c'])) "f"
      = some (.entity (.function "\"d.ts\".f")) ∧
    ∃ first localName e,
      ((Program.ofSources cyclicFiles).depthFirst (Module.index (starFile "a.ts" ['b', 'c']))).find?
        (·.exports.contains "f") = some first ∧
      first.exports.find? "f" = some localName ∧ first.outermost? localName = some (.entity e) ∧
      Symbol.entity (.function "\"d.ts\".f") = .entity e := by
  have found : (Program.ofSources cyclicFiles).exportOf (Module.index (starFile "a.ts" ['b', 'c'])) "f"
      = some (.entity (.function "\"d.ts\".f")) := by decide +kernel
  have unpassed : ∀ path m, (Program.ofSources cyclicFiles).module? path = some m →
      m.reexports.find? "f" = none := by
    intro path m known
    obtain ⟨f, listed, -, rfl⟩ := Program.exists_source_of_module? known
    exact (by decide +kernel : ∀ f ∈ cyclicFiles, (Module.index f).reexports.find? "f" = none) f listed
  have bound : ∀ path m localName, (Program.ofSources cyclicFiles).module? path = some m →
      m.exports.find? "f" = some localName → ∃ e, m.outermost? localName = some (.entity e) := by
    intro path m localName known exported
    obtain ⟨f, listed, -, rfl⟩ := Program.exists_source_of_module? known
    have own : ∀ f ∈ cyclicFiles, (Module.index f).exports.contains "f" = true →
        (Program.ownExport? "f" (Module.index f)).isSome := by decide +kernel
    obtain ⟨s, found⟩ := Option.isSome_iff_exists.1
      (own f listed (by rw [Table.contains, exported, Option.isSome_some]))
    obtain ⟨localName', e, exported', bound, -⟩ := Program.ownExport?_eq_some_iff.1 found
    rw [exported] at exported'
    cases exported'
    exact ⟨e, bound⟩
  have known : (Program.ofSources cyclicFiles).module? "a.ts" =
      some (Module.index (starFile "a.ts" ['b', 'c'])) := rfl
  exact ⟨found, ((exportOf_finds_first_provider cyclicFiles (by decide +kernel) known (by decide)
    unpassed bound).2 _).1 found⟩

end RepoAudit
