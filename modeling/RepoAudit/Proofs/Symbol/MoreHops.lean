import RepoAudit.Proofs.Symbol.ExportStep
import RepoAudit.Proofs.Symbol.Locality

/-! # What more hops change

Every search ends when its hops are used up.  One would expect that more hops can only turn a search
without an answer into one with an answer.  Modules passed on as a whole spoil this: when the hops
run out behind the first of them, the next one is asked as if the first had nothing to offer.

* `Program.Offers` – what a search for an export may find at all;
* `Program.Unrivalled` – no module passes a name on out of two modules;
* `keptAt` – then all seven searches keep their answers when they get more hops;
* `resolveValue_keeps_answer` – so does the search for what an expression denotes.
-/

namespace RepoAudit

open Syntax

namespace Program

variable {p : Program} {m target : Module} {name : String} {hops fewer more : Nat} {s : Symbol}
  {visited visited' : Visited}

/-! ## What is on offer -/

/-- A module offers a name: it exports the name itself, passes a module on under it, or passes it on
from a module that offers it, under the name or together with everything else. -/
inductive Offers (p : Program) : Module → String → Prop
  | listed {m : Module} {name localName : String} : m.exports.find? name = some localName →
      Offers p m name
  | space {m target : Module} {name specifier : String} : m.exports.find? name = none →
      m.reexports.find? name = some (specifier, wholeModule) →
      p.resolveModule m.path specifier = some target → Offers p m name
  | passed {m target : Module} {name specifier source : String} : m.exports.find? name = none →
      m.reexports.find? name = some (specifier, source) →
      p.resolveModule m.path specifier = some target → Offers p target source → Offers p m name
  | star {m target : Module} {name : String} : m.exports.find? name = none →
      m.reexports.find? name = none → name ≠ defaultName → target ∈ p.starTargets m →
      Offers p target name → Offers p m name

/-- No module passes a name on out of two modules: among the modules of which it passes on
everything, at most one offers a name that the module does not speak of itself. -/
def Unrivalled (p : Program) : Prop :=
  ∀ m name, p.module? m.path = some m → m.exports.find? name = none →
    m.reexports.find? name = none → name ≠ defaultName →
    ∀ a ∈ p.starTargets m, ∀ b ∈ p.starTargets m, p.Offers a name → p.Offers b name → a = b

/-- Whatever a search finds was on offer. -/
theorem offers_of_resolveExport (h : (p.resolveExport hops visited m name).1 = some s) :
    p.Offers m name := by
  induction hops generalizing visited m name with
  | zero => cases h
  | succ hops ih =>
    cases exportOrigin_of_resolveExport h with
    | binding listed => exact .listed listed
    | space unlisted passed led => exact .space unlisted passed led
    | passed unlisted passed led answered => exact .passed unlisted passed led (ih answered)
    | star unlisted unpassed notDefault mem led answered =>
      exact .star unlisted unpassed notDefault (mem_starTargets.2 ⟨_, mem, led⟩) (ih answered)

theorem resolveExport_eq_none_of_not_offers (silent : ¬ p.Offers m name) :
    (p.resolveExport hops visited m name).1 = none := by
  cases answer : (p.resolveExport hops visited m name).1 with
  | none => rfl
  | some s => exact absurd (offers_of_resolveExport answer) silent

/-! ## Places without an offer -/

/-- The places added to those seen before are places that offer nothing. -/
def AddsNoOffer (p : Program) (visited visited' : Visited) : Prop :=
  ∀ m name, p.module? m.path = some m → p.Offers m name → (m.path, name) ∈ visited' →
    (m.path, name) ∈ visited

theorem AddsNoOffer.cons (h : p.AddsNoOffer visited visited') (place : String × String) :
    p.AddsNoOffer (place :: visited) (place :: visited') := by
  intro m name known offers mem
  rcases List.mem_cons.1 mem with here | before
  · exact List.mem_cons.2 (.inl here)
  · exact List.mem_cons_of_mem _ (h m name known offers before)

theorem AddsNoOffer.grow (h : p.AddsNoOffer visited visited') {larger : Visited}
    (kept : visited ⊆ larger) : p.AddsNoOffer larger visited' :=
  fun m name known offers mem => kept (h m name known offers mem)

theorem AddsNoOffer.trans {between : Visited} (first : p.AddsNoOffer visited between)
    (second : p.AddsNoOffer between visited') : p.AddsNoOffer visited visited' :=
  fun m name known offers mem => first m name known offers (second m name known offers mem)

theorem addsNoOffer_refl : p.AddsNoOffer visited visited :=
  fun _ _ _ _ mem => mem

theorem addsNoOffer_mark (known : p.module? m.path = some m) (silent : ¬ p.Offers m name) :
    p.AddsNoOffer visited ((m.path, name) :: visited) := by
  intro other name' knownOther offers mem
  rcases List.mem_cons.1 mem with here | before
  · obtain ⟨samePath, rfl⟩ := Prod.mk.inj here
    rw [samePath, known] at knownOther
    cases knownOther
    exact absurd offers silent
  · exact before

/-- A search for what is not on offer only comes to places that offer nothing. -/
theorem addsNoOffer_resolveExport (grounded : p.Grounded) (known : p.module? m.path = some m)
    (silent : ¬ p.Offers m name) :
    p.AddsNoOffer visited (p.resolveExport hops visited m name).2 := by
  induction hops generalizing visited m name with
  | zero => exact addsNoOffer_refl
  | succ hops ih =>
    by_cases seen : (m.path, name) ∈ visited
    · rw [resolveExport_of_mem seen]
      exact addsNoOffer_refl
    · have mark : p.AddsNoOffer visited ((m.path, name) :: visited) := addsNoOffer_mark known silent
      cases p.exportCase m name with
      | listed listed => exact absurd (.listed listed) silent
      | astray unlisted passed lost => rwa [resolveExport_astray seen unlisted passed lost]
      | space unlisted passed led => exact absurd (.space unlisted passed led) silent
      | passed unlisted passed single led =>
        rw [resolveExport_passed seen unlisted passed single led]
        refine mark.trans (ih (grounded.module?_of_resolveModule led) ?_)
        exact fun offers => silent (.passed unlisted passed led offers)
      | unnamed unlisted unpassed isDefault =>
        rwa [resolveExport_unnamed seen unlisted unpassed isDefault]
      | star unlisted unpassed notDefault =>
        rw [resolveExport_star seen unlisted unpassed notDefault]
        refine mark.trans (firstAnswer_visited (fun _ => addsNoOffer_refl) AddsNoOffer.trans
          (fun target listed visited => ?_) _)
        obtain ⟨specifier, -, led⟩ := mem_starTargets.1 listed
        refine ih (grounded.module?_of_resolveModule led) ?_
        exact fun offers => silent (.star unlisted unpassed notDefault listed offers)

/-! ## The seven searches -/

/-- Every answer with `fewer` hops is the answer with `more` hops.  A search for an export may start
with other places seen, as long as these offer nothing. -/
structure KeptAt (p : Program) (fewer more : Nat) : Prop where
  value : ∀ m c s, p.module? m.path = some m → resolveValue p fewer m c = some s →
    resolveValue p more m c = some s
  binding : ∀ m b s, p.module? m.path = some m → resolveBinding p fewer m b = some s →
    resolveBinding p more m b = some s
  instance_ : ∀ m c cls, p.module? m.path = some m → resolveInstance p fewer m c = some cls →
    resolveInstance p more m c = some cls
  type : ∀ m c cls, p.module? m.path = some m → resolveType p fewer m c = some cls →
    resolveType p more m c = some cls
  superclass : ∀ cls parent, Program.superclass p fewer cls = some parent →
    Program.superclass p more cls = some parent
  member : ∀ container name s, Program.member p fewer container name = some s →
    Program.member p more container name = some s
  export_ : ∀ visited visited' m name s, p.module? m.path = some m →
    p.AddsNoOffer visited visited' → (resolveExport p fewer visited m name).1 = some s →
    (resolveExport p more visited' m name).1 = some s

theorem keptAt_zero (more : Nat) : KeptAt p 0 more where
  value _ _ _ _ h := by cases h
  binding _ _ _ _ h := by cases h
  instance_ _ _ _ _ h := by cases h
  type _ _ _ _ h := by cases h
  superclass _ _ h := by cases h
  member _ _ _ h := by cases h
  export_ _ _ _ _ _ _ _ h := by cases h

variable {cls : ClassSymbol}

theorem map_symbol_kept {found found' : Option ClassSymbol}
    (kept : ∀ cls, found = some cls → found' = some cls)
    (h : found.map ClassSymbol.symbol = some s) : found'.map ClassSymbol.symbol = some s := by
  obtain ⟨cls, made, rfl⟩ := Option.map_eq_some_iff.1 h
  rw [kept cls made, Option.map_some]

theorem bind_class?_kept {found found' : Option Symbol}
    (kept : ∀ s, found = some s → found' = some s)
    (h : found.bind Symbol.class? = some cls) : found'.bind Symbol.class? = some cls := by
  obtain ⟨s, held, isClass⟩ := Option.bind_eq_some_iff.1 h
  rw [kept s held, Option.bind_some, isClass]

theorem resolveValue_kept (ih : KeptAt p fewer more) (known : p.module? m.path = some m)
    {c : Cursor} : resolveValue p (fewer + 1) m c = some s → resolveValue p (more + 1) m c = some s := by
  rw [resolveValue, resolveValue]
  split
  -- in parentheses
  · split
    · exact ih.value m _ s known
    · exact id
  -- a name, as an expression or as a member of an object literal
  · split
    · exact ih.binding m _ s known
    · exact id
  · split
    · exact ih.binding m _ s known
    · exact id
  -- an instance
  · exact map_symbol_kept fun cls => ih.instance_ m c cls known
  -- `this`
  · exact id
  -- `super`
  · split
    · exact map_symbol_kept fun parent => ih.superclass _ parent
    · exact id
  -- a member
  · split
    · split
      · intro h
        split at h
        · rename_i container held
          rw [ih.value m _ container known held]
          exact ih.member container _ s h
        · cases h
      · exact id
    · exact id
  · exact id

theorem resolveBinding_kept (grounded : p.Grounded) (ih : KeptAt p fewer more)
    (known : p.module? m.path = some m) {b : Binding} :
    resolveBinding p (fewer + 1) m b = some s → resolveBinding p (more + 1) m b = some s := by
  match b with
  | .entity e => exact id
  | .imported specifier name =>
    rw [resolveBinding, resolveBinding]
    split
    · exact id
    · rename_i target led
      split
      · exact id
      · exact ih.export_ [] [] target name s (grounded.module?_of_resolveModule led) addsNoOffer_refl
  | .variable (some type) _ =>
    rw [resolveBinding, resolveBinding]
    exact map_symbol_kept fun cls => ih.type m type cls known
  | .variable none (some value) =>
    rw [resolveBinding, resolveBinding]
    split
    · exact map_symbol_kept fun cls => ih.instance_ m value cls known
    · split
      · exact ih.value m value s known
      · exact id
  | .variable none none => exact id

theorem resolveInstance_kept (ih : KeptAt p fewer more) (known : p.module? m.path = some m)
    {c : Cursor} :
    resolveInstance p (fewer + 1) m c = some cls → resolveInstance p (more + 1) m c = some cls := by
  rw [resolveInstance, resolveInstance]
  split
  · exact id
  · exact bind_class?_kept fun s => ih.value m _ s known

theorem resolveType_kept (ih : KeptAt p fewer more) (known : p.module? m.path = some m)
    {c : Cursor} :
    resolveType p (fewer + 1) m c = some cls → resolveType p (more + 1) m c = some cls := by
  rw [resolveType, resolveType]
  split
  · exact id
  · split
    · split
      · exact bind_class?_kept fun s => ih.binding m _ s known
      · exact id
    · split
      · split
        · intro h
          split at h
          · rename_i container held
            rw [ih.value m _ container known held]
            exact bind_class?_kept (fun s => ih.member container _ s) h
          · cases h
        · exact id
      · exact id

theorem superclass_kept (grounded : p.Grounded) (ih : KeptAt p fewer more) {parent : ClassSymbol} :
    superclass p (fewer + 1) cls = some parent → superclass p (more + 1) cls = some parent := by
  rw [superclass, superclass]
  split
  · rename_i heritage m _ found
    intro h
    split at h
    · rename_i extended above
      rw [bind_class?_kept (fun s => ih.value m heritage s (grounded.module?_path found)) above]
      exact h
    · cases h
  · exact id

theorem member_kept (grounded : p.Grounded) (ih : KeptAt p fewer more) {container : Symbol} :
    member p (fewer + 1) container name = some s → member p (more + 1) container name = some s := by
  match container with
  | .space path =>
    rw [member, member]
    split
    · rename_i m found
      exact ih.export_ [] [] m name s (grounded.module?_path found) addsNoOffer_refl
    · exact id
  | .entity (.object object) =>
    rw [member, member]
    split
    · rename_i m target found _
      split
      · exact id
      · split
        · exact id
        · exact ih.value m target s (grounded.module?_path found)
    · exact id
  | .entity (.cls cls) =>
    rw [member, member]
    split
    · exact id
    · split
      · rename_i typed _
        split
        · rename_i m found
          have known := grounded.module?_path found
          split
          · exact map_symbol_kept fun made => ih.instance_ m typed made known
          · exact map_symbol_kept fun made => ih.type m typed made known
        · exact id
      · intro h
        split at h
        · rename_i parent above
          rw [ih.superclass cls parent above]
          exact ih.member parent.symbol name s h
        · cases h
  | .entity (.function _) => exact id

/-! ## Exports -/

/-- Where only one of the modules asked in turn has something to offer, more hops keep the answer.
Those before it find nothing with any number of hops, and what they visit offers nothing. -/
theorem firstAnswer_kept (grounded : p.Grounded) (ih : KeptAt p fewer more) {ms : List Module}
    (known : ∀ t ∈ ms, p.module? t.path = some t)
    (single : ∀ a ∈ ms, ∀ b ∈ ms, p.Offers a name → p.Offers b name → a = b)
    (seen : p.AddsNoOffer visited visited')
    (h : (firstAnswer (fun visited t => p.resolveExport fewer visited t name) visited ms).1 = some s) :
    (firstAnswer (fun visited t => p.resolveExport more visited t name) visited' ms).1 = some s := by
  induction ms generalizing visited visited' with
  | nil => cases h
  | cons t rest next =>
    have knownRest : ∀ t ∈ rest, p.module? t.path = some t :=
      fun t mem => known t (List.mem_cons_of_mem _ mem)
    have singleRest : ∀ a ∈ rest, ∀ b ∈ rest, p.Offers a name → p.Offers b name → a = b :=
      fun a ha b hb => single a (List.mem_cons_of_mem _ ha) b (List.mem_cons_of_mem _ hb)
    by_cases offers : p.Offers t name
    · cases answer : (p.resolveExport fewer visited t name).1 with
      | some found =>
        rw [firstAnswer_cons_of_some answer] at h
        apply firstAnswer_cons_of_some
        exact ih.export_ visited visited' t name s (known t (by simp)) seen (answer.trans h)
      | none =>
        -- only `t` itself can answer later on, and it has been asked already
        rw [firstAnswer_cons_of_none answer] at h
        obtain ⟨other, mem, later, kept, answered⟩ :=
          exists_later_of_firstAnswer (fun _ _ => subset_visited_resolveExport _ _ _ _) h
        obtain rfl := single t (by simp) other (List.mem_cons_of_mem _ mem) offers
          (offers_of_resolveExport answered)
        cases fewer with
        | zero => cases answered
        | succ fewer =>
          rw [resolveExport_of_mem (kept (mem_visited_resolveExport _ _ _ _))] at answered
          cases answered
    -- `t` has no answer with either number of hops, and adds no place that matters later
    · rw [firstAnswer_cons_of_none (resolveExport_eq_none_of_not_offers offers)] at h ⊢
      refine next knownRest singleRest ?_ h
      have added : p.AddsNoOffer visited' (p.resolveExport more visited' t name).2 :=
        addsNoOffer_resolveExport grounded (known t (by simp)) offers
      exact (seen.trans added).grow (subset_visited_resolveExport _ _ _ _)

theorem resolveExport_kept (grounded : p.Grounded) (unrivalled : p.Unrivalled)
    (ih : KeptAt p fewer more) (known : p.module? m.path = some m)
    (seen : p.AddsNoOffer visited visited')
    (h : (resolveExport p (fewer + 1) visited m name).1 = some s) :
    (resolveExport p (more + 1) visited' m name).1 = some s := by
  have unseen : (m.path, name) ∉ visited := by
    intro mem
    rw [resolveExport_of_mem mem] at h
    cases h
  have unseen' : (m.path, name) ∉ visited' :=
    fun mem => unseen (seen m name known (offers_of_resolveExport h) mem)
  cases p.exportCase m name with
  | @listed localName listed =>
    rw [resolveExport_listed unseen listed] at h
    rw [resolveExport_listed unseen' listed]
    obtain ⟨b, bound, denoted⟩ := Option.bind_eq_some_iff.1 h
    exact Option.bind_eq_some_iff.2 ⟨b, bound, ih.binding m b s known denoted⟩
  | astray unlisted passed lost =>
    rw [resolveExport_astray unseen unlisted passed lost] at h
    cases h
  | space unlisted passed led =>
    rw [resolveExport_space unseen unlisted passed led] at h
    rw [resolveExport_space unseen' unlisted passed led]
    exact h
  | passed unlisted passed single led =>
    rw [resolveExport_passed unseen unlisted passed single led] at h
    rw [resolveExport_passed unseen' unlisted passed single led]
    exact ih.export_ _ _ _ _ s (grounded.module?_of_resolveModule led) (seen.cons _) h
  | unnamed unlisted unpassed isDefault =>
    rw [resolveExport_unnamed unseen unlisted unpassed isDefault] at h
    cases h
  | star unlisted unpassed notDefault =>
    rw [resolveExport_star unseen unlisted unpassed notDefault] at h
    rw [resolveExport_star unseen' unlisted unpassed notDefault]
    refine firstAnswer_kept grounded ih ?_ ?_ (seen.cons _) h
    · intro target listed
      obtain ⟨specifier, -, led⟩ := mem_starTargets.1 listed
      exact grounded.module?_of_resolveModule led
    · exact unrivalled m name known unlisted unpassed notDefault

theorem keptAt_succ (grounded : p.Grounded) (unrivalled : p.Unrivalled) (ih : KeptAt p fewer more) :
    KeptAt p (fewer + 1) (more + 1) where
  value _ _ _ known h := resolveValue_kept ih known h
  binding _ _ _ known h := resolveBinding_kept grounded ih known h
  instance_ _ _ _ known h := resolveInstance_kept ih known h
  type _ _ _ known h := resolveType_kept ih known h
  superclass _ _ h := superclass_kept grounded ih h
  member _ _ _ h := member_kept grounded ih h
  export_ _ _ _ _ _ known seen h := resolveExport_kept grounded unrivalled ih known seen h

/-- Where no module passes a name on out of two modules, more hops keep every answer. -/
theorem keptAt (grounded : p.Grounded) (unrivalled : p.Unrivalled) (le : fewer ≤ more) :
    KeptAt p fewer more := by
  induction fewer generalizing more with
  | zero => exact keptAt_zero more
  | succ fewer ih =>
    obtain ⟨more, rfl⟩ : ∃ n, more = n + 1 := ⟨more - 1, by omega⟩
    exact keptAt_succ grounded unrivalled (ih (by omega))

/-- A program is unrivalled if every module passes on everything of one module at most. -/
theorem unrivalled_of_single {sources : List Source}
    (single : ∀ f ∈ sources, ((ofSources sources).starTargets (Module.index f)).length ≤ 1) :
    (ofSources sources).Unrivalled := by
  intro m name known _ _ _ a ha b hb _ _
  obtain ⟨f, listed, -, rfl⟩ := exists_source_of_module? known
  have short := single f listed
  match targets : (ofSources sources).starTargets (Module.index f) with
  | [] =>
    rw [targets] at ha
    cases ha
  | [only] =>
    rw [targets, List.mem_singleton] at ha hb
    rw [ha, hb]
  | _ :: _ :: _ => simp [targets] at short

end Program

/-! ## Expressions -/

/-- In a program where no module passes a name on out of two modules, an expression that denotes
something with some hops denotes the same with more of them.  A search that is `depth` steps deep has
`maxHops - depth` hops left. -/
theorem resolveValue_keeps_answer (sources : List Source)
    (unrivalled : (Program.ofSources sources).Unrivalled) {path : String} {m : Module}
    (known : (Program.ofSources sources).module? path = some m) (c : Cursor) {fewer more : Nat}
    (le : fewer ≤ more) {s : Symbol}
    (found : (Program.ofSources sources).resolveValue fewer m c = some s) :
    (Program.ofSources sources).resolveValue more m c = some s := by
  have grounded := Program.ofSources_grounded sources
  exact (Program.keptAt grounded unrivalled le).value m c s (grounded.module?_path known) found

/-- A file that calls `f`, which it imports from `b.ts`; `b.ts` passes on everything of `c.ts`, and
`c.ts` everything of `d.ts`, which exports `f`. -/
def chainedFiles : List Source :=
  [importingFile, starFile "b.ts" ['c'], starFile "c.ts" ['d'], { exportingFile with path := "d.ts" }]

/-- As `chainedFiles`, but `b.ts` also passes on everything of `e.ts`, which exports another `f`. -/
def rivalFiles : List Source :=
  [importingFile, starFile "b.ts" ['c', 'e'], starFile "c.ts" ['d'],
   { exportingFile with path := "d.ts" }, { exportingFile with path := "e.ts" }]

def importedCallee : Cursor :=
  ((callSites importingFile).head?.bind (·.child? "function")).getD importingFile.root

/-- The call in the chained files needs six hops, and has the same answer with all of them. -/
theorem resolveValue_keeps_answer_chained :
    (Program.ofSources chainedFiles).resolveValue 5 (Module.index importingFile) importedCallee = none ∧
    (Program.ofSources chainedFiles).resolveValue 6 (Module.index importingFile) importedCallee
      = some (.entity (.function "\"d.ts\".f")) ∧
    (Program.ofSources chainedFiles).resolveValue Program.maxHops (Module.index importingFile)
      importedCallee = some (.entity (.function "\"d.ts\".f")) := by
  have unrivalled : (Program.ofSources chainedFiles).Unrivalled :=
    Program.unrivalled_of_single (by decide +kernel)
  have known : (Program.ofSources chainedFiles).module? "a.ts" = some (Module.index importingFile) :=
    rfl
  have found : (Program.ofSources chainedFiles).resolveValue 6 (Module.index importingFile)
      importedCallee = some (.entity (.function "\"d.ts\".f")) := by decide +kernel
  exact ⟨by decide +kernel, found,
    resolveValue_keeps_answer _ unrivalled known _ (by decide) found⟩

/-- With a rival the answer changes: 28 steps deep the call reaches the nearer function, and one step
less deep the other one. -/
theorem rival_changes_answer :
    (Program.ofSources rivalFiles).resolveValue (Program.maxHops - 28) (Module.index importingFile)
        importedCallee = some (.entity (.function "\"e.ts\".f")) ∧
      (Program.ofSources rivalFiles).resolveValue (Program.maxHops - 27) (Module.index importingFile)
        importedCallee = some (.entity (.function "\"d.ts\".f")) := by
  decide +kernel

end RepoAudit
