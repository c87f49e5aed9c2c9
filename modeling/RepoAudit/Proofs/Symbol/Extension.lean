import RepoAudit.Proofs.Symbol.ExportStep
import RepoAudit.Proofs.Symbol.Language
import RepoAudit.Proofs.Symbol.Locality

/-! # Programs that know more

One program may have every module of another and lead the specifiers in them to the same modules.
Whatever else it has, no search that starts in a module of the smaller program comes there.

* `Module.Alike` – modules that differ in the language of their file only;
* `Program.Extends` – the larger program has the modules of the smaller one and leads them alike;
* `sameAt` – all seven searches answer the same, by induction on the hops left;
* `calleeOf_of_extends` – so calls reach the same functions.
-/

namespace RepoAudit

open Syntax

/-! ## Modules in different languages -/

namespace Module

/-- Two modules that differ at most in the language of their file. -/
def Alike (m m' : Module) : Prop :=
  ∃ language, m' = m.inLanguage language

theorem Alike.refl (m : Module) : m.Alike m :=
  ⟨m.source.language, rfl⟩

variable (m : Module) (language : String)

@[simp] theorem inLanguage_path : (m.inLanguage language).path = m.path := rfl

@[simp] theorem inLanguage_outermost? : (m.inLanguage language).outermost? = m.outermost? := rfl

@[simp] theorem inLanguage_lookup? : (m.inLanguage language).lookup? = m.lookup? := rfl

theorem inLanguage_ownerAlong (way : List Cursor) :
    (m.inLanguage language).ownerAlong way = m.ownerAlong way := by
  induction way with
  | nil => rfl
  | cons c above ih =>
    unfold ownerAlong
    rw [ih]
    rfl

@[simp] theorem inLanguage_owner? (c : Cursor) : (m.inLanguage language).owner? c = m.owner? c :=
  inLanguage_ownerAlong m language c.ancestors

end Module

def Binding.specifier? : Binding → Option String
  | .imported specifier _ => some specifier
  | _ => none

def Module.specifiers (m : Module) : List String :=
  (m.scopes.values.flatMap fun names => names.values.filterMap Binding.specifier?) ++
    m.reexports.values.map (·.1) ++ m.starExports

theorem Module.Mentions.mem_specifiers {m : Module} {specifier : String} (h : m.Mentions specifier) :
    specifier ∈ m.specifiers := by
  simp only [specifiers, List.mem_append, List.mem_flatMap, List.mem_filterMap, List.mem_map]
  rcases h with ⟨scope, name, imported, bound⟩ | ⟨name, imported, passed⟩ | listed
  · obtain ⟨names, found, held⟩ := Option.bind_eq_some_iff.1 bound
    exact .inl (.inl ⟨names, Table.mem_values_of_find? found, _, Table.mem_values_of_find? held, rfl⟩)
  · exact .inl (.inr ⟨_, Table.mem_values_of_find? passed, rfl⟩)
  · exact .inr listed

/-- Two answers to where a specifier leads: nowhere, or to modules that are alike. -/
def SameTarget (a b : Option Module) : Prop :=
  (a = none ∧ b = none) ∨ ∃ t t', a = some t ∧ b = some t' ∧ t.Alike t'

theorem SameTarget.refl (a : Option Module) : SameTarget a a := by
  cases a with
  | none => exact .inl ⟨rfl, rfl⟩
  | some t => exact .inr ⟨t, t, rfl, rfl, .refl t⟩

theorem SameTarget.of_none {a b : Option Module} (h : SameTarget a b) (lost : a = none) : b = none := by
  rcases h with ⟨-, lost'⟩ | ⟨t, _, led, -⟩
  · exact lost'
  · rw [lost] at led
    cases led

theorem SameTarget.of_some {a b : Option Module} {t : Module} (h : SameTarget a b)
    (led : a = some t) : ∃ t', b = some t' ∧ t.Alike t' := by
  rcases h with ⟨lost, -⟩ | ⟨t₁, t', led₁, led', alike⟩
  · rw [led] at lost
    cases lost
  · rw [led] at led₁
    cases led₁
    exact ⟨t', led', alike⟩

/-- The module that a symbol is to be looked up in belongs to the program. -/
def Symbol.AtHome (p : Program) : Symbol → Prop
  | .entity (.function _) => True
  | .entity (.cls c) => ∃ m, p.module? c.module = some m
  | .entity (.object o) => ∃ m, p.module? o.module = some m
  | .space path => ∃ m, p.module? path = some m

namespace Program

variable {p p' : Program} {m m' target : Module} {name : String} {hops : Nat} {s : Symbol}
  {visited : Visited}

/-- A program has the modules of another one, and leads the specifiers in them to the same
modules. -/
structure Extends (p p' : Program) : Prop where
  modules : ∀ path m, p.module? path = some m → ∃ m', p'.module? path = some m' ∧ m.Alike m'
  imports : ∀ path m specifier, p.module? path = some m → m.Mentions specifier →
    SameTarget (p.resolveModule m.path specifier) (p'.resolveModule m.path specifier)

theorem atHome_of_traced {origin : Module} (traced : s.Traced p origin) : s.AtHome p := by
  match s with
  | .entity (.function _) => trivial
  | .entity (.cls c) =>
    obtain ⟨m, near, own, -⟩ := traced
    exact ⟨m, own ▸ near.known⟩
  | .entity (.object o) =>
    obtain ⟨m, near, own, -⟩ := traced
    exact ⟨m, own ▸ near.known⟩
  | .space path =>
    obtain ⟨m, near, own⟩ := traced
    exact ⟨m, own ▸ near.known⟩

theorem atHome_of_resolveValue (grounded : p.Grounded) (known : p.module? m.path = some m)
    {c : Cursor} (h : resolveValue p hops m c = some s) : s.AtHome p :=
  atHome_of_traced ((tracedAt grounded m hops).value m c s (near_self grounded known) h)

theorem atHome_of_owner? (grounded : p.Grounded) (known : p.module? m.path = some m) {c : Cursor}
    {cls : ClassSymbol} (h : m.owner? c = some (.cls cls)) : cls.symbol.AtHome p :=
  atHome_of_traced (entity_traced (near_self grounded known)
    ((grounded.module m.path m known).owner? h))

theorem eq_symbol_of_class? {cls : ClassSymbol} (h : s.class? = some cls) : s = cls.symbol := by
  unfold Symbol.class? at h
  split at h
  · cases h
    rfl
  · cases h

theorem atHome_of_superclass (grounded : p.Grounded) {cls parent : ClassSymbol}
    (h : superclass p hops cls = some parent) : parent.symbol.AtHome p := by
  cases hops with
  | zero => cases h
  | succ hops =>
    rw [superclass] at h
    split at h
    · rename_i heritage m _ found
      split at h
      · rename_i extended above
        obtain ⟨s, held, isClass⟩ := Option.bind_eq_some_iff.1 above
        obtain rfl := eq_symbol_of_class? isClass
        split at h
        · cases h
        · cases h
          exact atHome_of_resolveValue grounded (grounded.module?_path found) held
      · cases h
    · cases h

/-! ## The seven searches -/

/-- With `hops` hops left, every search that starts in the smaller program has the same answer in
the larger one. -/
structure SameAt (p p' : Program) (hops : Nat) : Prop where
  value : ∀ m m' c, p.module? m.path = some m → m.Alike m' →
    resolveValue p' hops m' c = resolveValue p hops m c
  binding : ∀ m m' scope name b, p.module? m.path = some m → m.Alike m' →
    m.boundAt? scope name = some b → resolveBinding p' hops m' b = resolveBinding p hops m b
  instance_ : ∀ m m' c, p.module? m.path = some m → m.Alike m' →
    resolveInstance p' hops m' c = resolveInstance p hops m c
  type : ∀ m m' c, p.module? m.path = some m → m.Alike m' →
    resolveType p' hops m' c = resolveType p hops m c
  superclass : ∀ cls : ClassSymbol, cls.symbol.AtHome p →
    Program.superclass p' hops cls = Program.superclass p hops cls
  member : ∀ container name, container.AtHome p →
    Program.member p' hops container name = Program.member p hops container name
  export_ : ∀ visited m m' name, p.module? m.path = some m → m.Alike m' →
    resolveExport p' hops visited m' name = resolveExport p hops visited m name

theorem sameAt_zero : SameAt p p' 0 where
  value _ _ _ _ _ := rfl
  binding _ _ _ _ _ _ _ _ := rfl
  instance_ _ _ _ _ _ := rfl
  type _ _ _ _ _ := rfl
  superclass _ _ := rfl
  member _ _ _ := rfl
  export_ _ _ _ _ _ _ := rfl

theorem SameAt.named (ih : SameAt p p' hops) (known : p.module? m.path = some m)
    (alike : m.Alike m') {site : Cursor} {b : Binding} (visible : m.lookup? name site = some b) :
    resolveBinding p' hops m' b = resolveBinding p hops m b := by
  obtain ⟨scope, -, bound⟩ := Module.lookup?_eq_some_iff.1 visible
  exact ih.binding m m' scope.key name b known alike bound

theorem resolveValue_same (grounded : p.Grounded) (ih : SameAt p p' hops)
    (known : p.module? m.path = some m) (alike : m.Alike m') (c : Cursor) :
    resolveValue p' (hops + 1) m' c = resolveValue p (hops + 1) m c := by
  have named : ∀ {name site b}, m.lookup? name site = some b →
      resolveBinding p' hops m' b = resolveBinding p hops m b := ih.named known alike
  have value : ∀ c, resolveValue p' hops m' c = resolveValue p hops m c :=
    fun c => ih.value m m' c known alike
  have made := ih.instance_ m m' c known alike
  obtain ⟨language, rfl⟩ := alike
  rw [resolveValue, resolveValue, Module.inLanguage_lookup?, Module.inLanguage_text,
    Module.inLanguage_owner?]
  split
  -- in parentheses
  · split
    · exact value _
    · rfl
  -- a name, as an expression or as a member of an object literal
  · split
    · rename_i visible
      exact named visible
    · rfl
  · split
    · rename_i visible
      exact named visible
    · rfl
  -- an instance
  · rw [made]
  -- `this`
  · rfl
  -- `super`
  · split
    · rename_i cls owner
      rw [ih.superclass cls (atHome_of_owner? grounded known owner)]
    · rfl
  -- a member
  · split
    · split
      · rw [value]
        split
        · rename_i container held
          exact ih.member container _ (atHome_of_resolveValue grounded known held)
        · rfl
      · rfl
    · rfl
  · rfl

theorem resolveBinding_same (grounded : p.Grounded) (extended : p.Extends p')
    (ih : SameAt p p' hops) (known : p.module? m.path = some m) (alike : m.Alike m')
    {scope : NodeKey} {b : Binding} (bound : m.boundAt? scope name = some b) :
    resolveBinding p' (hops + 1) m' b = resolveBinding p (hops + 1) m b := by
  match b with
  | .entity e => rfl
  | .imported specifier imported =>
    have same := extended.imports m.path m specifier known (.inl ⟨scope, name, imported, bound⟩)
    obtain ⟨language, rfl⟩ := alike
    rw [resolveBinding, resolveBinding, Module.inLanguage_path]
    rcases same with ⟨lost, lost'⟩ | ⟨t, t', led, led', alike⟩
    · rw [lost, lost']
    · rw [led, led']
      have next := ih.export_ [] t t' imported (grounded.module?_of_resolveModule led) alike
      obtain ⟨language, rfl⟩ := alike
      dsimp only
      rw [next]
      rfl
  | .variable (some type) _ =>
    rw [resolveBinding, resolveBinding, ih.type m m' type known alike]
  | .variable none (some value) =>
    rw [resolveBinding, resolveBinding, ih.instance_ m m' value known alike,
      ih.value m m' value known alike]
  | .variable none none => rfl

theorem resolveInstance_same (ih : SameAt p p' hops) (known : p.module? m.path = some m)
    (alike : m.Alike m') (c : Cursor) :
    resolveInstance p' (hops + 1) m' c = resolveInstance p (hops + 1) m c := by
  rw [resolveInstance, resolveInstance]
  split
  · rfl
  · rw [ih.value m m' _ known alike]

theorem resolveType_same (grounded : p.Grounded) (ih : SameAt p p' hops)
    (known : p.module? m.path = some m) (alike : m.Alike m') (c : Cursor) :
    resolveType p' (hops + 1) m' c = resolveType p (hops + 1) m c := by
  have named : ∀ {name site b}, m.lookup? name site = some b →
      resolveBinding p' hops m' b = resolveBinding p hops m b := ih.named known alike
  have value : ∀ c, resolveValue p' hops m' c = resolveValue p hops m c :=
    fun c => ih.value m m' c known alike
  obtain ⟨language, rfl⟩ := alike
  rw [resolveType, resolveType, Module.inLanguage_lookup?, Module.inLanguage_text]
  split
  · rfl
  · split
    · split
      · rename_i visible
        rw [named visible]
      · rfl
    · split
      · split
        · rw [value]
          split
          · rename_i container held
            rw [ih.member container _ (atHome_of_resolveValue grounded known held)]
          · rfl
        · rfl
      · rfl

theorem superclass_same (grounded : p.Grounded) (extended : p.Extends p') (ih : SameAt p p' hops)
    {cls : ClassSymbol} (home : cls.symbol.AtHome p) :
    superclass p' (hops + 1) cls = superclass p (hops + 1) cls := by
  obtain ⟨m, found⟩ := home
  obtain ⟨m', found', alike⟩ := extended.modules _ m found
  cases extending : cls.heritage with
  | none => simp only [superclass, extending]
  | some heritage =>
    simp only [superclass, extending, found, found',
      ih.value m m' heritage (grounded.module?_path found) alike]

theorem member_same (grounded : p.Grounded) (extended : p.Extends p') (ih : SameAt p p' hops)
    {container : Symbol} (home : container.AtHome p) :
    member p' (hops + 1) container name = member p (hops + 1) container name := by
  match container with
  | .space path =>
    obtain ⟨m, found⟩ := home
    obtain ⟨m', found', alike⟩ := extended.modules _ m found
    rw [member, member, found, found']
    dsimp only
    rw [ih.export_ [] m m' name (grounded.module?_path found) alike]
  | .entity (.object object) =>
    obtain ⟨m, found⟩ := home
    obtain ⟨m', found', alike⟩ := extended.modules _ m found
    have value := fun c => ih.value m m' c (grounded.module?_path found) alike
    obtain ⟨language, rfl⟩ := alike
    rw [member, member, found, found']
    cases object.members.find? name with
    | none => rfl
    | some target =>
      dsimp only
      rw [value]
      rfl
  | .entity (.cls cls) =>
    have above := ih.superclass cls home
    obtain ⟨m, found⟩ := home
    obtain ⟨m', found', alike⟩ := extended.modules _ m found
    have known := grounded.module?_path found
    rw [member, member, found, found', above]
    split
    · rfl
    · split
      · rename_i typed _
        dsimp only
        rw [ih.instance_ m m' typed known alike, ih.type m m' typed known alike]
      · split
        · rename_i parent extending
          exact ih.member parent.symbol name (atHome_of_superclass grounded extending)
        · rfl
  | .entity (.function _) => rfl

/-! ## Exports -/

/-- Specifiers that lead to modules alike, which answer alike when they are asked, give the same
answer when they are followed in turn. -/
theorem firstAnswer_same {ask ask' : Visited → Module → Option Symbol × Visited}
    {follow follow' : String → Option Module} {specifiers : List String}
    (same : ∀ specifier ∈ specifiers, SameTarget (follow specifier) (follow' specifier))
    (asks : ∀ specifier ∈ specifiers, ∀ t t', follow specifier = some t → t.Alike t' →
      ∀ visited, ask' visited t' = ask visited t) :
    firstAnswer ask' visited (specifiers.filterMap follow') =
      firstAnswer ask visited (specifiers.filterMap follow) := by
  induction specifiers generalizing visited with
  | nil => rfl
  | cons specifier rest ih =>
    have later := fun {visited} => @ih visited
      (fun other mem => same other (List.mem_cons_of_mem _ mem))
      (fun other mem => asks other (List.mem_cons_of_mem _ mem))
    rcases same specifier (by simp) with ⟨lost, lost'⟩ | ⟨t, t', led, led', alike⟩
    · rw [List.filterMap_cons_none lost, List.filterMap_cons_none lost']
      exact later
    · rw [List.filterMap_cons_some led, List.filterMap_cons_some led', firstAnswer, firstAnswer,
        asks specifier (by simp) t t' led alike]
      split
      · rfl
      · exact later

theorem resolveExport_same (grounded : p.Grounded) (extended : p.Extends p') (ih : SameAt p p' hops)
    (known : p.module? m.path = some m) (alike : m.Alike m') :
    resolveExport p' (hops + 1) visited m' name = resolveExport p (hops + 1) visited m name := by
  have binding : ∀ localName b, m.outermost? localName = some b →
      resolveBinding p' hops m' b = resolveBinding p hops m b :=
    fun localName b bound => ih.binding m m' m.source.tree.key localName b known alike bound
  have imports := fun specifier => extended.imports m.path m specifier known
  obtain ⟨language, rfl⟩ := alike
  -- the module in another language has the same tables, so the same way is open for both
  by_cases seen : (m.path, name) ∈ visited
  · rw [resolveExport_of_mem seen, resolveExport_of_mem (m := m.inLanguage language) seen]
  · cases p.exportCase m name with
    | @listed localName listed =>
      rw [resolveExport_listed seen listed,
        resolveExport_listed (m := m.inLanguage language) seen listed, Module.inLanguage_outermost?]
      cases bound : m.outermost? localName with
      | none => rfl
      | some b =>
        rw [Option.bind_some, Option.bind_some, binding localName b bound]
        rfl
    | @astray specifier source unlisted passed lost =>
      have lost' := (imports specifier (.inr (.inl ⟨name, source, passed⟩))).of_none lost
      rw [resolveExport_astray seen unlisted passed lost,
        resolveExport_astray (m := m.inLanguage language) seen unlisted passed lost']
      rfl
    | @space specifier target unlisted passed led =>
      obtain ⟨t', led', label, rfl⟩ :=
        (imports specifier (.inr (.inl ⟨name, wholeModule, passed⟩))).of_some led
      rw [resolveExport_space seen unlisted passed led,
        resolveExport_space (m := m.inLanguage language) seen unlisted passed led']
      rfl
    | @passed specifier source target unlisted passed single led =>
      obtain ⟨t', led', alike⟩ := (imports specifier (.inr (.inl ⟨name, source, passed⟩))).of_some led
      rw [resolveExport_passed seen unlisted passed single led,
        resolveExport_passed (m := m.inLanguage language) seen unlisted passed single led']
      exact ih.export_ _ target t' source (grounded.module?_of_resolveModule led) alike
    | unnamed unlisted unpassed isDefault =>
      rw [resolveExport_unnamed seen unlisted unpassed isDefault,
        resolveExport_unnamed (m := m.inLanguage language) seen unlisted unpassed isDefault]
      rfl
    | star unlisted unpassed notDefault =>
      rw [resolveExport_star seen unlisted unpassed notDefault,
        resolveExport_star (m := m.inLanguage language) seen unlisted unpassed notDefault]
      refine firstAnswer_same (fun specifier mem => imports specifier (.inr (.inr mem))) ?_
      intro specifier _ t t' led alike visited
      exact ih.export_ visited t t' name (grounded.module?_of_resolveModule led) alike

theorem sameAt_succ (grounded : p.Grounded) (extended : p.Extends p') (ih : SameAt p p' hops) :
    SameAt p p' (hops + 1) where
  value _ _ c known alike := resolveValue_same grounded ih known alike c
  binding _ _ _ _ _ known alike bound := resolveBinding_same grounded extended ih known alike bound
  instance_ _ _ c known alike := resolveInstance_same ih known alike c
  type _ _ c known alike := resolveType_same grounded ih known alike c
  superclass _ home := superclass_same grounded extended ih home
  member _ _ home := member_same grounded extended ih home
  export_ _ _ _ _ known alike := resolveExport_same grounded extended ih known alike

/-- However many hops are left, the searches that start in the smaller program have the same answers
in the larger one. -/
theorem sameAt (grounded : p.Grounded) (extended : p.Extends p') (hops : Nat) : SameAt p p' hops := by
  induction hops with
  | zero => exact sameAt_zero
  | succ hops ih => exact sameAt_succ grounded extended ih

end Program

/-! ## Calls -/

/-- A call in a module of the smaller program reaches the same function in the larger one. -/
theorem calleeOf_of_extends {p p' : Program} (grounded : p.Grounded) (extended : p.Extends p')
    {m m' : Module} (known : p.module? m.path = some m) (alike : m.Alike m') (call : Cursor) :
    calleeOf p' m' call = calleeOf p m call := by
  unfold calleeOf
  split
  · unfold Program.resolveCallee Program.valueOf
    rw [(Program.sameAt grounded extended _).value m m' _ known alike]
  · rfl

end RepoAudit
