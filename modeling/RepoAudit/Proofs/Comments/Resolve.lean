import RepoAudit.Proofs.Comments.Index
import RepoAudit.Proofs.Symbol.Program
import RepoAudit.Symbol.Resolve

/-! # Searches in files with comments

Every search in a program whose files have comments goes the same way as in the program without: the
same names are looked up, in the same scopes, and each node that is followed is followed on both sides.

* `Program.Paired`, `Counterpart` – two programs, and a module of each;
* `Symbol.Paired` – two symbols that stand for the same;
* `pairedAt` – all seven searches have corresponding answers, by induction on the hops left;
* `resolveCallee_eq` – so calls reach the same functions.
-/

namespace RepoAudit

open Syntax

/-! ## What is found on both sides -/

section optionRel

variable {α β γ δ : Type} {R : α → β → Prop} {S : γ → δ → Prop} {x : Option α} {y : Option β}

theorem optionRel_map {f : α → γ} {g : β → δ} (h : Option.Rel R x y)
    (same : ∀ a b, R a b → S (f a) (g b)) : Option.Rel S (x.map f) (y.map g) := by
  cases h with
  | none => exact .none
  | some related => exact .some (same _ _ related)

theorem optionRel_bind {f : α → Option γ} {g : β → Option δ} (h : Option.Rel R x y)
    (same : ∀ a b, R a b → Option.Rel S (f a) (g b)) : Option.Rel S (x.bind f) (y.bind g) := by
  cases h with
  | none => exact .none
  | some related => exact same _ _ related

end optionRel

namespace Module

variable {f f' : Source} {m m' : Module} {c c' : Cursor}

theorem boundAt?_paired (h : m.Paired f f' m') (scope : NodeKey) (name : String) :
    Option.Rel (Binding.Paired f f') (m.boundAt? scope name) (m'.boundAt? scope name) :=
  optionRel_bind (h.scopes scope) fun _ _ names => names name

theorem lookup?_paired (h : m.Paired f f' m') (site : f.Paired f' c c') (name : String) :
    Option.Rel (Binding.Paired f f') (m.lookup? name c) (m'.lookup? name c') := by
  refine optionRel_findSome? site.selfAndAncestors fun d d' paired => ?_
  rw [paired.key_eq]
  exact boundAt?_paired h d.key name

theorem ownerAlong_paired (h : m.Paired f f' m') {way way' : List Cursor}
    (along : List.Forall₂ (f.Paired f') way way') :
    Option.Rel (Entity.Paired f f') (m.ownerAlong way) (m'.ownerAlong way') := by
  have classAt : ∀ {d d'}, f.Paired f' d d' →
      Option.Rel (Entity.Paired f f') ((m.classes.find? d.key).map .cls)
        ((m'.classes.find? d'.key).map .cls) := by
    intro d d' paired
    rw [paired.key_eq]
    exact optionRel_map (h.classes d.key) fun _ _ classes => .cls classes
  induction along with
  | nil => exact .none
  | @cons d d' above above' head rest ih =>
    unfold ownerAlong
    rw [head.kind_eq]
    split
    · exact ih
    · split
      -- a method belongs to the class or the object literal around it
      · cases rest with
        | nil => exact .none
        | @cons body body' outer outer' inside beyond =>
          dsimp only
          rw [inside.kind_eq]
          split
          · cases beyond with
            | nil => exact .none
            | cons cls _ => exact classAt cls
          · split
            · rw [inside.key_eq]
              exact optionRel_map (h.objects body.key) fun _ _ objects => .object objects
            · exact .none
      · split
        · cases rest with
          | nil => exact .none
          | cons cls _ => exact classAt cls
        · split
          · exact .none
          · exact ih

theorem owner?_paired (h : m.Paired f f' m') (site : f.Paired f' c c') :
    Option.Rel (Entity.Paired f f') (m.owner? c) (m'.owner? c') :=
  ownerAlong_paired h site.ancestors

end Module

theorem Program.typeNode?_paired {f f' : Source} {c c' : Cursor} (h : f.Paired f' c c') :
    Option.Rel (f.Paired f') (typeNode? c) (typeNode? c') := by
  have inner : f.Paired f' (if c.kind == "type_annotation" then c.firstNamed?.getD c else c)
      (if c.kind == "type_annotation" then c'.firstNamed?.getD c' else c') := by
    split
    · rename_i annotation
      have known : c.node.kind = "type_annotation" := by simpa [Cursor.kind] using annotation
      have first : Option.Rel (f.Paired f') c.firstNamed? c'.firstNamed? :=
        Source.Paired.firstNamed? h fun before allowed => by simpa [mayFollow, known] using allowed
      rcases cases_of_optionRel first with ⟨e, e'⟩ | ⟨d, d', e, e', paired⟩
      · rw [e, e']
        exact h
      · rw [e, e']
        exact paired
    · exact h
  unfold typeNode?
  rw [h.kind_eq]
  generalize (if c.kind == "type_annotation" then c.firstNamed?.getD c else c) = node at inner
  generalize (if c.kind == "type_annotation" then c'.firstNamed?.getD c' else c') = node' at inner
  dsimp only
  rw [inner.kind_eq]
  split
  · rename_i generic
    have known : node.node.kind = "generic_type" := by simpa [Cursor.kind] using generic
    exact Source.Paired.childOrFirst? inner "name" fun before allowed => by
      simpa [mayFollow, known] using allowed
  · exact .some inner

/-! ## Two programs -/

/-- A module of a program and the module in its place in the program with comments. -/
structure Counterpart (p p' : Program) (m m' : Module) : Prop where
  file : Source.WithComments mayFollow m.source m'.source
  paired : m.Paired m.source m'.source m'
  known : p.module? m.path = some m
  known' : p'.module? m.path = some m'

/-- Two programs with the same paths, where a file of the second is the file of the first with
comments. -/
def Program.Paired (p p' : Program) : Prop :=
  ∀ path, Option.Rel (Counterpart p p') (p.module? path) (p'.module? path)

def ClassSymbol.Held (p p' : Program) (cls cls' : ClassSymbol) : Prop :=
  ∃ m m', Counterpart p p' m m' ∧ cls.Paired m.source m'.source cls'

inductive Symbol.Paired (p p' : Program) : Symbol → Symbol → Prop where
  | function (name : String) : Paired p p' (.entity (.function name)) (.entity (.function name))
  | cls {c c' : ClassSymbol} (held : c.Held p p' c') : Paired p p' (.entity (.cls c)) (.entity (.cls c'))
  | object {o o' : ObjectSymbol} {m m' : Module} (modules : Counterpart p p' m m')
      (paired : o.Paired m.source m'.source o') :
      Paired p p' (.entity (.object o)) (.entity (.object o'))
  | space (path : String) : Paired p p' (.space path) (.space path)

namespace Counterpart

variable {p p' : Program} {m m' : Module}

theorem path_eq (h : Counterpart p p' m m') : m'.path = m.path :=
  h.file.path

theorem entity (h : Counterpart p p' m m') {e e' : Entity} (paired : e.Paired m.source m'.source e') :
    Symbol.Paired p p' (.entity e) (.entity e') := by
  cases paired with
  | function name => exact .function name
  | cls classes => exact .cls ⟨m, m', h, classes⟩
  | object objects => exact .object h objects

end Counterpart

namespace Program

variable {p p' : Program} {m m' : Module} {c c' : Cursor} {name : String} {hops : Nat}
  {visited : Visited}

/-- A specifier leads to counterparts. -/
theorem resolveModule_paired (h : p.Paired p') (modules : Counterpart p p' m m') (specifier : String) :
    Option.Rel (Counterpart p p') (p.resolveModule m.path specifier)
      (p'.resolveModule m'.path specifier) := by
  unfold resolveModule
  rw [modules.path_eq]
  split
  · refine optionRel_findSome? (R := Eq) (List.forall₂_refl _) fun path path' same => ?_
    cases same
    exact h path
  · exact .none

theorem symbol_paired {x y : Option ClassSymbol} (h : Option.Rel (ClassSymbol.Held p p') x y) :
    Option.Rel (Symbol.Paired p p') (x.map ClassSymbol.symbol) (y.map ClassSymbol.symbol) :=
  optionRel_map h fun _ _ held => .cls held

theorem class?_paired {x y : Option Symbol} (h : Option.Rel (Symbol.Paired p p') x y) :
    Option.Rel (ClassSymbol.Held p p') (x.bind Symbol.class?) (y.bind Symbol.class?) := by
  refine optionRel_bind h fun s s' paired => ?_
  cases paired with
  | cls held => exact .some held
  | function | object | space => exact .none

/-! ## The seven searches -/

/-- With `hops` hops left, every search has corresponding answers in both programs. -/
structure PairedAt (p p' : Program) (hops : Nat) : Prop where
  value : ∀ m m' c c', Counterpart p p' m m' → m.source.Paired m'.source c c' →
    Option.Rel (Symbol.Paired p p') (resolveValue p hops m c) (resolveValue p' hops m' c')
  binding : ∀ m m' b b', Counterpart p p' m m' → b.Paired m.source m'.source b' →
    Option.Rel (Symbol.Paired p p') (resolveBinding p hops m b) (resolveBinding p' hops m' b')
  instance_ : ∀ m m' c c', Counterpart p p' m m' → m.source.Paired m'.source c c' →
    Option.Rel (ClassSymbol.Held p p') (resolveInstance p hops m c) (resolveInstance p' hops m' c')
  type : ∀ m m' c c', Counterpart p p' m m' → m.source.Paired m'.source c c' →
    Option.Rel (ClassSymbol.Held p p') (resolveType p hops m c) (resolveType p' hops m' c')
  superclass : ∀ cls cls', ClassSymbol.Held p p' cls cls' →
    Option.Rel (ClassSymbol.Held p p') (Program.superclass p hops cls) (Program.superclass p' hops cls')
  member : ∀ s s' name, Symbol.Paired p p' s s' →
    Option.Rel (Symbol.Paired p p') (Program.member p hops s name) (Program.member p' hops s' name)
  export_ : ∀ visited m m' name, Counterpart p p' m m' →
    Option.Rel (Symbol.Paired p p') (resolveExport p hops visited m name).1
        (resolveExport p' hops visited m' name).1 ∧
      (resolveExport p' hops visited m' name).2 = (resolveExport p hops visited m name).2

theorem pairedAt_zero : PairedAt p p' 0 where
  value _ _ _ _ _ _ := .none
  binding _ _ _ _ _ _ := .none
  instance_ _ _ _ _ _ _ := .none
  type _ _ _ _ _ _ := .none
  superclass _ _ _ := .none
  member _ _ _ _ := .none
  export_ _ _ _ _ _ := ⟨.none, rfl⟩

section steps

variable (ih : PairedAt p p' hops)
include ih

theorem resolveValue_paired (modules : Counterpart p p' m m') (site : m.source.Paired m'.source c c') :
    Option.Rel (Symbol.Paired p p') (resolveValue p (hops + 1) m c)
      (resolveValue p' (hops + 1) m' c') := by
  rw [resolveValue, resolveValue, site.kind_eq]
  split
  -- in parentheses
  · rename_i kind
    have known : c.node.kind = "parenthesized_expression" := kind
    have first : Option.Rel (m.source.Paired m'.source) c.firstNamed? c'.firstNamed? :=
      Source.Paired.firstNamed? site fun before allowed => by simpa [mayFollow, known] using allowed
    rcases cases_of_optionRel first with ⟨e, e'⟩ | ⟨d, d', e, e', inner⟩
    · rw [e, e']
      exact .none
    · rw [e, e']
      exact ih.value m m' d d' modules inner
  -- a name, as an expression or as a member of an object literal
  · rename_i kind
    have same : m'.text c' = m.text c := Source.Paired.text_of_kind site kind rfl
    rw [same]
    rcases cases_of_optionRel (Module.lookup?_paired modules.paired site (m.text c)) with
      ⟨e, e'⟩ | ⟨b, b', e, e', bindings⟩
    · rw [e, e']
      exact .none
    · rw [e, e']
      exact ih.binding m m' b b' modules bindings
  · rename_i kind
    have same : m'.text c' = m.text c := Source.Paired.text_of_kind site kind rfl
    rw [same]
    rcases cases_of_optionRel (Module.lookup?_paired modules.paired site (m.text c)) with
      ⟨e, e'⟩ | ⟨b, b', e, e', bindings⟩
    · rw [e, e']
      exact .none
    · rw [e, e']
      exact ih.binding m m' b b' modules bindings
  -- an instance
  · exact symbol_paired (ih.instance_ m m' c c' modules site)
  -- `this`
  · exact optionRel_map (Module.owner?_paired modules.paired site)
      fun _ _ entities => modules.entity entities
  -- `super`
  · rcases cases_of_optionRel (Module.owner?_paired modules.paired site) with
      ⟨e, e'⟩ | ⟨owner, owner', e, e', entities⟩
    · rw [e, e']
      exact .none
    · rw [e, e']
      cases entities with
      | cls classes => exact symbol_paired (ih.superclass _ _ ⟨m, m', modules, classes⟩)
      | function | object => exact .none
  -- a member
  · rcases cases_of_optionRel (site.child? "object") with ⟨e, e'⟩ | ⟨object, object', e, e', inner⟩
    · simp only [e, e']
      exact .none
    · rcases cases_of_optionRel (Source.Paired.named site "property" rfl) with
        ⟨n, n'⟩ | ⟨property, property', n, n', propertyPaired, same⟩
      · simp only [e, e', n, n']
        exact .none
      · simp only [e, e', n, n', propertyPaired.kind_eq]
        split
        · rcases cases_of_optionRel (ih.value m m' object object' modules inner) with
            ⟨v, v'⟩ | ⟨container, container', v, v', symbols⟩
          · rw [v, v']
            exact .none
          · simp only [v, v', Module.text, same]
            exact ih.member container container' _ symbols
        · exact .none
  · exact .none

theorem resolveBinding_paired (programs : p.Paired p') (modules : Counterpart p p' m m')
    {b b' : Binding}
    (bindings : b.Paired m.source m'.source b') :
    Option.Rel (Symbol.Paired p p') (resolveBinding p (hops + 1) m b)
      (resolveBinding p' (hops + 1) m' b') := by
  cases bindings with
  | entity entities => exact .some (modules.entity entities)
  | imported specifier name =>
    rw [resolveBinding, resolveBinding]
    rcases cases_of_optionRel (resolveModule_paired programs modules specifier) with
      ⟨e, e'⟩ | ⟨target, target', e, e', targets⟩
    · simp only [e, e']
      exact .none
    · simp only [e, e']
      split
      · rw [targets.path_eq]
        exact .some (.space target.path)
      · exact (ih.export_ [] target target' name targets).1
  | typed types values =>
    cases types with
    | some type =>
      rw [resolveBinding, resolveBinding]
      exact symbol_paired (ih.type m m' _ _ modules type)
    | none =>
      cases values with
      | none => exact .none
      | some value =>
        rw [resolveBinding, resolveBinding, value.kind_eq]
        split
        · exact symbol_paired (ih.instance_ m m' _ _ modules value)
        · split
          · exact ih.value m m' _ _ modules value
          · exact .none

theorem resolveInstance_paired (modules : Counterpart p p' m m')
    (site : m.source.Paired m'.source c c') :
    Option.Rel (ClassSymbol.Held p p') (resolveInstance p (hops + 1) m c)
      (resolveInstance p' (hops + 1) m' c') := by
  rw [resolveInstance, resolveInstance]
  rcases cases_of_optionRel (site.child? "constructor") with ⟨e, e'⟩ | ⟨ctor, ctor', e, e', inner⟩
  · rw [e, e']
    exact .none
  · rw [e, e']
    exact class?_paired (ih.value m m' ctor ctor' modules inner)

theorem resolveType_paired (modules : Counterpart p p' m m') (site : m.source.Paired m'.source c c') :
    Option.Rel (ClassSymbol.Held p p') (resolveType p (hops + 1) m c)
      (resolveType p' (hops + 1) m' c') := by
  rw [resolveType, resolveType]
  rcases cases_of_optionRel (typeNode?_paired site) with ⟨e, e'⟩ | ⟨node, node', e, e', inner⟩
  · rw [e, e']
    exact .none
  · simp only [e, e', inner.kind_eq]
    split
    · rename_i kind
      have same : m'.text node' = m.text node := Source.Paired.text_of_kind inner (eq_of_beq kind) rfl
      rcases cases_of_optionRel (Module.lookup?_paired modules.paired inner (m.text node)) with
        ⟨l, l'⟩ | ⟨b, b', l, l', bindings⟩
      · simp only [same, l, l']
        exact .none
      · simp only [same, l, l']
        exact class?_paired (ih.binding m m' b b' modules bindings)
    · split
      · rcases cases_of_optionRel (inner.child? "module") with ⟨o, o'⟩ | ⟨scope, scope', o, o', scopes⟩
        · simp only [o, o']
          exact .none
        · rcases cases_of_optionRel (Source.Paired.named inner "name" rfl) with
            ⟨n, n'⟩ | ⟨name, name', n, n', -, same⟩
          · simp only [o, o', n, n']
            exact .none
          · rcases cases_of_optionRel (ih.value m m' scope scope' modules scopes) with
              ⟨v, v'⟩ | ⟨container, container', v, v', symbols⟩
            · simp only [o, o', n, n', v, v']
              exact .none
            · simp only [o, o', n, n', v, v', Module.text, same]
              exact class?_paired (ih.member container container' _ symbols)
      · exact .none

theorem superclass_paired {cls cls' : ClassSymbol} (held : cls.Held p p' cls') :
    Option.Rel (ClassSymbol.Held p p') (superclass p (hops + 1) cls)
      (superclass p' (hops + 1) cls') := by
  obtain ⟨m, m', modules, classes⟩ := id held
  have here : p.module? cls.module = some m := by
    rw [classes.module]
    exact modules.known
  have here' : p'.module? cls'.module = some m' := by
    rw [classes.module_eq, classes.module]
    exact modules.known'
  rw [superclass, superclass, here, here']
  rcases cases_of_optionRel classes.heritage with ⟨e, e'⟩ | ⟨heritage, heritage', e, e', inner⟩
  · simp only [e, e']
    exact .none
  · rcases cases_of_optionRel (class?_paired (ih.value m m' heritage heritage' modules inner)) with
      ⟨v, v'⟩ | ⟨parent, parent', v, v', parents⟩
    · simp only [e, e', v, v']
      exact .none
    · have same : parent'.same cls' = parent.same cls := by
        obtain ⟨_, _, _, above⟩ := id parents
        rw [ClassSymbol.same, ClassSymbol.same, above.module_eq, above.key_eq, classes.module_eq,
          classes.key_eq]
      simp only [e, e', v, v', same]
      split
      · exact .none
      · exact .some parents

theorem member_object_paired {o o' : ObjectSymbol} (modules : Counterpart p p' m m')
    (objects : o.Paired m.source m'.source o') :
    Option.Rel (Symbol.Paired p p') (member p (hops + 1) (.entity (.object o)) name)
      (member p' (hops + 1) (.entity (.object o')) name) := by
  have here : p.module? o.module = some m := by
    rw [objects.module]
    exact modules.known
  have here' : p'.module? o'.module = some m' := by
    rw [objects.module_eq, objects.module]
    exact modules.known'
  rw [member, member, here, here']
  rcases cases_of_optionRel (objects.members name) with ⟨e, e'⟩ | ⟨target, target', e, e', inner⟩
  · simp only [e, e']
    exact .none
  · simp only [e, e', inner.kind_eq]
    split
    · rw [Source.qualifiedName?_eq modules.file.path modules.file.bytes inner]
      cases m.source.qualifiedName? target with
      | none => exact .none
      | some qualified => exact .some (.function qualified)
    · split
      · rw [inner.key_eq]
        exact optionRel_map (modules.paired.objects target.key) fun _ _ found => .object modules found
      · exact ih.value m m' target target' modules inner

theorem member_class_paired {cls cls' : ClassSymbol} (held : cls.Held p p' cls') :
    Option.Rel (Symbol.Paired p p') (member p (hops + 1) (.entity (.cls cls)) name)
      (member p' (hops + 1) (.entity (.cls cls')) name) := by
  obtain ⟨m, m', modules, classes⟩ := id held
  have here : p.module? cls.module = some m := by
    rw [classes.module]
    exact modules.known
  have here' : p'.module? cls'.module = some m' := by
    rw [classes.module_eq, classes.module]
    exact modules.known'
  rw [member, member, classes.methods_eq, here, here']
  cases cls.methods.find? name with
  | some qualified => exact .some (.function qualified)
  | none =>
    rcases cases_of_optionRel (classes.fields name) with ⟨e, e'⟩ | ⟨typed, typed', e, e', inner⟩
    -- a member of a class above
    · rcases cases_of_optionRel (ih.superclass cls cls' held) with
        ⟨v, v'⟩ | ⟨parent, parent', v, v', parents⟩
      · simp only [e, e', v, v']
        exact .none
      · simp only [e, e', v, v']
        exact ih.member _ _ name (.cls parents)
    · simp only [e, e', inner.kind_eq]
      split
      · exact symbol_paired (ih.instance_ m m' typed typed' modules inner)
      · exact symbol_paired (ih.type m m' typed typed' modules inner)

theorem member_paired (programs : p.Paired p') {s s' : Symbol} (symbols : s.Paired p p' s') :
    Option.Rel (Symbol.Paired p p') (member p (hops + 1) s name) (member p' (hops + 1) s' name) := by
  cases symbols with
  | function => exact .none
  | cls held => exact member_class_paired ih held
  | object modules objects => exact member_object_paired ih modules objects
  | space path =>
    rw [member, member]
    rcases cases_of_optionRel (programs path) with ⟨e, e'⟩ | ⟨m, m', e, e', modules⟩
    · simp only [e, e']
      exact .none
    · simp only [e, e']
      exact (ih.export_ [] m m' name modules).1

theorem firstAnswer_paired {targets targets' : List Module}
    (modules : List.Forall₂ (Counterpart p p') targets targets') (visited : Visited) :
    Option.Rel (Symbol.Paired p p')
        (firstAnswer (fun visited target => resolveExport p hops visited target name) visited targets).1
        (firstAnswer (fun visited target => resolveExport p' hops visited target name) visited targets').1 ∧
      (firstAnswer (fun visited target => resolveExport p' hops visited target name) visited targets').2 =
        (firstAnswer (fun visited target => resolveExport p hops visited target name) visited targets).2 := by
  induction modules generalizing visited with
  | nil => exact ⟨.none, rfl⟩
  | @cons target target' _ _ head _ onward =>
    obtain ⟨answers, seen⟩ := ih.export_ visited target target' name head
    rw [firstAnswer, firstAnswer]
    generalize resolveExport p hops visited target name = asked at answers seen
    generalize resolveExport p' hops visited target' name = asked' at answers seen
    obtain ⟨answer, after⟩ := asked
    obtain ⟨answer', after'⟩ := asked'
    dsimp only at answers seen
    subst seen
    cases answers with
    | none => exact onward _
    | some symbols => exact ⟨.some symbols, rfl⟩

theorem resolveExport_paired (programs : p.Paired p') (modules : Counterpart p p' m m')
    (visited : Visited) :
    Option.Rel (Symbol.Paired p p') (resolveExport p (hops + 1) visited m name).1
        (resolveExport p' (hops + 1) visited m' name).1 ∧
      (resolveExport p' (hops + 1) visited m' name).2 = (resolveExport p (hops + 1) visited m name).2 := by
  have leads := resolveModule_paired programs modules
  rw [resolveExport, resolveExport, modules.path_eq, modules.paired.exports_eq,
    modules.paired.reexports_eq, modules.paired.starExports_eq]
  rw [modules.path_eq] at leads
  split
  · exact ⟨.none, rfl⟩
  · dsimp only
    cases m.exports.find? name with
    | some localName =>
      have outermost : Option.Rel (Binding.Paired m.source m'.source) (m.outermost? localName)
          (m'.outermost? localName) := by
        rw [Module.outermost?, Module.outermost?, modules.file.tree.key_eq]
        exact Module.boundAt?_paired modules.paired _ _
      dsimp only
      rcases cases_of_optionRel outermost with ⟨e, e'⟩ | ⟨b, b', e, e', bindings⟩
      · rw [e, e']
        exact ⟨.none, rfl⟩
      · rw [e, e']
        exact ⟨ih.binding m m' b b' modules bindings, rfl⟩
    | none =>
      cases m.reexports.find? name with
      | some passed =>
        obtain ⟨specifier, imported⟩ := passed
        rcases cases_of_optionRel (leads specifier) with ⟨e, e'⟩ | ⟨target, target', e, e', targets⟩
        · dsimp only
          rw [e, e']
          exact ⟨.none, rfl⟩
        · dsimp only
          rw [e, e']
          dsimp only
          rw [targets.path_eq]
          split
          · exact ⟨.some (.space target.path), rfl⟩
          · exact ih.export_ _ target target' imported targets
      | none =>
        dsimp only
        split
        · exact ⟨.none, rfl⟩
        · refine firstAnswer_paired ih ?_ _
          refine List.rel_filterMap (R := Eq) (fun a b same => ?_) (List.forall₂_refl _)
          cases same
          exact leads a

end steps

/-- All seven searches have corresponding answers, whatever the number of hops left. -/
theorem pairedAt (programs : p.Paired p') (hops : Nat) : PairedAt p p' hops := by
  induction hops with
  | zero => exact pairedAt_zero
  | succ hops ih =>
    exact
      { value := fun _ _ _ _ => resolveValue_paired ih
        binding := fun _ _ _ _ modules => resolveBinding_paired ih programs modules
        instance_ := fun _ _ _ _ => resolveInstance_paired ih
        type := fun _ _ _ _ => resolveType_paired ih
        superclass := fun _ _ => superclass_paired ih
        member := fun _ _ _ => member_paired ih programs
        export_ := fun visited _ _ _ modules => resolveExport_paired ih programs modules visited }

/-- A call reaches the same function. -/
theorem resolveCallee_eq (programs : p.Paired p') (modules : Counterpart p p' m m')
    (site : m.source.Paired m'.source c c') : p'.resolveCallee m' c' = p.resolveCallee m c := by
  unfold resolveCallee
  rcases cases_of_optionRel ((pairedAt programs maxHops).value m m' c c' modules site) with
    ⟨e, e'⟩ | ⟨s, s', e, e', symbols⟩
  · rw [valueOf, valueOf, e, e']
  · rw [valueOf, valueOf, e, e']
    cases symbols with
    | function | cls | object | space => rfl

end Program

end RepoAudit
