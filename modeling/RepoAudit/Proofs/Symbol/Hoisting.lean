import RepoAudit.Proofs.DeadCode.LocalCalls
import RepoAudit.Proofs.Symbol.ExportMarker
import RepoAudit.Proofs.Symbol.Scopes

/-! # How far a `var` reaches

A `var` in a declaration is bound in the function around it, whatever blocks stand in between; a `var`
in the head of a `for … in` or `for … of` loop is bound in the loop.  From everywhere inside the node
that has the binding, a look-up of the name ends at that node or further in, so that a call of the name
does not come to what the name means outside.

* `Cursor.IsFunctionOf` – the innermost function around a node;
* `Source.VarReaches` – a `var` of a function and the node in which its name is bound;
* `scopeOf_of_isFunctionOf` – the scope of a `var` declaration is the function;
* `mem_declaredFrom_iff` – what a file declares, node by node;
* `exists_declares_of_varReaches` – the file declares the name at that node;
* `Module.scope_of_imported` – imports are bound in the outermost scope only;
* `lookup?_of_bound` – a look-up from inside a node that binds a name ends at the node or inside it;
* `var_shadows_outside` – what a look-up and a call of the name find;
* `loop_variable_not_hoisted` – behind a loop, the variable of the loop is not found.
-/

namespace RepoAudit

open Syntax

/-! ## The way up -/

namespace Syntax.Cursor

def IsFunctionOf (function c : Cursor) : Prop :=
  c.ancestors.find? (·.kind.isFunctionLike) = some function

variable {c scope function : Cursor} {inner outer : List Cursor}

/-- Behind a node on a way up comes the way up from that node. -/
theorem ancestors_of_along_split {way : List Step} (h : along way = inner ++ scope :: outer) :
    scope.ancestors = outer := by
  induction way generalizing inner with
  | nil => simp [along] at h
  | cons step rest ih =>
    rw [along] at h
    cases inner with
    | nil =>
      rw [List.nil_append, List.cons.injEq] at h
      rw [← h.1, ancestors, h.2]
    | cons first inner =>
      rw [List.cons_append, List.cons.injEq] at h
      exact ih h.2

theorem ancestors_of_split (h : c.selfAndAncestors = inner ++ scope :: outer) :
    scope.ancestors = outer := by
  cases inner with
  | nil =>
    rw [selfAndAncestors, List.nil_append, List.cons.injEq] at h
    rw [← h.1, h.2]
  | cons first inner =>
    rw [selfAndAncestors, List.cons_append, List.cons.injEq] at h
    exact ancestors_of_along_split h.2

/-- What stands around a node that stands around another stands around that one. -/
theorem mem_selfAndAncestors_trans {a b : Cursor} (h : a ∈ b.selfAndAncestors)
    (h' : b ∈ c.selfAndAncestors) : a ∈ c.selfAndAncestors := by
  obtain ⟨inner, outer, way⟩ := List.append_of_mem h'
  rw [way]
  rw [selfAndAncestors, ancestors_of_split way] at h
  exact List.mem_append_right _ h

theorem Within.mem_selfAndAncestors {d : Cursor} (h : c.Within d) : c ∈ d.selfAndAncestors := by
  induction h with
  | refl => exact List.mem_cons_self
  | tail _ step ih =>
    rw [selfAndAncestors, ancestors_of_mem_children step]
    exact List.mem_cons_of_mem _ ih

theorem Within.of_mem_selfAndAncestors {tree : Node} {a : Cursor} (h : (root tree).Within c)
    (above : a ∈ c.selfAndAncestors) : (root tree).Within a := by
  rcases List.mem_cons.1 above with rfl | above
  · exact h
  · exact h.ancestor above

theorem IsFunctionOf.kind (h : function.IsFunctionOf c) : function.kind.isFunctionLike = true :=
  (List.find?_eq_some_iff_append.1 h).1

theorem IsFunctionOf.mem (h : function.IsFunctionOf c) : function ∈ c.ancestors :=
  List.mem_of_find?_eq_some h

/-- What is no function is passed over. -/
theorem IsFunctionOf.up {parent : Cursor} (h : function.IsFunctionOf c)
    (place : c.parent? = some parent) (noFunction : parent.kind.isFunctionLike = false) :
    function.IsFunctionOf parent := by
  rwa [IsFunctionOf, ancestors_of_parent? place, List.find?_cons, noFunction] at h

end Syntax.Cursor

/-! ## What a `var` declares -/

namespace Source

/-- A `var` of a function introduces a name, and the node in which the name is bound: the function for
a declaration, the loop for the head of a loop. -/
inductive VarReaches (f : Source) (function : Cursor) (name : String) : Cursor → Prop
  | declared {declarator declaration pattern : Cursor} :
      declarator ∈ f.root.walk → declarator.kind = "variable_declarator" →
      declarator.parent? = some declaration → declaration.kind = "variable_declaration" →
      function.IsFunctionOf declarator → declarator.child? "name" = some pattern →
      name ∈ Pattern.introduced f.text pattern.node →
      VarReaches f function name function
  | looped {loop keyword pattern : Cursor} :
      loop ∈ f.root.walk → loop.kind = "for_in_statement" →
      loop.child? "kind" = some keyword → keyword.kind = "var" →
      function.IsFunctionOf loop → loop.child? "left" = some pattern →
      name ∈ Pattern.introduced f.text pattern.node →
      VarReaches f function name loop

variable {f : Source} {function region c : Cursor} {name : String}

/-- The node in which the name is bound is the function or stands in it. -/
theorem VarReaches.inside (h : f.VarReaches function name region) :
    function ∈ region.selfAndAncestors := by
  cases h with
  | declared => exact List.mem_cons_self
  | looped _ _ _ _ innermost => exact List.mem_cons_of_mem _ innermost.mem

theorem VarReaches.ne_program (h : f.VarReaches function name region) :
    region.kind ≠ "program" := by
  cases h with
  | declared _ _ _ _ innermost =>
    intro isProgram
    have isFunction := innermost.kind
    rw [isProgram] at isFunction
    exact absurd isFunction (by decide)
  | looped _ isLoop =>
    rw [isLoop]
    decide

/-- The scope of a `var` declaration is the function around it. -/
theorem scopeOf_of_isFunctionOf (single : f.HasOneProgram) (within : f.root.Within c)
    (innermost : function.IsFunctionOf c) : scopeOf true c = function := by
  obtain ⟨isFunction, inner, outer, way, others⟩ := List.find?_eq_some_iff_append.1 innermost
  have found : c.ancestors.find? (opensScope true) = some function := by
    refine List.find?_eq_some_iff_append.2 ⟨?_, inner, outer, way, ?_⟩
    · simp [opensScope, isFunction]
    · intro a mem
      -- a program in between would be the root, with no function around it
      have notProgram : a.kind ≠ "program" := by
        intro isProgram
        obtain ⟨before, after, rfl⟩ := List.append_of_mem mem
        rw [List.append_assoc, List.cons_append] at way
        have above : a ∈ c.ancestors := way ▸ by simp
        have top := Cursor.ancestors_eq_nil_of_parent?
          (single a (Cursor.Within.ancestor within above) isProgram)
        rw [Cursor.ancestors_of_along_split way] at top
        simp at top
      simpa [opensScope, notProgram] using others a mem
  rw [scopeOf, found, Option.getD_some]

/-- What a list of nodes declares is what its nodes declare, each after those before it. -/
theorem mem_declaredFrom_iff {d : Declared} {earlier cs : List Cursor} :
    d ∈ f.declaredFrom earlier cs ↔
      ∃ before c after, cs = before ++ c :: after ∧ d ∈ f.declaredAt (earlier ++ before) c := by
  induction cs generalizing earlier with
  | nil => simp [declaredFrom]
  | cons first rest ih =>
    rw [declaredFrom, List.mem_append, ih]
    constructor
    · rintro (here | ⟨before, c, after, rfl, later⟩)
      · exact ⟨[], first, rest, rfl, by simpa using here⟩
      · exact ⟨first :: before, c, after, rfl, by simpa using later⟩
    · rintro ⟨before, c, after, split, mem⟩
      cases before with
      | nil =>
        cases split
        exact .inl (by simpa using mem)
      | cons _ before =>
        cases split
        exact .inr ⟨before, c, after, rfl, by simpa using mem⟩

/-- What a node declares is declared by the file. -/
theorem exists_declaredAt_subset (visited : c ∈ f.root.walk) :
    ∃ before, f.declaredAt before c ⊆ f.declarations := by
  rw [Cursor.walk_eq_preorder] at visited
  obtain ⟨before, after, split⟩ := List.append_of_mem visited
  exact ⟨before, fun d mem => mem_declaredFrom_iff.2 ⟨before, c, after, split, mem⟩⟩

theorem exists_patternDeclared {pattern : Node} (scope : NodeKey)
    (introduced : name ∈ Pattern.introduced f.text pattern) :
    ∃ d ∈ f.patternDeclared scope pattern, d.Targets scope name :=
  ⟨⟨scope, name, .unknown⟩, List.mem_map.2 ⟨name, introduced, rfl⟩, rfl, rfl⟩

/-- A declarator declares every name of its pattern in its scope. -/
theorem exists_declaratorDeclared {class? : NodeKey → Option ClassSymbol}
    {object? : NodeKey → Option ObjectSymbol} {pattern : Cursor}
    (place : c.child? "name" = some pattern)
    (introduced : name ∈ Pattern.introduced f.text pattern.node) :
    ∃ d ∈ f.declaratorDeclared class? object? c, d.Targets (Module.declaratorScope c).key name := by
  rw [declaratorDeclared, place]
  dsimp only
  split
  · rename_i isIdentifier
    have isName : Pattern.isName pattern.node = true := by
      simp only [Cursor.kind, beq_iff_eq] at isIdentifier
      simp [Pattern.isName, isIdentifier]
    rw [Pattern.introduced_of_isName _ isName, List.mem_singleton] at introduced
    exact ⟨_, List.mem_singleton_self _, rfl, introduced.symm⟩
  · exact exists_patternDeclared _ introduced

/-- A file declares the name of a `var` at the node that the `var` reaches. -/
theorem exists_declares_of_varReaches (single : f.HasOneProgram)
    (reaches : f.VarReaches function name region) :
    ∃ d ∈ f.declarations, d.Targets region.key name := by
  cases reaches with
  | @declared declarator declaration pattern visited isDeclarator parent isVar innermost place
      introduced =>
    have scope : Module.declaratorScope declarator = function := by
      have above : declaration ∈ declarator.ancestors := by
        rw [Cursor.ancestors_of_parent? parent]
        exact List.mem_cons_self
      have within := (Cursor.within_of_mem_walk visited).ancestor above
      have noFunction : declaration.kind.isFunctionLike = false := by
        rw [isVar]
        decide
      rw [Module.declaratorScope, parent]
      simp only [isVar, beq_self_eq_true]
      exact scopeOf_of_isFunctionOf single within (innermost.up parent noFunction)
    obtain ⟨before, subset⟩ := exists_declaredAt_subset visited
    have atNode : f.declaredAt before declarator =
        f.declaratorDeclared (f.classAfter? (before ++ [declarator]))
          (f.objectAfter? (before ++ [declarator])) declarator := by
      rw [declaredAt, isDeclarator]
      rfl
    obtain ⟨d, mem, targets⟩ := exists_declaratorDeclared place introduced
    rw [scope] at targets
    exact ⟨d, subset (atNode ▸ mem), targets⟩
  | @looped _ keyword pattern visited isLoop keywordPlace _ _ place introduced =>
    obtain ⟨before, subset⟩ := exists_declaredAt_subset visited
    have atNode : f.declaredAt before region = f.patternDeclared region.key pattern.node := by
      rw [declaredAt, isLoop]
      simp only [forInDeclared, place, keywordPlace]
      rfl
    obtain ⟨d, mem, targets⟩ := exists_patternDeclared region.key introduced
    exact ⟨d, subset (atNode ▸ mem), targets⟩

end Source

/-! ## Where imports are bound -/

namespace Declared

/-- The declaration stands in this scope if it is an import. -/
def ImportsIn (scope : NodeKey) (d : Declared) : Prop :=
  ∀ specifier source, d.binding = .imported specifier source → d.scope = scope

variable {scope scope' : NodeKey} {name : String}

theorem importsIn_of_entity {e : Entity} : ImportsIn scope ⟨scope', name, .entity e⟩ := by
  intro specifier source imported
  cases imported

theorem importsIn_of_variable {type value : Option Cursor} :
    ImportsIn scope ⟨scope', name, .variable type value⟩ := by
  intro specifier source imported
  cases imported

theorem importsIn_of_scope {b : Binding} : ImportsIn scope ⟨scope, name, b⟩ :=
  fun _ _ _ => rfl

end Declared

namespace Source

open Declared

variable {f : Source} {d : Declared} {c : Cursor}

theorem importsIn_of_mem_patternDeclared {scope scope' : NodeKey} {pattern : Node}
    (mem : d ∈ f.patternDeclared scope' pattern) : d.ImportsIn scope := by
  obtain ⟨name, -, rfl⟩ := List.mem_map.1 mem
  exact importsIn_of_variable

theorem importsIn_of_mem_declaratorDeclared {scope : NodeKey} {class? : NodeKey → Option ClassSymbol}
    {object? : NodeKey → Option ObjectSymbol} (mem : d ∈ f.declaratorDeclared class? object? c) :
    d.ImportsIn scope := by
  unfold declaratorDeclared at mem
  split at mem
  · split at mem
    · rw [List.mem_singleton] at mem
      subst mem
      unfold declaratorBinding
      generalize (c.child? "value").bind _ = entity?
      cases entity? with
      | none => exact importsIn_of_variable
      | some e => exact importsIn_of_entity
    · exact importsIn_of_mem_patternDeclared mem
  · exact absurd mem List.not_mem_nil

theorem importsIn_of_mem_parameterDeclared {scope function : NodeKey} {param : Cursor}
    (mem : d ∈ f.parameterDeclared function param) : d.ImportsIn scope := by
  unfold parameterDeclared at mem
  split at mem
  · split at mem
    · split at mem
      · rw [List.mem_singleton] at mem
        subst mem
        exact importsIn_of_variable
      · exact importsIn_of_mem_patternDeclared mem
    · exact absurd mem List.not_mem_nil
  · exact importsIn_of_mem_patternDeclared mem

/-- Whatever a node declares, its imports stand in the outermost scope. -/
theorem importsIn_of_mem_declaredAt {earlier : List Cursor} (mem : d ∈ f.declaredAt earlier c) :
    d.ImportsIn f.tree.key := by
  unfold declaredAt at mem
  split at mem
  · unfold functionDeclared at mem
    split at mem
    · rw [List.mem_singleton] at mem
      subst mem
      exact importsIn_of_entity
    · exact absurd mem List.not_mem_nil
  split at mem
  · split at mem
    · exact absurd mem List.not_mem_nil
    · unfold classDeclared at mem
      split at mem
      · rw [List.mem_singleton] at mem
        subst mem
        exact importsIn_of_entity
      · exact absurd mem List.not_mem_nil
  split at mem
  · exact importsIn_of_mem_declaratorDeclared mem
  · unfold parametersDeclared at mem
    split at mem
    · obtain ⟨param, -, mem⟩ := List.mem_flatMap.1 mem
      exact importsIn_of_mem_parameterDeclared mem
    · exact absurd mem List.not_mem_nil
  · unfold arrowDeclared at mem
    split at mem
    · split at mem
      · rw [List.mem_singleton] at mem
        subst mem
        exact importsIn_of_variable
      · exact absurd mem List.not_mem_nil
    · exact absurd mem List.not_mem_nil
  · unfold catchDeclared at mem
    split at mem
    · exact importsIn_of_mem_patternDeclared mem
    · exact absurd mem List.not_mem_nil
  · unfold forInDeclared at mem
    split at mem
    · exact importsIn_of_mem_patternDeclared mem
    · exact absurd mem List.not_mem_nil
  · unfold importDeclared at mem
    split at mem
    · obtain ⟨item, -, mem⟩ := List.mem_flatMap.1 mem
      obtain ⟨names, -, rfl⟩ := List.mem_map.1 mem
      exact importsIn_of_scope
    · exact absurd mem List.not_mem_nil
  · obtain ⟨e, -, rfl⟩ := List.mem_map.1 mem
    exact importsIn_of_scope
  · exact absurd mem List.not_mem_nil

theorem importsIn_of_mem_declarations (mem : d ∈ f.declarations) : d.ImportsIn f.tree.key := by
  obtain ⟨before, c, after, -, mem⟩ := mem_declaredFrom_iff.1 mem
  exact importsIn_of_mem_declaredAt mem

end Source

/-! ## Look-ups and calls -/

namespace Module

variable {m : Module} {name : String} {site region : Cursor}

/-- A scope that binds a name to an import is the outermost one. -/
theorem scope_of_imported {f : Source} {scope : NodeKey} {specifier source : String}
    (bound : (index f).boundAt? scope name = some (.imported specifier source)) :
    scope = f.tree.key := by
  rw [boundAt?_index, Declared.first?_eq_some_iff] at bound
  obtain ⟨before, after, split, -⟩ := bound
  have mem : ⟨scope, name, .imported specifier source⟩ ∈ f.declarations := by
    rw [split]
    exact List.mem_append_right _ List.mem_cons_self
  exact Source.importsIn_of_mem_declarations mem specifier source rfl

/-- From inside a node that binds a name, a look-up of the name ends at the node or inside it. -/
theorem lookup?_of_bound (inside : region ∈ site.selfAndAncestors)
    (bound : (m.boundAt? region.key name).isSome = true) :
    ∃ scope b, scope ∈ site.selfAndAncestors ∧ region ∈ scope.selfAndAncestors ∧
      m.boundAt? scope.key name = some b ∧ m.lookup? name site = some b := by
  have found : (m.lookup? name site).isSome = true := by
    rw [lookup?, List.findSome?_isSome_iff]
    exact ⟨region, inside, bound⟩
  obtain ⟨b, found⟩ := Option.isSome_iff_exists.1 found
  obtain ⟨scope, ⟨inner, outer, way, unbound⟩, atScope⟩ := lookup?_eq_some_iff.1 found
  refine ⟨scope, b, ?_, ?_, atScope, found⟩
  · rw [way]
    exact List.mem_append_right _ List.mem_cons_self
  · -- the node is not one of those before the scope, since they do not bind the name
    rw [way, List.mem_append] at inside
    rcases inside with passed | further
    · rw [unbound region passed] at bound
      cases bound
    · rwa [Cursor.selfAndAncestors, Cursor.ancestors_of_split way]

end Module

namespace Program

variable {p : Program} {m : Module} {hops : Nat} {b : Binding} {qualified : String}

theorem valueOf_of_resolveCallee {callee : Cursor} (h : p.resolveCallee m callee = some qualified) :
    p.valueOf m callee = some (.entity (.function qualified)) := by
  unfold resolveCallee at h
  split at h
  · rename_i found
    cases h
    exact found
  · cases h

/-- A binding that denotes a function is its own, or that of a variable with a value that denotes the
function, or an import. -/
theorem resolveBinding_eq_function
    (h : p.resolveBinding (hops + 1) m b = some (.entity (.function qualified))) :
    b = .entity (.function qualified) ∨
      (∃ value, b = .variable none (some value) ∧
        p.resolveValue hops m value = some (.entity (.function qualified))) ∨
      ∃ specifier source, b = .imported specifier source := by
  cases b with
  | entity e =>
    rw [resolveBinding, Option.some.injEq, Symbol.entity.injEq] at h
    exact .inl (h ▸ rfl)
  | imported specifier source => exact .inr (.inr ⟨specifier, source, rfl⟩)
  | «variable» type value =>
    cases type with
    | some type =>
      rw [resolveBinding, Option.map_eq_some_iff] at h
      obtain ⟨cls, -, equal⟩ := h
      cases equal
    | none =>
      cases value with
      | none => cases h
      | some value =>
        rw [resolveBinding] at h
        split at h
        · obtain ⟨cls, -, equal⟩ := Option.map_eq_some_iff.1 h
          cases equal
        · split at h
          · exact .inr (.inl ⟨value, rfl, h⟩)
          · cases h

end Program

/-- A `var` shadows what its name means outside.  From every place inside the node that the `var`
reaches, a look-up of the name ends at that node or inside it, and so in the function.  A call of the
name there comes to a function only if that binding is the function's own, or a variable whose value
denotes the function. -/
theorem var_shadows_outside (p : Program) {f : Source} (isProgram : f.tree.kind = "program")
    (single : f.HasOneProgram) {function region : Cursor} {name : String}
    (reaches : f.VarReaches function name region) {site : Cursor} (within : f.root.Within site)
    (inside : region ∈ site.selfAndAncestors) :
    ∃ scope b, scope ∈ site.selfAndAncestors ∧ region ∈ scope.selfAndAncestors ∧
      function ∈ scope.selfAndAncestors ∧
      (Module.index f).boundAt? scope.key name = some b ∧
      (Module.index f).lookup? name site = some b ∧
      (site.kind = "identifier" → f.text site.node = name →
        ∀ qualified, p.resolveCallee (Module.index f) site = some qualified →
          b = .entity (.function qualified) ∨
            ∃ value, b = .variable none (some value) ∧
              p.resolveValue 31 (Module.index f) value = some (.entity (.function qualified))) := by
  have declares := Source.exists_declares_of_varReaches single reaches
  have bound : ((Module.index f).boundAt? region.key name).isSome = true := by
    rw [Module.boundAt?_index, Option.isSome_iff_ne_none, ne_eq, Declared.first?_eq_none_iff]
    obtain ⟨d, mem, targets⟩ := declares
    exact fun lacking => lacking d mem targets
  obtain ⟨scope, b, above, inRegion, atScope, found⟩ := Module.lookup?_of_bound inside bound
  have inFunction := Cursor.mem_selfAndAncestors_trans reaches.inside inRegion
  refine ⟨scope, b, above, inRegion, inFunction, atScope, found, ?_⟩
  intro kind text qualified called
  have denoted : p.resolveBinding 32 (Module.index f) b = some (.entity (.function qualified)) := by
    rw [← Program.resolveValue_identifier kind]
    · exact Program.valueOf_of_resolveCallee called
    · rw [Module.text, Module.index_source, text]
      exact found
  rcases Program.resolveBinding_eq_function denoted with own | value | ⟨specifier, source, rfl⟩
  · exact .inl own
  · exact .inr value
  · -- an import would be bound in the outermost scope, and that is no node of the function
    have top : scope.kind = "program" := by
      have key := Module.scope_of_imported atScope
      exact (congrArg NodeKey.kind key).trans isProgram
    have alone := single scope (within.of_mem_selfAndAncestors above) top
    rw [Cursor.selfAndAncestors, Cursor.ancestors_eq_nil_of_parent? alone, List.mem_singleton]
      at inRegion
    exact absurd (inRegion ▸ top) reaches.ne_program

/-- The file `a.ts` with a function `g` and two others that have a variable of that name, one in the
head of a loop and one in a block:
`function g(){}function f(s){for(var g of s){g()}g()}function h(){if(s){var{g}=s}g()}`. -/
def shadowingFile : Source where
  path := "a.ts"
  language := "typescript"
  bytes := Text.Utf8.encode "function g()\x7b\x7dfunction f(s)\x7b" ++
    Text.Utf8.encode "for(var g of s)\x7bg()\x7dg()\x7d" ++
    Text.Utf8.encode "function h()\x7bif(s)\x7bvar\x7bg\x7d=s\x7dg()\x7d"
  tree := ⟨"program", true, none, 0, 84,
    [⟨"function_declaration", true, none, 0, 14,
      [⟨"identifier", true, some "name", 9, 10, []⟩,
       ⟨"formal_parameters", true, some "parameters", 10, 12, []⟩,
       ⟨"statement_block", true, some "body", 12, 14, []⟩]⟩,
     ⟨"function_declaration", true, none, 14, 52,
      [⟨"identifier", true, some "name", 23, 24, []⟩,
       ⟨"formal_parameters", true, some "parameters", 24, 27, [⟨"identifier", true, none, 25, 26, []⟩]⟩,
       ⟨"statement_block", true, some "body", 27, 52,
        [⟨"for_in_statement", true, none, 28, 48,
          [⟨"var", false, some "kind", 32, 35, []⟩,
           ⟨"identifier", true, some "left", 36, 37, []⟩,
           ⟨"identifier", true, some "right", 41, 42, []⟩,
           ⟨"statement_block", true, some "body", 43, 48,
            [⟨"expression_statement", true, none, 44, 47,
              [⟨"call_expression", true, none, 44, 47,
                [⟨"identifier", true, some "function", 44, 45, []⟩,
                 ⟨"arguments", true, some "arguments", 45, 47, []⟩]⟩]⟩]⟩]⟩,
         ⟨"expression_statement", true, none, 48, 51,
          [⟨"call_expression", true, none, 48, 51,
            [⟨"identifier", true, some "function", 48, 49, []⟩,
             ⟨"arguments", true, some "arguments", 49, 51, []⟩]⟩]⟩]⟩]⟩,
     ⟨"function_declaration", true, none, 52, 84,
      [⟨"identifier", true, some "name", 61, 62, []⟩,
       ⟨"formal_parameters", true, some "parameters", 62, 64, []⟩,
       ⟨"statement_block", true, some "body", 64, 84,
        [⟨"if_statement", true, none, 65, 80,
          [⟨"parenthesized_expression", true, some "condition", 67, 70,
            [⟨"identifier", true, none, 68, 69, []⟩]⟩,
           ⟨"statement_block", true, some "consequence", 70, 80,
            [⟨"variable_declaration", true, none, 71, 79,
              [⟨"variable_declarator", true, none, 74, 79,
                [⟨"object_pattern", true, some "name", 74, 77,
                  [⟨"shorthand_property_identifier_pattern", true, none, 75, 76, []⟩]⟩,
                 ⟨"identifier", true, some "value", 78, 79, []⟩]⟩]⟩]⟩]⟩,
         ⟨"expression_statement", true, none, 80, 83,
          [⟨"call_expression", true, none, 80, 83,
            [⟨"identifier", true, some "function", 80, 81, []⟩,
             ⟨"arguments", true, some "arguments", 81, 83, []⟩]⟩]⟩]⟩]⟩]⟩

instance : (found : Option Binding) → Decidable (found = some .unknown)
  | some (.variable none none) => isTrue rfl
  | some (.variable (some _) _) | some (.variable none (some _)) | some (.entity _)
  | some (.imported _ _) | none => isFalse (by simp [Binding.unknown])

/-- The second function of the file has `g` in the head of a loop.  A call in the loop finds that
variable; behind the loop only the whole file binds the name, to the first function. -/
theorem shadowingFile_loop :
    ∃ function loop, shadowingFile.VarReaches function "g" loop ∧
      loop ∈ shadowingFile.root.walk ∧ function.parent? ≠ none ∧
      (∃ site ∈ loop.walk, site.kind = "identifier" ∧ shadowingFile.text site.node = "g" ∧
        (Module.index shadowingFile).lookup? "g" site = some .unknown) ∧
      ∃ site ∈ function.walk,
        (∀ scope ∈ site.selfAndAncestors, scope.parent? ≠ none →
          (Module.index shadowingFile).boundAt? scope.key "g" = none) ∧
        (Program.ofSources [shadowingFile]).resolveCallee (Module.index shadowingFile) site =
          some "\"a.ts\".g" := by
  have found : ∃ loop ∈ shadowingFile.root.walk, loop.kind = "for_in_statement" ∧
      (∃ keyword ∈ loop.child? "kind", keyword.kind = "var") ∧
      (∃ pattern ∈ loop.child? "left", "g" ∈ Pattern.introduced shadowingFile.text pattern.node) ∧
      (∃ site ∈ loop.walk, site.kind = "identifier" ∧ shadowingFile.text site.node = "g" ∧
        (Module.index shadowingFile).lookup? "g" site = some .unknown) ∧
      ∃ function ∈ loop.ancestors.find? (·.kind.isFunctionLike), function.parent?.isSome = true ∧
        ∃ site ∈ function.walk,
          (∀ scope ∈ site.selfAndAncestors, scope.parent?.isSome = true →
            ((Module.index shadowingFile).boundAt? scope.key "g").isNone = true) ∧
          (Program.ofSources [shadowingFile]).resolveCallee (Module.index shadowingFile) site =
            some "\"a.ts\".g" := by decide +kernel
  simp only [Option.isSome_iff_ne_none, Option.isNone_iff_eq_none] at found
  obtain ⟨loop, visited, isLoop, ⟨keyword, keywordPlace, isVar⟩, ⟨pattern, place, introduced⟩, inner,
    function, innermost, notTop, outer⟩ := found
  exact ⟨function, loop, .looped visited isLoop keywordPlace isVar innermost place introduced, visited,
    notTop, inner, outer⟩

/-- The third function has `g` in a block.  A call behind the block finds that variable. -/
theorem shadowingFile_block :
    ∃ function, shadowingFile.VarReaches function "g" function ∧
      function ∈ shadowingFile.root.walk ∧
      ∃ site ∈ function.walk, site.kind = "identifier" ∧ shadowingFile.text site.node = "g" ∧
        (Module.index shadowingFile).lookup? "g" site = some .unknown := by
  have found : ∃ declarator ∈ shadowingFile.root.walk, declarator.kind = "variable_declarator" ∧
      (∃ declaration ∈ declarator.parent?, declaration.kind = "variable_declaration") ∧
      (∃ pattern ∈ declarator.child? "name",
        "g" ∈ Pattern.introduced shadowingFile.text pattern.node) ∧
      ∃ function ∈ declarator.ancestors.find? (·.kind.isFunctionLike),
        ∃ site ∈ function.walk, site.kind = "identifier" ∧ shadowingFile.text site.node = "g" ∧
          (Module.index shadowingFile).lookup? "g" site = some .unknown := by decide +kernel
  obtain ⟨declarator, visited, isDeclarator, ⟨declaration, parent, isVar⟩,
    ⟨pattern, place, introduced⟩, function, innermost, site⟩ := found
  exact ⟨function, .declared visited isDeclarator parent isVar innermost place introduced,
    Cursor.mem_walk_of_mem_ancestors visited (List.mem_of_find?_eq_some innermost), site⟩

/-- The call in the loop and the call behind the block both come to nothing. -/
theorem var_shadows_outside_shadowingFile :
    (∃ function loop site, shadowingFile.VarReaches function "g" loop ∧
      loop ∈ site.selfAndAncestors ∧ site.kind = "identifier" ∧
      shadowingFile.text site.node = "g" ∧
      ∀ qualified, (Program.ofSources [shadowingFile]).resolveCallee (Module.index shadowingFile) site ≠
        some qualified) ∧
    ∃ function site, shadowingFile.VarReaches function "g" function ∧
      function ∈ site.selfAndAncestors ∧ site.kind = "identifier" ∧
      shadowingFile.text site.node = "g" ∧
      ∀ qualified, (Program.ofSources [shadowingFile]).resolveCallee (Module.index shadowingFile) site ≠
        some qualified := by
  have single : shadowingFile.HasOneProgram := Source.hasOneProgram_of_walk (by decide +kernel)
  -- a variable of which nothing is known is neither of the two bindings that lead to a function
  have unresolved {function region site : Cursor} (reaches : shadowingFile.VarReaches function "g" region)
      (visited : region ∈ shadowingFile.root.walk) (inside : site ∈ region.walk)
      (kind : site.kind = "identifier") (text : shadowingFile.text site.node = "g")
      (unknown : (Module.index shadowingFile).lookup? "g" site = some .unknown) (qualified : String) :
      (Program.ofSources [shadowingFile]).resolveCallee (Module.index shadowingFile) site ≠
        some qualified := by
    intro called
    have below := Cursor.within_of_mem_walk inside
    have within := (Cursor.within_of_mem_walk visited).trans below
    obtain ⟨_, b, -, -, -, -, found, calls⟩ := var_shadows_outside (Program.ofSources [shadowingFile])
      rfl single reaches within below.mem_selfAndAncestors
    rw [unknown, Option.some.injEq] at found
    subst found
    rcases calls kind text qualified called with own | ⟨value, held, -⟩
    · cases own
    · cases held
  constructor
  · obtain ⟨function, loop, reaches, visited, -, ⟨site, inside, kind, text, unknown⟩, -⟩ :=
      shadowingFile_loop
    exact ⟨function, loop, site, reaches, (Cursor.within_of_mem_walk inside).mem_selfAndAncestors,
      kind, text, unresolved reaches visited inside kind text unknown⟩
  · obtain ⟨function, reaches, visited, site, inside, kind, text, unknown⟩ := shadowingFile_block
    exact ⟨function, site, reaches, (Cursor.within_of_mem_walk inside).mem_selfAndAncestors,
      kind, text, unresolved reaches visited inside kind text unknown⟩

/-- The variable in the head of a loop is not hoisted.  Behind the loop, in the same function, no node
from the call up to the function binds its name, and the call comes to a function of that name
outside. -/
theorem loop_variable_not_hoisted :
    ∃ function loop site, shadowingFile.VarReaches function "g" loop ∧
      function ∈ site.selfAndAncestors ∧
      (∀ scope ∈ site.selfAndAncestors, function ∈ scope.selfAndAncestors →
        (Module.index shadowingFile).boundAt? scope.key "g" = none) ∧
      (Program.ofSources [shadowingFile]).resolveCallee (Module.index shadowingFile) site =
        some "\"a.ts\".g" := by
  obtain ⟨function, loop, reaches, -, notTop, -, site, inside, unbound, called⟩ := shadowingFile_loop
  refine ⟨function, loop, site, reaches, (Cursor.within_of_mem_walk inside).mem_selfAndAncestors, ?_,
    called⟩
  intro scope above inFunction
  refine unbound scope above ?_
  intro top
  rw [Cursor.selfAndAncestors, Cursor.ancestors_eq_nil_of_parent? top, List.mem_singleton] at inFunction
  exact notTop (inFunction ▸ top)

end RepoAudit
