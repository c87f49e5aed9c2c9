import Mathlib.Data.List.Basic
import RepoAudit.Proofs.Symbol.Declared
import RepoAudit.Proofs.Symbol.Lookup
import RepoAudit.Proofs.Symbol.Pattern

/-! # Which declaration of a name counts

The scopes of a module are filled while the tree is walked, some classes and object literals ahead of
the walk.  For each name a scope ends up with the first of the declarations that the nodes of the file
make in document order.

* `Module.Adds` – a step that adds declarations, classes and object literals to a module;
* `indexClass_adds`, `indexDeclarator_adds`, … – what the step for each kind of node adds;
* `visit_adds`, `visits_add` – the step for any node, and the walk;
* `scopes_hold_first` – a scope holds the first declaration, and a look-up finds the nearest.
-/

namespace RepoAudit

open Syntax

/-! ## What the steps of the walk add -/

namespace Module

/-- A step that adds declarations, classes and object literals; what a module has already stays. -/
structure Adds (f : Source) (ds : List Declared) (cs os : List Cursor) (m m' : Module) : Prop where
  source : m'.source = m.source
  classes : ∀ key, m'.classes.find? key = (m.classes.find? key).or (filed? f.classSymbol? cs key)
  objects : ∀ key, m'.objects.find? key = (m.objects.find? key).or (filed? f.objectSymbol? os key)
  bound : ∀ scope name,
    m'.boundAt? scope name = (m.boundAt? scope name).or (Declared.first? ds scope name)

variable {f : Source} {c : Cursor} {m m' m'' : Module} {ds es : List Declared}
  {cs cs' os os' : List Cursor}

namespace Adds

/-- A step that leaves scopes, classes and object literals alone. -/
theorem of_eq (source : m'.source = m.source) (scopes : m'.scopes = m.scopes)
    (classes : m'.classes = m.classes) (objects : m'.objects = m.objects) : Adds f [] [] [] m m' where
  source := source
  classes key := by simp [classes, filed?]
  objects key := by simp [objects, filed?]
  bound scope name := by simp [boundAt?, scopes, Declared.first?]

theorem refl : Adds f [] [] [] m m :=
  of_eq rfl rfl rfl rfl

theorem trans (h : Adds f ds cs os m m') (h' : Adds f es cs' os' m' m'') :
    Adds f (ds ++ es) (cs ++ cs') (os ++ os') m m'' where
  source := h'.source.trans h.source
  classes key := by rw [h'.classes, h.classes, filed?_append, Option.or_assoc]
  objects key := by rw [h'.objects, h.objects, filed?_append, Option.or_assoc]
  bound scope name := by rw [h'.bound, h.bound, Declared.first?_append, Option.or_assoc]

theorem bind (m : Module) (scope : NodeKey) (name : String) (b : Binding) :
    Adds f [⟨scope, name, b⟩] [] [] m (m.bind scope name b) where
  source := rfl
  classes key := by simp [Module.bind, filed?]
  objects key := by simp [Module.bind, filed?]
  bound scope' name' := by
    rw [boundAt?_bind, Declared.first?, List.findSome?_singleton, Declared.at?]
    by_cases same : scope = scope' ∧ name = name'
    · obtain ⟨rfl, rfl⟩ := same
      cases m.boundAt? scope name <;> simp [Declared.Targets]
    · have other : ¬ (scope' = scope ∧ name' = name) := fun h => same ⟨h.1.symm, h.2.symm⟩
      simp [Declared.Targets, same, other]

/-- What counts of the declarations is the first one for each name. -/
theorem of_first?_eq (h : Adds f ds cs os m m')
    (same : ∀ scope name, Declared.first? ds scope name = Declared.first? es scope name) :
    Adds f es cs os m m' :=
  { h with bound := fun scope name => by rw [h.bound, same] }

/-- A loop adds what its rounds add. -/
theorem foldl {α : Type} {step : Module → α → Module} {declared : α → List Declared}
    (source : m.source = f)
    (round : ∀ m x, m.source = f → Adds f (declared x) [] [] m (step m x)) (xs : List α) :
    Adds f (xs.flatMap declared) [] [] m (xs.foldl step m) := by
  induction xs generalizing m with
  | nil => exact refl
  | cons x rest ih =>
    have first := round m x source
    exact first.trans (ih (first.source.trans source))

/-- A loop that leaves scopes, classes and object literals alone. -/
theorem foldl_nothing {α : Type} {step : Module → α → Module}
    (round : ∀ m x, Adds f [] [] [] m (step m x)) (xs : List α) :
    Adds f [] [] [] m (xs.foldl step m) := by
  induction xs generalizing m with
  | nil => exact refl
  | cons x rest ih => exact (round m x).trans ih

end Adds

theorem indexFunction_adds (source : m.source = f) :
    Adds f (f.functionDeclared c) [] [] m (m.indexFunction c) := by
  subst source
  unfold indexFunction Source.functionDeclared
  cases c.child? "name" with
  | none => exact .refl
  | some name =>
    cases m.source.qualifiedName? c with
    | none => exact .refl
    | some qualified => exact .bind ..

/-- A class enters the table and its name a scope, unless its key is taken. -/
theorem indexClass_adds (source : m.source = f) :
    Adds f (if m.classes.contains c.key then [] else f.classDeclared c) [c] [] m (m.indexClass c) := by
  subst source
  unfold indexClass
  split
  · rename_i taken
    exact { Adds.refl with classes := find?_filed (.inl taken) }
  · rename_i free
    rw [Bool.not_eq_true] at free
    cases symbol : m.source.classSymbol? c with
    | none =>
      simp only [Source.classDeclared, symbol]
      exact { Adds.refl with classes := find?_filed (.inr symbol) }
    | some cls =>
      -- the class is in the table before its name is bound, if it has a place for one
      have entered : Adds m.source [] [c] [] m { m with classes := m.classes.insert c.key cls } :=
        { Adds.refl (f := m.source) (m := m) with classes := find?_insert_filed free symbol }
      by_cases isValue : c.kind = "class"
      · cases parent : c.parent? with
        | none =>
          simp only [Source.classDeclared, symbol, Source.classPlace?, isValue, parent]
          exact entered
        | some outer =>
          simp only [Source.classDeclared, symbol, Source.classPlace?, isValue, parent,
            Option.any_some, bne_self_eq_false, Bool.false_eq_true, if_false]
          cases outer.kind == "export_statement" with
          | true => exact entered.trans (.bind ..)
          | false => exact entered
      · cases name : c.child? "name" with
        | none =>
          simp only [Source.classDeclared, symbol, Source.classPlace?, bne_iff_ne, ne_eq, isValue,
            not_false_eq_true, if_true, name, Option.map_none]
          exact entered
        | some name =>
          simp only [Source.classDeclared, symbol, Source.classPlace?, bne_iff_ne, ne_eq, isValue,
            not_false_eq_true, if_true, name, Option.map_some]
          exact entered.trans (.bind ..)

/-- An object literal enters the table, unless its key is taken. -/
theorem indexObject_adds (source : m.source = f) : Adds f [] [] [c] m (m.indexObject c) := by
  subst source
  unfold indexObject
  split
  · rename_i taken
    exact { Adds.refl with objects := find?_filed (.inl taken) }
  · rename_i free
    rw [Bool.not_eq_true] at free
    split
    · rename_i symbol
      exact { Adds.refl with objects := find?_filed (.inr symbol) }
    · rename_i symbol
      exact { Adds.refl (f := m.source) (m := m) with objects := find?_insert_filed free symbol }

theorem bindPattern_adds (source : m.source = f) (scope : NodeKey) (pattern : Node) :
    Adds f (f.patternDeclared scope pattern) [] [] m (m.bindPattern scope pattern) := by
  subst source
  have searched : Adds m.source ((Pattern.names m.source.text pattern).flatMap
      fun name => [⟨scope, name, .unknown⟩]) [] [] m (m.bindPattern scope pattern) :=
    .foldl rfl (fun m name _ => .bind m scope name .unknown) _
  -- the search comes to the names in another order, but they all stand for the same
  refine searched.of_first?_eq ?_
  intro scope' name
  rw [← List.map_eq_flatMap, Declared.first?_map_names, Source.patternDeclared,
    Declared.first?_map_names]
  simp only [Pattern.mem_names_iff]

theorem indexParameter_adds (source : m.source = f) (function : NodeKey) (param : Cursor) :
    Adds f (f.parameterDeclared function param) [] [] m (indexParameter function m param) := by
  unfold indexParameter Source.parameterDeclared
  cases param.kind.isParameter with
  | false => exact bindPattern_adds source function param.node
  | true =>
    cases param.child? "pattern" with
    | none => exact .refl
    | some pattern =>
      dsimp only
      cases pattern.kind == "identifier" with
      | false => exact bindPattern_adds source function pattern.node
      | true =>
        subst source
        exact .bind ..

theorem indexParameters_adds (source : m.source = f) :
    Adds f (f.parametersDeclared c) [] [] m (m.indexParameters c) := by
  unfold indexParameters Source.parametersDeclared
  cases c.parent? with
  | none => exact .refl
  | some function =>
    exact .foldl source (fun m param source => indexParameter_adds source function.key param) _

theorem indexArrow_adds (source : m.source = f) :
    Adds f (f.arrowDeclared c) [] [] m (m.indexArrow c) := by
  subst source
  unfold indexArrow Source.arrowDeclared
  cases c.child? "parameter" with
  | none => exact .refl
  | some param =>
    dsimp only
    cases param.kind == "identifier" with
    | false => exact .refl
    | true => exact .bind ..

theorem indexCatch_adds (source : m.source = f) :
    Adds f (f.catchDeclared c) [] [] m (m.indexCatch c) := by
  unfold indexCatch Source.catchDeclared
  cases c.child? "parameter" with
  | none => exact .refl
  | some param => exact bindPattern_adds source c.key param.node

theorem indexForIn_adds (source : m.source = f) :
    Adds f (f.forInDeclared c) [] [] m (m.indexForIn c) := by
  unfold indexForIn Source.forInDeclared
  cases c.child? "left" with
  | none => exact .refl
  | some left =>
    cases c.child? "kind" with
    | none => exact .refl
    | some kind => exact bindPattern_adds source c.key left.node

theorem indexImportItem_adds (source : m.source = f) (specifier : String) (item : Cursor) :
    Adds f ((f.importedNames item).map fun names =>
      ⟨f.tree.key, names.1, .imported specifier names.2⟩) [] [] m (indexImportItem specifier m item) := by
  unfold indexImportItem Source.importedNames
  dsimp only
  split
  · subst source
    exact .bind ..
  · split
    · rw [List.map_map, List.map_eq_flatMap, source]
      refine .foldl source (fun m name source => ?_) _
      subst source
      exact .bind ..
    · split
      · rw [List.map_filterMap, List.filterMap_eq_flatMap_toList, source]
        refine .foldl source (fun m spec source => ?_) _
        subst source
        cases name : spec.child? "name" with
        | none =>
          simp only [Source.importedName?, name, Option.map_none, Option.toList_none]
          exact .refl
        | some name =>
          cases renamed : spec.child? "alias" with
          | none =>
            simp only [Source.importedName?, name, renamed, Option.map_none, Option.map_some,
              Option.getD_none, Option.toList_some]
            exact .bind ..
          | some other =>
            simp only [Source.importedName?, name, renamed, Option.map_some, Option.getD_some,
              Option.toList_some]
            exact .bind ..
      · exact .refl

theorem indexImport_adds (source : m.source = f) :
    Adds f (f.importDeclared c) [] [] m (m.indexImport c) := by
  subst source
  unfold indexImport Source.importDeclared
  cases c.child? "source" with
  | none => exact .refl
  | some specifier =>
    exact .foldl rfl (fun m' item source => indexImportItem_adds source _ item) _

/-! ## Export statements -/

theorem indexReexport_adds (specifier : String) : Adds f [] [] [] m (m.indexReexport c specifier) := by
  have whole : Adds f [] [] [] m (m.reexportWhole c specifier) := by
    unfold reexportWhole
    split
    · refine .foldl_nothing (fun m name => ?_) _
      exact .of_eq rfl rfl rfl rfl
    · split
      · exact .of_eq rfl rfl rfl rfl
      · exact .refl
  refine whole.trans (.foldl_nothing (fun m spec => ?_) _)
  unfold reexportSpecifier
  split
  · exact .refl
  · exact .of_eq rfl rfl rfl rfl

/-- The lists and declarations of an export statement leave the scopes alone. -/
theorem exportDeclared_adds (isDefault : Bool) :
    Adds f [] [] [] m (((exportSpecifiers c).foldl exportSpecifier m).exportDeclared isDefault c) := by
  have listed : Adds f [] [] [] m ((exportSpecifiers c).foldl exportSpecifier m) := by
    refine .foldl_nothing (fun m spec => ?_) _
    unfold exportSpecifier
    split
    · exact .refl
    · exact .of_eq rfl rfl rfl rfl
  refine listed.trans ?_
  unfold exportDeclared
  split
  · refine .foldl_nothing (fun m name => ?_) _
    exact .of_eq rfl rfl rfl rfl
  · exact .refl

theorem indexAssignment_adds : Adds f [] [] [] m (m.indexAssignment c) := by
  unfold indexAssignment
  split
  · split
    · split
      · exact .of_eq rfl rfl rfl rfl
      · split
        · refine .foldl_nothing (fun m name => ?_) _
          exact .of_eq rfl rfl rfl rfl
        · exact .refl
    · exact .refl
  · exact .refl

theorem indexDefaultValue_function (source : m.source = f) {value : Cursor}
    (isFunction : value.kind.isFunctionExpression = true) :
    Adds f (((f.qualifiedName? value).map .function).toList.map f.defaultEntry) [] [] m
      (m.indexDefaultValue value) := by
  subst source
  have noName : value.kind ≠ "identifier" :=
    ne_of_apply_ne Kind.isFunctionExpression (by rw [isFunction]; decide)
  simp only [indexDefaultValue, beq_iff_eq, noName, isFunction, if_false, if_true]
  cases m.source.qualifiedName? value with
  | none => exact .refl
  | some qualified => exact (Adds.bind ..).trans (.of_eq rfl rfl rfl rfl)

/-- An object literal exported by default enters the table before its key is looked up. -/
theorem indexDefaultValue_object (source : m.source = f) {value : Cursor}
    (isObject : value.kind = "object") :
    Adds f ((((m.indexDefaultValue value).objects.find? value.key).map .object).toList.map
      f.defaultEntry) [] [value] m (m.indexDefaultValue value) := by
  have entered : Adds f [] [] [value] m (m.indexObject value) := indexObject_adds source
  have outermost : (m.indexObject value).source = f := entered.source.trans source
  have named : m.indexDefaultValue value =
      (((m.indexObject value).objects.find? value.key).elim (m.indexObject value) fun o =>
        (m.indexObject value).bind f.tree.key defaultName (.entity (.object o))).exportAs
        defaultName defaultName := by
    rw [← outermost, indexDefaultValue]
    simp only [isObject]
    cases (m.indexObject value).objects.find? value.key <;> rfl
  rw [named]
  cases found : (m.indexObject value).objects.find? value.key with
  | none =>
    simp only [Option.elim_none, exportAs, found]
    exact entered.trans (.of_eq rfl rfl rfl rfl)
  | some o =>
    simp only [Option.elim_some, exportAs, bind, found]
    exact (entered.trans (.bind ..)).trans (.of_eq rfl rfl rfl rfl)

theorem indexDefaultValue_other {value : Cursor}
    (noFunction : value.kind.isFunctionExpression = false) (noObject : value.kind ≠ "object") :
    Adds f [] [] [] m (m.indexDefaultValue value) := by
  simp only [indexDefaultValue, noFunction, beq_iff_eq, noObject, Bool.false_eq_true, if_false]
  split
  · exact .of_eq rfl rfl rfl rfl
  · split
    · exact .of_eq rfl rfl rfl rfl
    · exact .refl

/-- An export statement declares the value of a default export, and nothing else. -/
theorem indexExport_adds (source : m.source = f) (kind : c.kind = "export_statement") :
    Adds f (f.defaultDeclared (m.indexExport c).objects.find? c) []
      ((Source.defaultValue? c).filter (·.kind == "object")).toList m (m.indexExport c) := by
  unfold indexExport
  cases passed : c.child? "source" with
  | some specifier =>
    have noValue : Source.defaultValue? c = none := by simp [Source.defaultValue?, passed]
    simp only [Source.defaultDeclared, noValue]
    exact indexReexport_adds _
  | none =>
    simp only [indexLocalExport]
    have quiet := exportDeclared_adds (f := f) (m := m) (c := c) (c.children.any (·.kind == "default"))
    generalize exportDeclared _ _ c = m₁ at quiet ⊢
    cases place : c.child? "value" with
    | none =>
      have noValue : Source.defaultValue? c = none := by simp [Source.defaultValue?, place]
      simp only [Source.defaultDeclared, noValue]
      exact quiet
    | some value =>
      cases isDefault : c.children.any (·.kind == "default") with
      | false =>
        have noValue : Source.defaultValue? c = none := by simp [Source.defaultValue?, isDefault]
        simp only [Source.defaultDeclared, noValue]
        exact quiet
      | true =>
        have exported : Source.defaultValue? c = some value := by
          simp only [Source.defaultValue?, kind, passed, isDefault, place, beq_self_eq_true,
            Option.isNone_none, Bool.and_self, if_true]
        have source₁ : m₁.source = f := quiet.source.trans source
        simp only [Source.defaultDeclared, exported, Option.bind_some, Source.defaultEntity?,
          Option.filter_some, beq_iff_eq, if_true]
        cases isFunction : value.kind.isFunctionExpression with
        | true =>
          have noObject : value.kind ≠ "object" :=
            ne_of_apply_ne Kind.isFunctionExpression (by rw [isFunction]; decide)
          simp only [if_true, noObject, if_false]
          exact quiet.trans (indexDefaultValue_function source₁ isFunction)
        | false =>
          by_cases isObject : value.kind = "object"
          · simp only [Bool.false_eq_true, if_false, isObject, if_true]
            exact quiet.trans (indexDefaultValue_object source₁ isObject)
          · simp only [Bool.false_eq_true, if_false, isObject]
            exact quiet.trans (indexDefaultValue_other isFunction isObject)

/-! ## Declarators -/

theorem initialiser?_eq_none {kind : Kind}
    (noName : (c.child? "name").any (·.kind == "identifier") = false) :
    Source.initialiser? kind c = none := by
  simp [Source.initialiser?, noName]

theorem initialiser?_of_name {kind : Kind} (declarator : c.kind = "variable_declarator")
    (plain : (c.child? "name").any (·.kind == "identifier") = true) :
    Source.initialiser? kind c = (c.child? "value").filter (·.kind == kind) := by
  simp [Source.initialiser?, declarator, plain]

/-- A class as the value of a declarator enters the table ahead of the walk.  It gets no name by that:
the declarator is no export statement. -/
theorem indexClass_of_value (source : m.source = f) {v : Cursor}
    (declarator : c.kind = "variable_declarator") (place : c.child? "value" = some v)
    (isClass : v.kind = "class") : Adds f [] [v] [] m (m.indexClass v) := by
  have parent := Cursor.parent?_of_mem_children (Cursor.mem_children_of_child? place)
  have noPlace : f.classPlace? v = none := by simp [Source.classPlace?, isClass, parent, declarator]
  have nothing : f.classDeclared v = [] := by
    rw [Source.classDeclared, noPlace]
    cases f.classSymbol? v <;> rfl
  have entered := indexClass_adds (c := v) source
  rwa [nothing, ite_self] at entered

/-- For a plain name the value of the declarator is filed first, and then the name is bound to what
the key of the value stands for. -/
theorem bindDeclared_eq (source : m.source = f) (declarator : c.kind = "variable_declarator")
    (scope : NodeKey) {name : Cursor} (plain : name.kind = "identifier") :
    ∃ m₁, Adds f [] ((c.child? "value").filter (·.kind == "class")).toList
        ((c.child? "value").filter (·.kind == "object")).toList m m₁ ∧
      m.bindDeclared scope c name = m₁.bind scope (f.text name.node)
        (Source.declaratorBinding m₁.classes.find? m₁.objects.find? c) := by
  subst source
  cases place : c.child? "value" with
  | none =>
    refine ⟨m, .refl, ?_⟩
    simp [bindDeclared, Source.declaratorBinding, plain, place, text]
  | some v =>
    by_cases isClass : v.kind = "class"
    · have entered : Adds m.source [] [v] [] m (m.indexClass v) :=
        indexClass_of_value rfl declarator place isClass
      refine ⟨m.indexClass v, by simpa [Option.filter_some, isClass] using entered, ?_⟩
      simp [bindDeclared, Source.declaratorBinding, plain, place, isClass, text, entered.source,
        Function.comp_def]
    · by_cases isObject : v.kind = "object"
      · have entered : Adds m.source [] [] [v] m (m.indexObject v) := indexObject_adds rfl
        refine ⟨m.indexObject v, by simpa [Option.filter_some, isObject] using entered, ?_⟩
        simp [bindDeclared, Source.declaratorBinding, plain, place, isObject, text, entered.source,
          Function.comp_def]
      · refine ⟨m, by simpa [Option.filter_some, isClass, isObject] using Adds.refl, ?_⟩
        simp [bindDeclared, Source.declaratorBinding, plain, place, isClass, isObject, text]

/-- A declarator declares its names, and files a class or an object literal as its value. -/
theorem indexDeclarator_adds (source : m.source = f) (declarator : c.kind = "variable_declarator") :
    Adds f (f.declaratorDeclared (m.indexDeclarator c).classes.find?
        (m.indexDeclarator c).objects.find? c)
      (Source.initialiser? "class" c).toList (Source.initialiser? "object" c).toList m
      (m.indexDeclarator c) := by
  cases place : c.child? "name" with
  | none =>
    have noName : (c.child? "name").any (·.kind == "identifier") = false := by simp [place]
    simp only [indexDeclarator, Source.declaratorDeclared, place, initialiser?_eq_none noName]
    exact .refl
  | some name =>
    rw [indexDeclarator_of_name place]
    by_cases plain : name.kind = "identifier"
    · have isName : (c.child? "name").any (·.kind == "identifier") = true := by simp [place, plain]
      obtain ⟨m₁, filed, step⟩ := bindDeclared_eq source declarator (declaratorScope c).key plain
      rw [step, initialiser?_of_name declarator isName, initialiser?_of_name declarator isName]
      simp only [Source.declaratorDeclared, place, plain, beq_self_eq_true, if_true]
      have bound := filed.trans (.bind m₁ (declaratorScope c).key (f.text name.node)
        (Source.declaratorBinding m₁.classes.find? m₁.objects.find? c))
      rw [List.append_nil, List.append_nil] at bound
      exact bound
    · have noName : (c.child? "name").any (·.kind == "identifier") = false := by simp [place, plain]
      simp only [bindDeclared, Source.declaratorDeclared, place, initialiser?_eq_none noName,
        bne_iff_ne, ne_eq, plain, not_false_eq_true, if_true, beq_iff_eq, if_false]
      exact bindPattern_adds source _ _

/-! ## The walk -/

/-- A module whose tables hold the classes and object literals met at some nodes. -/
structure Follows (f : Source) (visited : List Cursor) (m : Module) : Prop where
  source : m.source = f
  classes : ∀ key, m.classes.find? key = f.classAfter? visited key
  objects : ∀ key, m.objects.find? key = f.objectAfter? visited key

theorem Follows.step {visited : List Cursor} (h : Follows f visited m)
    (step : Adds f ds (Source.classesMet c) (Source.objectsMet c) m m') :
    Follows f (visited ++ [c]) m' where
  source := step.source.trans h.source
  classes key := by
    rw [step.classes, h.classes, Source.classAfter?, Source.classAfter?, List.flatMap_append,
      filed?_append, List.flatMap_singleton]
  objects key := by
    rw [step.objects, h.objects, Source.objectAfter?, Source.objectAfter?, List.flatMap_append,
      filed?_append, List.flatMap_singleton]

/-- The kinds of nodes, other than those of classes, at which a class or an object literal is met. -/
def meetingKinds : List Kind :=
  ["object", "variable_declarator", "export_statement"]

/-- At a node of any other kind that is no class nothing is filed. -/
theorem Adds.of_quiet (quiet : c.kind.isClass = false ∧ c.kind ∉ meetingKinds)
    (step : Adds f ds [] [] m m') : Adds f ds (Source.classesMet c) (Source.objectsMet c) m m' := by
  simp only [meetingKinds, List.mem_cons, List.not_mem_nil, or_false, not_or] at quiet
  have met : Source.classesMet c = [] ∧ Source.objectsMet c = [] := by
    simp [Source.classesMet, Source.objectsMet, Source.initialiser?, Source.defaultValue?, quiet]
  rw [met.1, met.2]
  exact step

theorem objectsMet_of_isClass (isClass : c.kind.isClass = true) : Source.objectsMet c = [] := by
  have other (kind : Kind) (noClass : kind.isClass = false) : c.kind ≠ kind :=
    ne_of_apply_ne Kind.isClass (by rw [isClass, noClass]; decide)
  simp [Source.objectsMet, Source.initialiser?, Source.defaultValue?, other "object" rfl,
    other "variable_declarator" rfl, other "export_statement" rfl]

/-- The step for a declarator: it looks its value up after filing it. -/
theorem visit_declarator {visited : List Cursor} (h : Follows f visited m)
    (kind : c.kind = "variable_declarator") :
    Adds f (f.declaratorDeclared (f.classAfter? (visited ++ [c])) (f.objectAfter? (visited ++ [c])) c)
      (Source.classesMet c) (Source.objectsMet c) m (m.indexDeclarator c) := by
  have noClass : Kind.isClass "variable_declarator" = false := rfl
  have met : Source.classesMet c = (Source.initialiser? "class" c).toList ∧
      Source.objectsMet c = (Source.initialiser? "object" c).toList := by
    simp [Source.classesMet, Source.objectsMet, Source.defaultValue?, kind, noClass]
  have step := indexDeclarator_adds h.source kind
  rw [← met.1, ← met.2] at step
  -- the tables after the step are those of one more node visited
  rwa [funext (h.step step).classes, funext (h.step step).objects] at step

/-- The step for an export statement: it looks the value of a default export up after filing it. -/
theorem visit_export {visited : List Cursor} (h : Follows f visited m)
    (kind : c.kind = "export_statement") :
    Adds f (f.defaultDeclared (f.objectAfter? (visited ++ [c])) c) (Source.classesMet c)
      (Source.objectsMet c) m (m.indexExport c) := by
  have noClass : Kind.isClass "export_statement" = false := rfl
  have met : Source.classesMet c = [] ∧
      Source.objectsMet c = ((Source.defaultValue? c).filter (·.kind == "object")).toList := by
    simp [Source.classesMet, Source.objectsMet, Source.initialiser?, kind, noClass]
  have step := indexExport_adds h.source kind
  rw [← met.1, ← met.2] at step
  rwa [funext (h.step step).objects] at step

/-- The step for a node adds what the node declares, and files what is met at it. -/
theorem visit_adds {visited : List Cursor} (h : Follows f visited m) :
    Adds f (f.declaredAt visited c) (Source.classesMet c) (Source.objectsMet c) m (m.visit c) := by
  unfold visit
  split
  · rename_i isFunction
    rw [Source.declaredAt, if_pos isFunction]
    refine .of_quiet ?_ (indexFunction_adds h.source)
    simp only [Kind.isFunctionDeclaration, Kind.functionDeclarations, List.contains_iff_mem,
      List.mem_cons, List.not_mem_nil, or_false] at isFunction
    rcases isFunction with kind | kind
    · rw [kind]
      decide
    · rw [kind]
      decide
  · rename_i noFunction
    split
    · rename_i isClass
      rw [Source.declaredAt, if_neg noFunction, if_pos isClass, ← h.classes, ← Table.contains,
        Source.classesMet, if_pos isClass, objectsMet_of_isClass isClass]
      exact indexClass_adds h.source
    · rename_i noClass
      rw [Source.declaredAt, if_neg noFunction, if_neg noClass]
      rw [Bool.not_eq_true] at noClass
      split
      · rename_i kind
        rw [kind]
        exact visit_declarator h kind
      · rename_i kind
        rw [kind]
        exact .of_quiet (by rw [kind]; decide) (indexParameters_adds h.source)
      · rename_i kind
        rw [kind]
        exact .of_quiet (by rw [kind]; decide) (indexArrow_adds h.source)
      · rename_i kind
        rw [kind]
        exact .of_quiet (by rw [kind]; decide) (indexCatch_adds h.source)
      · rename_i kind
        rw [kind]
        exact .of_quiet (by rw [kind]; decide) (indexForIn_adds h.source)
      · rename_i kind
        rw [kind]
        exact .of_quiet (by rw [kind]; decide) (indexImport_adds h.source)
      · rename_i kind
        rw [kind]
        exact visit_export h kind
      · -- nodes of the other kinds declare nothing, but an object literal is filed
        rename_i noDeclarator _ _ _ _ _ noExport
        split <;> try contradiction
        · rename_i kind
          rw [kind] at noClass
          have met : Source.classesMet c = [] ∧ Source.objectsMet c = [c] := by
            simp [Source.classesMet, Source.objectsMet, Source.initialiser?, kind, noClass]
          rw [met.1, met.2]
          exact indexObject_adds h.source
        · rename_i kind
          exact .of_quiet (by rw [kind]; decide) indexAssignment_adds
        · rename_i noObject _ _ _ _ _ _ _ _
          refine .of_quiet ⟨noClass, ?_⟩ .refl
          simp only [meetingKinds, List.mem_cons, List.not_mem_nil, or_false, not_or]
          exact ⟨noObject, noDeclarator, noExport⟩

/-- Visiting nodes in order adds what they declare in order. -/
theorem visits_add {visited : List Cursor} (h : Follows f visited m) (cs : List Cursor)
    (scope : NodeKey) (name : String) :
    (cs.foldl visit m).boundAt? scope name =
      (m.boundAt? scope name).or (Declared.first? (f.declaredFrom visited cs) scope name) := by
  induction cs generalizing m visited with
  | nil => simp [Source.declaredFrom, Declared.first?]
  | cons c rest ih =>
    have step := visit_adds (c := c) h
    rw [List.foldl_cons, ih (h.step step), step.bound, Source.declaredFrom, Declared.first?_append,
      Option.or_assoc]

/-- A scope of a module holds the first declaration of each name. -/
theorem boundAt?_index (f : Source) (scope : NodeKey) (name : String) :
    (index f).boundAt? scope name = Declared.first? f.declarations scope name := by
  have start : Follows f [] { source := f } := ⟨rfl, fun _ => rfl, fun _ => rfl⟩
  rw [index, visits_add start, Source.declarations, Cursor.walk_eq_preorder]
  rfl

end Module

/-- The scopes of a file hold its declarations, the first one for each name.

* A scope has a name exactly when some node declares the name there.
* It holds what the first such declaration in document order says.
* A look-up finds the first declaration in the nearest node, from the site up, that has one. -/
theorem scopes_hold_first (f : Source) (name : String) :
    (∀ scope, ((Module.index f).boundAt? scope name).isSome ↔
      ∃ d ∈ f.declarations, d.Targets scope name) ∧
    (∀ scope b, (Module.index f).boundAt? scope name = some b ↔ f.DeclaresFirst scope name b) ∧
    ∀ site b, (Module.index f).lookup? name site = some b ↔
      ∃ inner node outer, site.selfAndAncestors = inner ++ node :: outer ∧
        (∀ c ∈ inner, ∀ d ∈ f.declarations, ¬ d.Targets c.key name) ∧
        f.DeclaresFirst node.key name b := by
  have holds (scope : NodeKey) (b : Binding) :
      (Module.index f).boundAt? scope name = some b ↔ f.DeclaresFirst scope name b := by
    rw [Module.boundAt?_index, Declared.first?_eq_some_iff, Source.DeclaresFirst]
  have lacks (scope : NodeKey) : (Module.index f).boundAt? scope name = none ↔
      ∀ d ∈ f.declarations, ¬ d.Targets scope name := by
    rw [Module.boundAt?_index, Declared.first?_eq_none_iff]
  refine ⟨?_, holds, ?_⟩
  · intro scope
    rw [← not_iff_not, Bool.not_eq_true, Option.isSome_eq_false_iff, Option.isNone_iff_eq_none, lacks]
    simp
  · intro site b
    simp only [Module.lookup?_eq_some_iff, Module.Sees, lacks, holds]
    constructor
    · rintro ⟨node, ⟨inner, outer, way, unbound⟩, first⟩
      exact ⟨inner, node, outer, way, unbound, first⟩
    · rintro ⟨inner, node, outer, way, unbound, first⟩
      exact ⟨node, ⟨inner, outer, way, unbound⟩, first⟩

/-- The file `a.ts` with the text `export = class{}`, which has no default export. -/
def exportAssignment : Source where
  path := "a.ts"
  language := "typescript"
  bytes := Text.Utf8.encode "export = class\x7b\x7d"
  tree := ⟨"program", true, none, 0, 16, [
    ⟨"export_statement", true, none, 0, 16, [
      ⟨"export", false, none, 0, 6, []⟩,
      ⟨"=", false, none, 7, 8, []⟩,
      ⟨"class", true, none, 9, 16, [
        ⟨"class", false, none, 9, 14, []⟩,
        ⟨"class_body", true, some "body", 14, 16, []⟩]⟩]⟩]⟩

/-- A class that an export statement makes the whole of what a module exports counts as the default
export, in a file that has none. -/
theorem whole_export_binds_default :
    (∀ c ∈ exportAssignment.root.preorder, c.children.all (·.kind != "default") = true) ∧
      ((Module.index exportAssignment).boundAt? exportAssignment.tree.key "default").isSome = true := by
  decide +kernel

end RepoAudit
