import RepoAudit.Proofs.Syntax.Tree
import RepoAudit.Proofs.Table
import RepoAudit.Symbol.Index

/-! # What indexing can do to a module

Every step of the walk that fills a module is made of a few changes: a name is bound, a class or an
object literal enters its table, or an export is recorded.  `Change` lists them with what is known
about the node at which they happen, so that a fact about the index is proved once for each change
and not once for each kind of node.

* `Module.Change` – one change at a node;
* `visit_changes` – the step for a node is a sequence of changes at that node;
* `index_induction` – what every change keeps, the index has.
-/

namespace RepoAudit.Module

open Syntax
open Relation (ReflTransGen)

/-! ## What binding a name does -/

theorem boundAt?_bind (m : Module) (scope scope' : NodeKey) (name name' : String) (b : Binding) :
    (m.bind scope name b).boundAt? scope' name' =
      if scope' = scope ∧ name' = name then some ((m.boundAt? scope name).getD b)
      else m.boundAt? scope' name' := by
  simp only [bind, boundAt?, Table.find?_alter]
  by_cases sameScope : scope' = scope
  · subst sameScope
    cases known : m.scopes.find? scope' with
    | none =>
      have nothing : ∀ k, ({} : Table String Binding).find? k = none := fun _ => rfl
      by_cases sameName : name' = name <;> simp [sameName, nothing]
    | some names => by_cases sameName : name' = name <;> simp [sameName]
  · simp [sameScope]

/-- A name that is bound after binding another stood there before, or is the one just bound. -/
theorem boundAt?_of_bind {m : Module} {scope scope' : NodeKey} {name name' : String} {b b' : Binding}
    (h : (m.bind scope name b).boundAt? scope' name' = some b') :
    m.boundAt? scope' name' = some b' ∨ (scope' = scope ∧ name' = name ∧ b' = b) := by
  rw [boundAt?_bind] at h
  split at h
  · rename_i same
    obtain ⟨rfl, rfl⟩ := same
    cases known : m.boundAt? scope' name' with
    | none =>
      rw [known] at h
      exact .inr ⟨rfl, rfl, by simpa using h.symm⟩
    | some former =>
      rw [known] at h
      exact .inl (by simpa using h)
  · exact .inl h

/-! ## The parts of a declarator -/

/-- The node in whose scope a declarator binds its names: `var` binds in the function, everything else
in the block. -/
def declaratorScope (c : Cursor) : Cursor :=
  match c.parent? with
  | some declaration => Source.scopeOf (declaration.kind == "variable_declaration") declaration
  | none => Source.scopeOf false c

def bindDeclared (m : Module) (scope : NodeKey) (c name : Cursor) : Module :=
  if name.kind != "identifier" then m.bindPattern scope name.node
  else
    let variableBinding := Binding.variable (c.child? "type") (c.child? "value")
    match c.child? "value" with
    | some v =>
      if v.kind == "class" then
        let b := ((m.indexClass v).classes.find? v.key).map fun cls => Binding.entity (.cls cls)
        (m.indexClass v).bind scope ((m.indexClass v).text name) (b.getD variableBinding)
      else if v.kind == "object" then
        let b := ((m.indexObject v).objects.find? v.key).map fun object => Binding.entity (.object object)
        (m.indexObject v).bind scope ((m.indexObject v).text name) (b.getD variableBinding)
      else m.bind scope (m.text name) variableBinding
    | none => m.bind scope (m.text name) variableBinding

theorem indexDeclarator_of_name {m : Module} {c name : Cursor} (h : c.child? "name" = some name) :
    m.indexDeclarator c = m.bindDeclared (declaratorScope c).key c name := by
  unfold indexDeclarator
  rw [h]
  rfl

/-! ## Changes -/

/-- One change that indexing the source file `f` makes at the node `c`. -/
inductive Change (f : Source) (c : Cursor) : Module → Module → Prop
  /-- A declared function gives its name to the scope it stands in. -/
  | function {m : Module} {name : Cursor} {qualified : String} :
      c.kind.isFunctionDeclaration = true → c.child? "name" = some name →
      f.qualifiedName? c = some qualified →
      Change f c m (m.bind (Source.scopeOf false c).key (f.text name.node)
        (.entity (.function qualified)))
  /-- A function expression as the default export is bound in the outermost scope. -/
  | defaultFunction {m : Module} {value : Cursor} {qualified : String} :
      c.kind = "export_statement" → c.child? "value" = some value →
      value.kind.isFunctionExpression = true → f.qualifiedName? value = some qualified →
      Change f c m (m.bind f.tree.key defaultName (.entity (.function qualified)))
  /-- A class enters the table of classes: the node itself, or the value of a declarator. -/
  | addClass {m : Module} {d : Cursor} {cls : ClassSymbol} :
      d = c ∨ d ∈ c.children → d.kind.isClass = true → m.classes.contains d.key = false →
      f.classSymbol? d = some cls →
      Change f c m { m with classes := m.classes.insert d.key cls }
  /-- An object literal enters the table of objects. -/
  | addObject {m : Module} {d : Cursor} {object : ObjectSymbol} :
      d = c ∨ d ∈ c.children → m.objects.contains d.key = false →
      f.objectSymbol? d = some object →
      Change f c m { m with objects := m.objects.insert d.key object }
  /-- A name is bound to a class of the table. -/
  | bindClass {m : Module} {key scope : NodeKey} {name : String} {cls : ClassSymbol} :
      m.classes.find? key = some cls → Change f c m (m.bind scope name (.entity (.cls cls)))
  /-- A name is bound to an object literal of the table. -/
  | bindObject {m : Module} {key scope : NodeKey} {name : String} {object : ObjectSymbol} :
      m.objects.find? key = some object →
      Change f c m (m.bind scope name (.entity (.object object)))
  /-- A name is bound to a variable. -/
  | bindVariable {m : Module} {scope : NodeKey} {name : String} {type value : Option Cursor} :
      Change f c m (m.bind scope name (.variable type value))
  /-- A name is bound to an import. -/
  | bindImport {m : Module} {scope : NodeKey} {name specifier imported : String} :
      Change f c m (m.bind scope name (.imported specifier imported))
  /-- An export mentions a local name without giving it a name outside. -/
  | mention {m : Module} {localName : String} : Change f c m (m.exportLocal localName)
  /-- An export list, or the default export of an identifier, mentions a local name. -/
  | exportNamed {m : Module} {exported localName : String} :
      Change f c m ((m.exportLocal localName).exportAs exported localName)
  /-- An export statement holds the declaration of the name. -/
  | exportDeclared {m : Module} {declaration : Cursor} {exported localName : String} :
      c.kind = "export_statement" → c.child? "declaration" = some declaration →
      localName ∈ f.declaredNames declaration → Change f c m (m.exportAs exported localName)
  /-- The default export is a value without a name of its own. -/
  | exportValue {m : Module} : Change f c m (m.exportAs defaultName defaultName)
  /-- A name is passed on from another module. -/
  | reexport {m : Module} {exported specifier imported : String} :
      Change f c m (m.reexport exported specifier imported)
  /-- Everything that another module exports is passed on. -/
  | star {m : Module} {specifier : String} :
      Change f c m { m with starExports := m.starExports ++ [specifier] }

abbrev Changes (f : Source) (c : Cursor) : Module → Module → Prop :=
  ReflTransGen (Change f c)

variable {f : Source} {c : Cursor} {m m' : Module}

theorem Change.source_eq (h : Change f c m m') : m'.source = m.source := by
  cases h <;> rfl

theorem Changes.source_eq (h : Changes f c m m') : m'.source = m.source := by
  induction h with
  | refl => rfl
  | tail _ last ih => exact last.source_eq.trans ih

/-- A loop whose every round makes changes makes changes. -/
theorem changes_foldl {α : Type} {g : Module → α → Module} {xs : List α} (source : m.source = f)
    (round : ∀ m x, x ∈ xs → m.source = f → Changes f c m (g m x)) :
    Changes f c m (xs.foldl g m) := by
  induction xs generalizing m with
  | nil => exact .refl
  | cons x rest ih =>
    have first := round m x (by simp) source
    refine first.trans (ih (first.source_eq.trans source) ?_)
    intro m x mem
    exact round m x (List.mem_cons_of_mem _ mem)

/-! ## The steps of the walk -/

theorem indexFunction_changes (source : m.source = f) (kind : c.kind.isFunctionDeclaration = true) :
    Changes f c m (m.indexFunction c) := by
  subst source
  unfold indexFunction
  split
  · rename_i name qualified hname hqualified
    exact .single (.function kind hname hqualified)
  · exact .refl

theorem indexClass_changes {d : Cursor} (source : m.source = f) (place : d = c ∨ d ∈ c.children)
    (kind : d.kind.isClass = true) : Changes f c m (m.indexClass d) := by
  subst source
  unfold indexClass
  split
  · exact .refl
  · rename_i absent
    split
    · exact .refl
    · rename_i cls hcls
      have added := Change.addClass (m := m) place kind (by simpa using absent) hcls
      -- the name is bound after the class entered the table
      have found : (m.classes.insert d.key cls).find? d.key = some cls := by simp
      refine ReflTransGen.head added ?_
      dsimp only
      split
      · split
        · exact .single (.bindClass found)
        · exact .refl
      · split
        · split
          · exact .single (.bindClass found)
          · exact .refl
        · exact .refl

theorem indexObject_changes {d : Cursor} (source : m.source = f) (place : d = c ∨ d ∈ c.children) :
    Changes f c m (m.indexObject d) := by
  subst source
  unfold indexObject
  split
  · exact .refl
  · rename_i absent
    split
    · exact .refl
    · rename_i object hobject
      exact .single (.addObject place (by simpa using absent) hobject)

theorem bindPattern_changes {scope : NodeKey} {pattern : Node} (source : m.source = f) :
    Changes f c m (m.bindPattern scope pattern) := by
  refine changes_foldl source ?_
  intro m name _ _
  exact .single .bindVariable

theorem indexDeclarator_changes (source : m.source = f) : Changes f c m (m.indexDeclarator c) := by
  unfold indexDeclarator
  split
  · exact .refl
  · dsimp only
    split
    · exact bindPattern_changes source
    · split
      · rename_i value hvalue
        have place := Cursor.mem_children_of_child? hvalue
        split
        · rename_i kind
          have isClass : value.kind.isClass = true := by
            rw [eq_of_beq kind]
            decide
          refine (indexClass_changes source (.inr place) isClass).trans (.single ?_)
          cases found : (m.indexClass value).classes.find? value.key with
          | none => exact .bindVariable
          | some cls => exact .bindClass found
        · split
          · refine (indexObject_changes source (.inr place)).trans (.single ?_)
            cases found : (m.indexObject value).objects.find? value.key with
            | none => exact .bindVariable
            | some object => exact .bindObject found
          · exact .single .bindVariable
      · exact .single .bindVariable

theorem indexParameter_changes {function : NodeKey} {param : Cursor} (source : m.source = f) :
    Changes f c m (indexParameter function m param) := by
  unfold indexParameter
  split
  · split
    · split
      · exact .single .bindVariable
      · exact bindPattern_changes source
    · exact .refl
  · exact bindPattern_changes source

theorem indexParameters_changes (source : m.source = f) : Changes f c m (m.indexParameters c) := by
  unfold indexParameters
  split
  · exact .refl
  · exact changes_foldl source fun _ _ _ => indexParameter_changes

theorem indexArrow_changes : Changes f c m (m.indexArrow c) := by
  unfold indexArrow
  split
  · split
    · exact .single .bindVariable
    · exact .refl
  · exact .refl

theorem indexCatch_changes (source : m.source = f) : Changes f c m (m.indexCatch c) := by
  unfold indexCatch
  split
  · exact bindPattern_changes source
  · exact .refl

theorem indexForIn_changes (source : m.source = f) : Changes f c m (m.indexForIn c) := by
  unfold indexForIn
  split
  · exact bindPattern_changes source
  · exact .refl

theorem indexImportItem_changes {specifier : String} {item : Cursor} (source : m.source = f) :
    Changes f c m (indexImportItem specifier m item) := by
  unfold indexImportItem
  dsimp only
  split
  · exact .single .bindImport
  · split
    · refine changes_foldl source ?_
      intro m name _ _
      exact .single .bindImport
    · split
      · refine changes_foldl source ?_
        intro m spec _ _
        split
        · exact .refl
        · exact .single .bindImport
      · exact .refl

theorem indexImport_changes (source : m.source = f) : Changes f c m (m.indexImport c) := by
  unfold indexImport
  split
  · exact .refl
  · exact changes_foldl source fun _ _ _ => indexImportItem_changes

/-! ## Export statements -/

theorem reexportSpecifier_changes {specifier : String} {spec : Cursor} :
    Changes f c m (reexportSpecifier specifier m spec) := by
  unfold reexportSpecifier
  split
  · exact .refl
  · exact .single .reexport

theorem reexportWhole_changes {specifier : String} (source : m.source = f) :
    Changes f c m (m.reexportWhole c specifier) := by
  unfold reexportWhole
  split
  · refine changes_foldl source ?_
    intro m name _ _
    exact .single .reexport
  · split
    · exact .single .star
    · exact .refl

theorem indexReexport_changes {specifier : String} (source : m.source = f) :
    Changes f c m (m.indexReexport c specifier) := by
  unfold indexReexport
  -- the names of the list come after what is passed on as a whole
  have whole : Changes f c m (m.reexportWhole c specifier) := reexportWhole_changes source
  refine whole.trans (changes_foldl (whole.source_eq.trans source) ?_)
  intro m spec _ _
  exact reexportSpecifier_changes

theorem exportSpecifier_changes {spec : Cursor} : Changes f c m (m.exportSpecifier spec) := by
  unfold exportSpecifier
  split
  · exact .refl
  · exact .single .exportNamed

theorem indexDefaultValue_changes {value : Cursor} (source : m.source = f)
    (kind : c.kind = "export_statement") (place : c.child? "value" = some value) :
    Changes f c m (m.indexDefaultValue value) := by
  subst source
  unfold indexDefaultValue
  dsimp only
  split
  · exact .single .exportNamed
  · split
    · rename_i isFunction
      split
      · rename_i qualified hqualified
        exact .tail (.single (.defaultFunction kind place isFunction hqualified)) .exportValue
      · exact .refl
    · split
      · exact .single .exportValue
      · split
        · have added : Changes m.source c m (m.indexObject value) :=
            indexObject_changes rfl (.inr (Cursor.mem_children_of_child? place))
          refine .tail ?_ .exportValue
          split
          · rename_i object found
            exact .tail added (.bindObject found)
          · exact added
        · exact .refl

theorem exportDeclared_changes {isDefault : Bool} (source : m.source = f)
    (kind : c.kind = "export_statement") : Changes f c m (m.exportDeclared isDefault c) := by
  unfold exportDeclared
  split
  · rename_i declaration place
    refine changes_foldl source ?_
    intro m' name mem _
    exact .single (.exportDeclared kind place (source ▸ mem))
  · exact .refl

theorem indexLocalExport_changes (source : m.source = f) (kind : c.kind = "export_statement") :
    Changes f c m (m.indexLocalExport c) := by
  unfold indexLocalExport
  dsimp only
  -- the list, then the declaration, then the default value; each starts where the last one ended
  have listed : Changes f c m ((exportSpecifiers c).foldl exportSpecifier m) :=
    changes_foldl source fun _ _ _ _ => exportSpecifier_changes
  generalize (exportSpecifiers c).foldl exportSpecifier m = m₁ at listed ⊢
  generalize c.children.any (·.kind == "default") = isDefault
  have declared : Changes f c m (m₁.exportDeclared isDefault c) :=
    listed.trans (exportDeclared_changes (listed.source_eq.trans source) kind)
  refine declared.trans ?_
  split
  · rename_i value place
    split
    · exact indexDefaultValue_changes (declared.source_eq.trans source) kind place
    · exact .refl
  · exact .refl

theorem indexExport_changes (source : m.source = f) (kind : c.kind = "export_statement") :
    Changes f c m (m.indexExport c) := by
  unfold indexExport
  split
  · exact indexReexport_changes source
  · exact indexLocalExport_changes source kind

theorem indexAssignment_changes (source : m.source = f) : Changes f c m (m.indexAssignment c) := by
  unfold indexAssignment
  split
  · split
    · split
      · exact .single .mention
      · split
        · refine changes_foldl source ?_
          intro m name _ _
          exact .single .mention
        · exact .refl
    · exact .refl
  · exact .refl

/-! ## The whole walk -/

/-- The step for a node is a sequence of changes at that node. -/
theorem visit_changes (source : m.source = f) : Changes f c m (m.visit c) := by
  unfold visit
  split
  · rename_i kind
    exact indexFunction_changes source kind
  · split
    · rename_i kind
      exact indexClass_changes source (.inl rfl) kind
    · split
      · exact indexObject_changes source (.inl rfl)
      · exact indexDeclarator_changes source
      · exact indexParameters_changes source
      · exact indexArrow_changes
      · exact indexCatch_changes source
      · exact indexForIn_changes source
      · exact indexImport_changes source
      · rename_i kind
        exact indexExport_changes source kind
      · exact indexAssignment_changes source
      · exact .refl

/-- What holds of a module and is kept by every change at the nodes holds after visiting them. -/
theorem visits_induction {I : Module → Prop} {visited : List Cursor} (source : m.source = f)
    (start : I m)
    (step : ∀ c ∈ visited, ∀ m m', m.source = f → Change f c m m' → I m → I m') :
    I (visited.foldl visit m) ∧ (visited.foldl visit m).source = f := by
  induction visited generalizing m with
  | nil => exact ⟨start, source⟩
  | cons c rest ih =>
    have changes : Changes f c m (m.visit c) := visit_changes source
    have kept : I (m.visit c) ∧ (m.visit c).source = f := by
      generalize m.visit c = reached at changes
      induction changes with
      | refl => exact ⟨start, source⟩
      | tail _ last ih =>
        exact ⟨step c (by simp) _ _ ih.2 last ih.1, last.source_eq.trans ih.2⟩
    exact ih kept.2 kept.1 fun c mem => step c (List.mem_cons_of_mem _ mem)

theorem visits_source {visited : List Cursor} (source : m.source = f) :
    (visited.foldl visit m).source = f :=
  (visits_induction (I := fun _ => True) source trivial fun _ _ _ _ _ _ _ => trivial).2

@[simp] theorem index_source (f : Source) : (index f).source = f :=
  visits_source rfl

@[simp] theorem index_path (f : Source) : (index f).path = f.path := by
  rw [path, index_source]

/-- What holds of a module without entries and is kept by every change at a visited node holds of the
index. -/
theorem index_induction {I : Module → Prop} (start : I { source := f })
    (step : ∀ c ∈ f.root.walk, ∀ m m', m.source = f → Change f c m m' → I m → I m') :
    I (index f) :=
  (visits_induction rfl start step).1

end RepoAudit.Module
