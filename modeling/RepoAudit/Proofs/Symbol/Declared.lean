import RepoAudit.Proofs.Symbol.Change

/-! # What the nodes of a file declare

The names that a file introduces, listed node after node in document order: for each name the scope in
which it stands and what it stands for there.  Nothing of the tables that indexing fills is used; the
only trace of them is that a class or an object literal is known by the key of its node, so that of two
nodes with one key the first stands for both.

* `Declared` – a name introduced in a scope;
* `Declared.first?` – the first declaration of a name in a scope, and what it says;
* `filed?` – the class or the object literal that a key stands for;
* `Source.declaredAt` – what one node declares, said for each kind of node;
* `Source.declarations` – what the nodes of a file declare.
-/

namespace RepoAudit

open Syntax

/-- A name introduced in a scope, with what it stands for there. -/
structure Declared where
  scope : NodeKey
  name : String
  binding : Binding

namespace Declared

def Targets (d : Declared) (scope : NodeKey) (name : String) : Prop :=
  d.scope = scope ∧ d.name = name

instance (d : Declared) (scope : NodeKey) (name : String) : Decidable (d.Targets scope name) :=
  inferInstanceAs (Decidable (_ ∧ _))

def at? (scope : NodeKey) (name : String) (d : Declared) : Option Binding :=
  if d.Targets scope name then some d.binding else none

def first? (ds : List Declared) (scope : NodeKey) (name : String) : Option Binding :=
  ds.findSome? (at? scope name)

variable {ds : List Declared} {d : Declared} {scope : NodeKey} {name : String} {b : Binding}

theorem at?_eq_some_iff : d.at? scope name = some b ↔ d = ⟨scope, name, b⟩ := by
  obtain ⟨scope', name', b'⟩ := d
  rw [at?, Option.ite_none_right_eq_some, Targets, Option.some.injEq, mk.injEq, and_assoc]

theorem at?_eq_none_iff : d.at? scope name = none ↔ ¬ d.Targets scope name := by
  simp [at?]

theorem first?_append (ds es : List Declared) (scope : NodeKey) (name : String) :
    first? (ds ++ es) scope name = (first? ds scope name).or (first? es scope name) :=
  List.findSome?_append

/-- The first declaration of a name in a scope stands behind declarations of others only. -/
theorem first?_eq_some_iff : first? ds scope name = some b ↔
    ∃ before after, ds = before ++ ⟨scope, name, b⟩ :: after ∧
      ∀ d ∈ before, ¬ d.Targets scope name := by
  rw [first?, List.findSome?_eq_some_iff]
  constructor
  · rintro ⟨before, d, after, split, found, others⟩
    rw [at?_eq_some_iff] at found
    subst found
    exact ⟨before, after, split, fun d mem => at?_eq_none_iff.1 (others d mem)⟩
  · rintro ⟨before, after, split, others⟩
    exact ⟨before, _, after, split, at?_eq_some_iff.2 rfl,
      fun d mem => at?_eq_none_iff.2 (others d mem)⟩

theorem first?_eq_none_iff : first? ds scope name = none ↔ ∀ d ∈ ds, ¬ d.Targets scope name := by
  simp only [first?, List.findSome?_eq_none_iff, at?_eq_none_iff]

/-- Of several names with one meaning in one scope the order does not matter. -/
theorem first?_map_names (names : List String) (scope scope' : NodeKey) (name : String) (b : Binding) :
    first? (names.map fun n => ⟨scope, n, b⟩) scope' name =
      if scope = scope' ∧ name ∈ names then some b else none := by
  induction names with
  | nil => simp [first?]
  | cons n rest ih =>
    rw [List.map_cons, first?, List.findSome?_cons, ← first?, ih, at?]
    by_cases sameScope : scope = scope' <;> by_cases sameName : n = name
    · simp [Targets, sameScope, sameName]
    · simp [Targets, sameScope, sameName, Ne.symm sameName]
    · simp [Targets, sameScope]
    · simp [Targets, sameScope]

end Declared

/-! ## What the nodes of a file declare -/

/-- The table of the first of several nodes that has this key and can be named. -/
def filed? {α : Type} (symbol? : Cursor → Option α) (met : List Cursor) (key : NodeKey) : Option α :=
  met.findSome? fun d => if key = d.key then symbol? d else none

theorem filed?_append {α : Type} (symbol? : Cursor → Option α) (met others : List Cursor)
    (key : NodeKey) :
    filed? symbol? (met ++ others) key = (filed? symbol? met key).or (filed? symbol? others key) :=
  List.findSome?_append

theorem filed?_singleton {α : Type} (symbol? : Cursor → Option α) (d : Cursor) (key : NodeKey) :
    filed? symbol? [d] key = if key = d.key then symbol? d else none := by
  rw [filed?, List.findSome?_singleton]

/-- A table gets an entry for a node that can be named and whose key is free. -/
theorem find?_insert_filed {α : Type} {symbol? : Cursor → Option α} {t : Table NodeKey α} {d : Cursor}
    {s : α} (free : t.contains d.key = false) (symbol : symbol? d = some s) (key : NodeKey) :
    (t.insert d.key s).find? key = (t.find? key).or (filed? symbol? [d] key) := by
  rw [Table.contains, Option.isSome_eq_false_iff, Option.isNone_iff_eq_none] at free
  rw [Table.find?_insert, filed?_singleton, symbol]
  by_cases same : key = d.key
  · rw [if_pos same, if_pos same, same, free, Option.none_or]
  · rw [if_neg same, if_neg same, Option.or_none]

/-- A table has nothing to gain from a node that cannot be named or whose key is taken. -/
theorem find?_filed {α : Type} {symbol? : Cursor → Option α} {t : Table NodeKey α} {d : Cursor}
    (h : t.contains d.key = true ∨ symbol? d = none) (key : NodeKey) :
    t.find? key = (t.find? key).or (filed? symbol? [d] key) := by
  rw [filed?_singleton]
  by_cases same : key = d.key
  · subst same
    rcases h with taken | unnamed
    · obtain ⟨s, found⟩ := Option.isSome_iff_exists.1 taken
      rw [found, Option.some_or]
    · rw [if_pos rfl, unnamed, Option.or_none]
  · rw [if_neg same, Option.or_none]

namespace Source

/-- The value of a declarator with a plain name, if it is of this kind. -/
def initialiser? (kind : Kind) (c : Cursor) : Option Cursor :=
  if c.kind == "variable_declarator" && (c.child? "name").any (·.kind == "identifier") then
    (c.child? "value").filter (·.kind == kind)
  else none

def defaultValue? (c : Cursor) : Option Cursor :=
  if c.kind == "export_statement" && (c.child? "source").isNone
      && c.children.any (·.kind == "default") then
    c.child? "value"
  else none

/-- The classes met at a node: the node itself, or the class after the name of a declarator. -/
def classesMet (c : Cursor) : List Cursor :=
  if c.kind.isClass then [c] else (initialiser? "class" c).toList

/-- The object literals met at a node: the node itself, or the one after the name of a declarator, or
the one exported by default. -/
def objectsMet (c : Cursor) : List Cursor :=
  if c.kind == "object" then [c]
  else (initialiser? "object" c).toList ++ ((defaultValue? c).filter (·.kind == "object")).toList

variable (f : Source)

/-- The class that a key stands for once some nodes were visited. -/
def classAfter? (visited : List Cursor) (key : NodeKey) : Option ClassSymbol :=
  filed? f.classSymbol? (visited.flatMap classesMet) key

def objectAfter? (visited : List Cursor) (key : NodeKey) : Option ObjectSymbol :=
  filed? f.objectSymbol? (visited.flatMap objectsMet) key

/-- The names of a pattern are variables of which nothing is known. -/
def patternDeclared (scope : NodeKey) (pattern : Node) : List Declared :=
  (Pattern.introduced f.text pattern).map fun name => ⟨scope, name, .unknown⟩

/-- A declared function that can be named stands in the scope around it. -/
def functionDeclared (c : Cursor) : List Declared :=
  match c.child? "name", f.qualifiedName? c with
  | some name, some qualified =>
    [⟨(scopeOf false c).key, f.text name.node, .entity (.function qualified)⟩]
  | _, _ => []

/-- Where a class has its name: a declared class in the scope around it; a class as a value only when
it stands in an export statement, and then as the default export. -/
def classPlace? (c : Cursor) : Option (NodeKey × String) :=
  if c.kind != "class" then
    (c.child? "name").map fun name => ((scopeOf false c).key, f.text name.node)
  else if c.parent?.any (·.kind == "export_statement") then some (f.tree.key, defaultName)
  else none

/-- A class that can be named and has a place for its name. -/
def classDeclared (c : Cursor) : List Declared :=
  match f.classSymbol? c, f.classPlace? c with
  | some cls, some place => [⟨place.1, place.2, .entity (.cls cls)⟩]
  | _, _ => []

/-- What a declarator says about a plain name: the class or the object literal that the key of its
value stands for, or else a variable. -/
def declaratorBinding (class? : NodeKey → Option ClassSymbol)
    (object? : NodeKey → Option ObjectSymbol) (c : Cursor) : Binding :=
  let entity? := (c.child? "value").bind fun v =>
    if v.kind == "class" then (class? v.key).map Entity.cls
    else if v.kind == "object" then (object? v.key).map Entity.object
    else none
  (entity?.map Binding.entity).getD (.variable (c.child? "type") (c.child? "value"))

/-- The names of a declarator stand in the function for `var`, else in the block. -/
def declaratorDeclared (class? : NodeKey → Option ClassSymbol)
    (object? : NodeKey → Option ObjectSymbol) (c : Cursor) : List Declared :=
  match c.child? "name" with
  | some name =>
    if name.kind == "identifier" then
      [⟨(Module.declaratorScope c).key, f.text name.node, declaratorBinding class? object? c⟩]
    else f.patternDeclared (Module.declaratorScope c).key name.node
  | none => []

def parameterDeclared (function : NodeKey) (param : Cursor) : List Declared :=
  if param.kind.isParameter then
    match param.child? "pattern" with
    | some pattern =>
      if pattern.kind == "identifier" then
        [⟨function, f.text pattern.node, .variable (param.child? "type") none⟩]
      else f.patternDeclared function pattern.node
    | none => []
  else f.patternDeclared function param.node

/-- Parameters stand in the node that owns the list of them. -/
def parametersDeclared (c : Cursor) : List Declared :=
  match c.parent? with
  | some function => c.namedChildren.flatMap (f.parameterDeclared function.key)
  | none => []

/-- The parameter of an arrow function without parentheses stands in the arrow function. -/
def arrowDeclared (c : Cursor) : List Declared :=
  match c.child? "parameter" with
  | some param => if param.kind == "identifier" then [⟨c.key, f.text param.node, .unknown⟩] else []
  | none => []

/-- The parameter of a `catch` clause stands in the clause. -/
def catchDeclared (c : Cursor) : List Declared :=
  match c.child? "parameter" with
  | some param => f.patternDeclared c.key param.node
  | none => []

/-- The variable of a `for … in` or `for … of` loop that declares it stands in the loop. -/
def forInDeclared (c : Cursor) : List Declared :=
  match c.child? "left", c.child? "kind" with
  | some left, some _ => f.patternDeclared c.key left.node
  | _, _ => []

/-- The local name that one item of an import list gives to a name of the other module. -/
def importedName? (spec : Cursor) : Option (String × String) :=
  (spec.child? "name").map fun name =>
    (((spec.child? "alias").map fun other => f.text other.node).getD (f.stringValue name.node),
      f.stringValue name.node)

def importedNames (item : Cursor) : List (String × String) :=
  if item.kind == "identifier" then [(f.text item.node, defaultName)]
  else if item.kind == "namespace_import" then
    (item.childrenOfKind "identifier").map fun name => (f.text name.node, wholeModule)
  else if item.kind == "named_imports" then
    (item.childrenOfKind "import_specifier").filterMap f.importedName?
  else []

/-- What an import statement brings in stands in the outermost scope. -/
def importDeclared (c : Cursor) : List Declared :=
  match c.child? "source" with
  | some source =>
    ((c.childrenOfKind "import_clause").flatMap (·.namedChildren)).flatMap fun item =>
      (f.importedNames item).map fun names =>
        ⟨f.tree.key, names.1, .imported (f.stringValue source.node) names.2⟩
  | none => []

/-- What a value exported by default stands for: a function that can be named, or the object literal
that its key stands for. -/
def defaultEntity? (object? : NodeKey → Option ObjectSymbol) (value : Cursor) : Option Entity :=
  if value.kind.isFunctionExpression then (f.qualifiedName? value).map .function
  else if value.kind == "object" then (object? value.key).map .object
  else none

/-- What is exported by default stands in the outermost scope. -/
def defaultEntry (e : Entity) : Declared :=
  ⟨f.tree.key, defaultName, .entity e⟩

def defaultDeclared (object? : NodeKey → Option ObjectSymbol) (c : Cursor) : List Declared :=
  ((defaultValue? c).bind (f.defaultEntity? object?)).toList.map f.defaultEntry

/-- What a node declares when it comes after some others.  Those matter only for the classes and
object literals met before: a class is passed over if its key stands for one already. -/
def declaredAt (earlier : List Cursor) (c : Cursor) : List Declared :=
  if c.kind.isFunctionDeclaration then f.functionDeclared c
  else if c.kind.isClass then
    if (f.classAfter? earlier c.key).isSome then [] else f.classDeclared c
  else match c.kind with
    | "variable_declarator" =>
      f.declaratorDeclared (f.classAfter? (earlier ++ [c])) (f.objectAfter? (earlier ++ [c])) c
    | "formal_parameters" => f.parametersDeclared c
    | "arrow_function" => f.arrowDeclared c
    | "catch_clause" => f.catchDeclared c
    | "for_in_statement" => f.forInDeclared c
    | "import_statement" => f.importDeclared c
    | "export_statement" => f.defaultDeclared (f.objectAfter? (earlier ++ [c])) c
    | _ => []

def declaredFrom (earlier : List Cursor) : List Cursor → List Declared
  | [] => []
  | c :: rest => f.declaredAt earlier c ++ declaredFrom (earlier ++ [c]) rest

/-- What the nodes of a file declare, in document order. -/
def declarations : List Declared :=
  f.declaredFrom [] f.root.preorder

/-- What the first declaration of a name in a scope says, the others before it being of other names or
in other scopes. -/
def DeclaresFirst (scope : NodeKey) (name : String) (b : Binding) : Prop :=
  ∃ before after, f.declarations = before ++ ⟨scope, name, b⟩ :: after ∧
    ∀ d ∈ before, ¬ d.Targets scope name

end Source

end RepoAudit
