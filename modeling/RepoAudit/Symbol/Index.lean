import RepoAudit.Symbol.Basic
import RepoAudit.Symbol.Name
import RepoAudit.Symbol.Pattern
import RepoAudit.Syntax.Walk
import RepoAudit.Text.Split

/-! # Indexing a module

One walk over the tree of a source file fills the tables of its module.  Each kind of node that
declares something has its own step; of two declarations of one name in one scope the first counts,
and of two exports of one name the last.

* `Module.index` – the index of a source file;
* `Module.visit` – the step for one node;
* `classSymbol?`, `objectSymbol?` – the tables of a class and of an object literal;
* `declaredNames` – the names that a declaration introduces for exports.
-/

namespace RepoAudit

open Syntax

/-! ## Classes -/

/-- The expression after `extends`.  Without an `extends` clause it is whatever stands in the
heritage other than an `implements` clause. -/
def heritage? (cls : Cursor) : Option Cursor :=
  let clauses := (cls.childrenOfKind "class_heritage").flatMap (·.namedChildren)
  match clauses.find? (·.kind != "implements_clause") with
  | none => none
  | some clause =>
    if clause.kind == "extends_clause" then (clause.child? "value").or clause.firstNamed?
    else some clause

namespace Source

variable (f : Source)

def declaresField (param : Cursor) : Bool :=
  param.children.any fun c =>
    c.kind == "accessibility_modifier" || c.kind == "override_modifier" || c.kind == "readonly"

/-- The field that a parameter of a constructor declares, with the node of its type. -/
def parameterField? (param : Cursor) : Option (String × Cursor) :=
  if param.kind.isParameter && declaresField param then
    match param.child? "pattern", param.child? "type" with
    | some pattern, some type =>
      if pattern.kind == "identifier" then some (f.text pattern.node, type) else none
    | _, _ => none
  else none

/-- The field that an assignment `this.x = new C()` gives a value, with the `new` expression. -/
def assignedField? (c : Cursor) : Option (String × Cursor) :=
  if c.kind == "assignment_expression" then
    match c.child? "left", c.child? "right" with
    | some left, some right =>
      if left.kind == "member_expression" && right.kind == "new_expression" then
        match left.child? "object", left.child? "property" with
        | some object, some property =>
          if object.kind == "this" then some (f.text property.node, right) else none
        | _, _ => none
      else none
    | _, _ => none
  else none

/-- The fields that a constructor declares: by its parameters, then by assignments in its body. -/
def constructorFields (ctor : Cursor) : List (String × Cursor) :=
  let params := ((ctor.child? "parameters").map (·.namedChildren)).getD []
  let body := ((ctor.child? "body").map (·.walk)).getD []
  params.filterMap f.parameterField? ++ body.filterMap f.assignedField?

/-- Adds fields to a table; a field that is there already stays. -/
def addFields (table : Table String Cursor) (fields : List (String × Cursor)) :
    Table String Cursor :=
  fields.foldl (fun t e => t.insertNew e.1 e.2) table

def addMember (cls : ClassSymbol) (member : Cursor) : ClassSymbol :=
  if member.kind == "method_definition" then
    match f.ownName? member, f.qualifiedName? member with
    | some name, some qualified =>
      let cls := { cls with methods := cls.methods.insertNew name qualified }
      if name == "constructor" then
        { cls with fields := addFields cls.fields (f.constructorFields member) }
      else cls
    | _, _ => cls
  else if member.kind.isField then
    match (member.child? "name").or (member.child? "property"),
        (member.child? "type").or (member.child? "value") with
    | some name, some typed =>
      { cls with fields := cls.fields.insertNew (f.text name.node) typed }
    | _, _ => cls
  else cls

/-- The tables of a class; nothing when the class cannot be named. -/
def classSymbol? (c : Cursor) : Option ClassSymbol :=
  (f.qualifiedName? c).map fun name =>
    let members := ((c.child? "body").map (·.namedChildren)).getD []
    members.foldl f.addMember
      { module := f.path, key := c.key, name := name, heritage := heritage? c }

/-! ## Object literals -/

def objectMember? (member : Cursor) : Option (String × Cursor) :=
  if member.kind == "method_definition" then
    (f.ownName? member).map fun name => (name, member)
  else if member.kind == "shorthand_property_identifier" then
    some (f.text member.node, member)
  else if member.kind == "pair" then
    match member.child? "key", member.child? "value" with
    | some key, some value =>
      if key.kind == "property_identifier" || key.kind == "string" then
        some (f.stringValue key.node, value)
      else none
    | _, _ => none
  else none

def objectSymbol? (c : Cursor) : Option ObjectSymbol :=
  (f.qualifiedName? c).map fun name =>
    { module := f.path, key := c.key, name := name
      members := addFields {} (c.namedChildren.filterMap f.objectMember?) }

/-! ## Declared names -/

/-- The name of a declarator, when it is a plain identifier. -/
def declaratorName? (c : Cursor) : Option String :=
  match c.child? "name" with
  | some name => if name.kind == "identifier" then some (f.text name.node) else none
  | none => none

/-- The names that a declaration introduces, as far as exports are concerned. -/
def declaredNames (c : Cursor) : List String :=
  if c.kind == "lexical_declaration" || c.kind == "variable_declaration" then
    (c.childrenOfKind "variable_declarator").filterMap f.declaratorName?
  else
    let target :=
      if c.kind == "expression_statement" then c.firstNamed?.getD c else c
    ((target.child? "name").map fun name => f.text name.node).toList

end Source

namespace Module

/-! ## One step for each kind of declaration -/

/-- Adds a class to the table and binds its name, unless its node is there already. -/
def indexClass (m : Module) (c : Cursor) : Module :=
  if m.classes.contains c.key then m
  else match m.source.classSymbol? c with
    | none => m
    | some cls =>
      let m := { m with classes := m.classes.insert c.key cls }
      if c.kind != "class" then
        match c.child? "name" with
        | some name =>
          m.bind (Source.scopeOf false c).key (m.text name) (.entity (.cls cls))
        | none => m
      else match c.parent? with
        | some parent =>
          if parent.kind == "export_statement" then
            m.bind m.source.tree.key defaultName (.entity (.cls cls))
          else m
        | none => m

def indexObject (m : Module) (c : Cursor) : Module :=
  if m.objects.contains c.key then m
  else match m.source.objectSymbol? c with
    | none => m
    | some object => { m with objects := m.objects.insert c.key object }

def indexFunction (m : Module) (c : Cursor) : Module :=
  match c.child? "name", m.source.qualifiedName? c with
  | some name, some qualified =>
    m.bind (Source.scopeOf false c).key (m.text name) (.entity (.function qualified))
  | _, _ => m

/-- Binds every name of a pattern as a variable of which nothing is known. -/
def bindPattern (m : Module) (scope : NodeKey) (pattern : Node) : Module :=
  (Pattern.names m.source.text pattern).foldl (fun m name => m.bind scope name .unknown) m

/-- Binds the names of a declarator.  A class or an object literal as its value is indexed at once,
so that the name stands for it; `var` binds in the function, everything else in the block. -/
def indexDeclarator (m : Module) (c : Cursor) : Module :=
  match c.child? "name" with
  | none => m
  | some name =>
    let scope := match c.parent? with
      | some declaration =>
        Source.scopeOf (declaration.kind == "variable_declaration") declaration
      | none => Source.scopeOf false c
    if name.kind != "identifier" then m.bindPattern scope.key name.node
    else
      let value := c.child? "value"
      let variableBinding := Binding.variable (c.child? "type") value
      match value with
      | some v =>
        if v.kind == "class" then
          let m := m.indexClass v
          let b := (m.classes.find? v.key).map fun cls => Binding.entity (.cls cls)
          m.bind scope.key (m.text name) (b.getD variableBinding)
        else if v.kind == "object" then
          let m := m.indexObject v
          let b := (m.objects.find? v.key).map fun object => Binding.entity (.object object)
          m.bind scope.key (m.text name) (b.getD variableBinding)
        else m.bind scope.key (m.text name) variableBinding
      | none => m.bind scope.key (m.text name) variableBinding

def indexParameter (function : NodeKey) (m : Module) (param : Cursor) : Module :=
  if param.kind.isParameter then
    match param.child? "pattern" with
    | some pattern =>
      if pattern.kind == "identifier" then
        m.bind function (m.text pattern) (.variable (param.child? "type") none)
      else m.bindPattern function pattern.node
    | none => m
  else m.bindPattern function param.node

def indexParameters (m : Module) (c : Cursor) : Module :=
  match c.parent? with
  | none => m
  | some function => c.namedChildren.foldl (indexParameter function.key) m

/-- Binds the parameter of an arrow function written without parentheses. -/
def indexArrow (m : Module) (c : Cursor) : Module :=
  match c.child? "parameter" with
  | some param =>
    if param.kind == "identifier" then m.bind c.key (m.text param) .unknown else m
  | none => m

def indexCatch (m : Module) (c : Cursor) : Module :=
  match c.child? "parameter" with
  | some param => m.bindPattern c.key param.node
  | none => m

/-- Binds the variable of a `for … in` or `for … of` loop, if the loop declares it. -/
def indexForIn (m : Module) (c : Cursor) : Module :=
  match c.child? "left", c.child? "kind" with
  | some left, some _ => m.bindPattern c.key left.node
  | _, _ => m

def indexImportItem (specifier : String) (m : Module) (item : Cursor) : Module :=
  let root := m.source.tree.key
  if item.kind == "identifier" then
    m.bind root (m.text item) (.imported specifier defaultName)
  else if item.kind == "namespace_import" then
    (item.childrenOfKind "identifier").foldl
      (fun m name => m.bind root (m.text name) (.imported specifier wholeModule)) m
  else if item.kind == "named_imports" then
    (item.childrenOfKind "import_specifier").foldl (fun m spec =>
      match spec.child? "name" with
      | none => m
      | some name =>
        let imported := m.source.stringValue name.node
        let localName := match spec.child? "alias" with
          | some other => m.text other
          | none => imported
        m.bind root localName (.imported specifier imported)) m
  else m

def indexImport (m : Module) (c : Cursor) : Module :=
  match c.child? "source" with
  | none => m
  | some source =>
    let specifier := m.source.stringValue source.node
    ((c.childrenOfKind "import_clause").flatMap (·.namedChildren)).foldl
      (indexImportItem specifier) m

def exportLocal (m : Module) (name : String) : Module :=
  { m with exportedLocals := Text.insertText m.exportedLocals name }

def exportAs (m : Module) (exported localName : String) : Module :=
  { m with exports := m.exports.insert exported localName }

def reexport (m : Module) (exported specifier imported : String) : Module :=
  { m with reexports := m.reexports.insert exported (specifier, imported) }

def reexportSpecifier (specifier : String) (m : Module) (spec : Cursor) : Module :=
  match spec.child? "name" with
  | none => m
  | some name =>
    let imported := m.source.stringValue name.node
    let exported := match spec.child? "alias" with
      | some other => m.source.stringValue other.node
      | none => imported
    m.reexport exported specifier imported

def exportSpecifier (m : Module) (spec : Cursor) : Module :=
  match spec.child? "name" with
  | none => m
  | some name =>
    let localName := m.text name
    let exported := match spec.child? "alias" with
      | some other => m.source.stringValue other.node
      | none => localName
    (m.exportLocal localName).exportAs exported localName

def exportSpecifiers (c : Cursor) : List Cursor :=
  (c.childrenOfKind "export_clause").flatMap (·.childrenOfKind "export_specifier")

/-- Records what an export statement passes on as a whole: a module under a name, or everything that
the module exports. -/
def reexportWhole (m : Module) (c : Cursor) (specifier : String) : Module :=
  match (c.childrenOfKind "namespace_export").head? with
  | some space => space.namedChildren.foldl
      (fun m name => m.reexport (m.source.stringValue name.node) specifier wholeModule) m
  | none =>
    if (c.childrenOfKind "export_clause").isEmpty then
      { m with starExports := m.starExports ++ [specifier] }
    else m

/-- Records an export statement that passes on what another module exports. -/
def indexReexport (m : Module) (c : Cursor) (specifier : String) : Module :=
  (exportSpecifiers c).foldl (reexportSpecifier specifier) (m.reexportWhole c specifier)

def indexDefaultValue (m : Module) (value : Cursor) : Module :=
  if value.kind == "identifier" then
    let localName := m.text value
    (m.exportLocal localName).exportAs defaultName localName
  else if value.kind.isFunctionExpression then
    match m.source.qualifiedName? value with
    | some qualified =>
      (m.bind m.source.tree.key defaultName (.entity (.function qualified))).exportAs
        defaultName defaultName
    | none => m
  else if value.kind == "class" then m.exportAs defaultName defaultName
  else if value.kind == "object" then
    let m := m.indexObject value
    let m := match m.objects.find? value.key with
      | some object => m.bind m.source.tree.key defaultName (.entity (.object object))
      | none => m
    m.exportAs defaultName defaultName
  else m

/-- Records what an export statement declares: under its own name, or as the default export. -/
def exportDeclared (m : Module) (isDefault : Bool) (c : Cursor) : Module :=
  match c.child? "declaration" with
  | some declaration => (m.source.declaredNames declaration).foldl
      (fun m name => m.exportAs (if isDefault then defaultName else name) name) m
  | none => m

def indexLocalExport (m : Module) (c : Cursor) : Module :=
  let m := (exportSpecifiers c).foldl exportSpecifier m
  let isDefault := c.children.any (·.kind == "default")
  let m := m.exportDeclared isDefault c
  match c.child? "value" with
  | some value => if isDefault then m.indexDefaultValue value else m
  | none => m

def indexExport (m : Module) (c : Cursor) : Module :=
  match c.child? "source" with
  | some source => m.indexReexport c (m.source.stringValue source.node)
  | none => m.indexLocalExport c

/-- Whether an assignment to this text exports something. -/
def isExportTarget (target : String) : Bool :=
  target == "module.exports" || Text.startsWith target "exports."
    || Text.startsWith target "module.exports."

def mentionedLocal? (m : Module) (member : Cursor) : Option String :=
  if member.kind == "shorthand_property_identifier" then some (m.text member)
  else if member.kind == "pair" then
    match member.child? "value" with
    | some value => if value.kind == "identifier" then some (m.text value) else none
    | none => none
  else none

def indexAssignment (m : Module) (c : Cursor) : Module :=
  match c.child? "left", c.child? "right" with
  | some left, some right =>
    if left.kind == "member_expression" && isExportTarget (m.text left) then
      if right.kind == "identifier" then m.exportLocal (m.text right)
      else if right.kind == "object" then
        (right.namedChildren.filterMap m.mentionedLocal?).foldl exportLocal m
      else m
    else m
  | _, _ => m

/-! ## The walk -/

def visit (m : Module) (c : Cursor) : Module :=
  if c.kind.isFunctionDeclaration then m.indexFunction c
  else if c.kind.isClass then m.indexClass c
  else match c.kind with
    | "object" => m.indexObject c
    | "variable_declarator" => m.indexDeclarator c
    | "formal_parameters" => m.indexParameters c
    | "arrow_function" => m.indexArrow c
    | "catch_clause" => m.indexCatch c
    | "for_in_statement" => m.indexForIn c
    | "import_statement" => m.indexImport c
    | "export_statement" => m.indexExport c
    | "assignment_expression" => m.indexAssignment c
    | _ => m

def index (f : Source) : Module :=
  f.root.walk.foldl visit { source := f }

end Module

end RepoAudit
