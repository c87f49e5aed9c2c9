import RepoAudit.Source
import RepoAudit.Syntax.Kind

/-! # Qualified names

A declaration is named by the path of its module and by everything that encloses it: functions,
classes, namespaces and object literals.  A function without a name is labelled by its position; a
class or an object without a name, and a computed member, cannot be named, and neither can anything
inside them.

* `ownName?` – what a node contributes to names;
* `nameParts?` – the contributions from the outside in;
* `qualifiedName?` – the whole name;
* `scopeOf` – the node whose scope a declaration belongs to.
-/

namespace RepoAudit.Source

open Syntax

variable (f : Source)

/-- The name that an expression takes from the place where it is bound: a variable, a field, a
property or the default export. -/
def boundName? (c : Cursor) : Option String :=
  match c.parent? with
  | none => none
  | some parent =>
    if parent.kind == "variable_declarator" then
      match parent.child? "name" with
      | some name => if name.kind == "identifier" then some (f.text name.node) else none
      | none => none
    else if parent.kind.isField then
      match (parent.child? "name").or (parent.child? "property") with
      | some name =>
        if name.kind == "property_identifier" || name.kind == "private_property_identifier" then
          some (f.text name.node)
        else none
      | none => none
    else if parent.kind == "pair" && (parent.child? "value").map (·.key) == some c.key then
      match parent.child? "key" with
      | some key =>
        if key.kind == "property_identifier" then some (f.text key.node)
        else if key.kind == "string" then some (f.stringValue key.node)
        else none
      | none => none
    else if parent.kind == "export_statement" then some "default"
    else none

/-- The label of a function without a name: the line and the byte column where it starts. -/
def positionLabel (n : Node) : String :=
  "<anonymous:" ++ toString (f.firstLine n) ++ ":" ++ toString (f.column n.start) ++ ">"

/-- What a container or a declaration contributes to qualified names; nothing when it cannot be
named. -/
def ownName? (c : Cursor) : Option String :=
  if c.kind.isFunctionDeclaration || c.kind.isNamespace || c.kind == "class_declaration"
      || c.kind == "abstract_class_declaration" then
    (c.child? "name").map fun name => f.text name.node
  else if c.kind == "method_definition" then
    match c.child? "name" with
    | none => none
    | some name =>
      if name.kind == "computed_property_name" then none
      else if name.kind == "string" then some (f.stringValue name.node)
      else some (f.text name.node)
  else
    match f.boundName? c with
    | some name => some name
    | none => if c.kind.isFunctionExpression then some (f.positionLabel c.node) else none

def containers (c : Cursor) : List Cursor :=
  (c.ancestors.takeWhile (·.kind != "program")).filter (·.kind.isContainer)

/-- The own names of the containers around a node and of the node, from the outside in. -/
def nameParts? (c : Cursor) : Option (List String) :=
  ((c :: containers c).mapM f.ownName?).map List.reverse

def modulePart : String :=
  "\"" ++ f.path ++ "\"."

/-- The qualified name of a node; nothing when the node or something around it cannot be named. -/
def qualifiedName? (c : Cursor) : Option String :=
  (f.nameParts? c).map fun parts => f.modulePart ++ ".".intercalate parts

/-- The name of the code of a module outside every function. -/
def moduleScopeName : String :=
  f.modulePart ++ "<module>"

/-- Whether a node opens a scope; with `functionsOnly`, blocks do not count. -/
def opensScope (functionsOnly : Bool) (c : Cursor) : Bool :=
  c.kind == "program" || c.kind.isFunctionLike || (!functionsOnly && c.kind.isBlock)

/-- The nearest node strictly above that opens a scope, or the node itself when there is none. -/
def scopeOf (functionsOnly : Bool) (c : Cursor) : Cursor :=
  (c.ancestors.find? (opensScope functionsOnly)).getD c

end RepoAudit.Source
