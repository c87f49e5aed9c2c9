import RepoAudit.Symbol.Index

/-! # Properties of declarations

Whether a declaration can be reached from outside its module, and whether a decorator is attached to
it.

* `Module.isExported` – the declaration, or something around it up to the next function, is
  exported;
* `isAnnotated` – a decorator is attached.
-/

namespace RepoAudit

open Syntax

namespace Module

/-- Whether a node stands directly in the module: a statement other than a declaration of
variables, or a declarator of such a declaration. -/
def isTopLevel (c : Cursor) : Bool :=
  match c.parent? with
  | none => false
  | some parent =>
    if c.kind == "variable_declarator" then
      (parent.parent?.map (·.kind)) == some "program"
    else parent.kind == "program" && c.kind != "lexical_declaration"
      && c.kind != "variable_declaration"

def localNames (m : Module) (c : Cursor) : List String :=
  if c.kind == "variable_declarator" then (m.source.declaratorName? c).toList
  else m.source.declaredNames c

/-- Whether a node stands directly in the module and declares a name that some export mentions. -/
def declaresExported (m : Module) (c : Cursor) : Bool :=
  isTopLevel c && (m.localNames c).any m.exportedLocals.contains

/-- Looks for an export marker along a way up, from a node outward.  The search stops at the root
and at the first function around the node it began with. -/
def exportedAlong (m : Module) (isStart : Bool) : List Cursor → Bool
  | [] => false
  | c :: above =>
    if c.kind == "program" then false
    else if !isStart && c.kind.isFunctionLike then false
    else match above with
      | [] => false
      | parent :: _ =>
        parent.kind == "export_statement" || m.declaresExported c || m.exportedAlong false above

/-- Whether a node, or a class, namespace or object around it, carries an export marker.  A function
inside an exported function cannot be reached from outside. -/
def isExported (m : Module) (c : Cursor) : Bool :=
  m.exportedAlong true c.selfAndAncestors

end Module

/-- Whether a decorator is attached to a node: as a child, or before it with only comments in
between. -/
def isAnnotated (c : Cursor) : Bool :=
  c.namedChildren.any (·.kind == "decorator") ||
    match (c.priorSiblings.dropWhile (·.kind == "comment")).head? with
    | some sibling => sibling.kind == "decorator"
    | none => false

end RepoAudit
