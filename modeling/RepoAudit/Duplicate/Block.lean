import RepoAudit.Source
import RepoAudit.Syntax.Kind
import RepoAudit.Syntax.Walk

/-! # Code blocks

The pieces of code that are worth comparing: functions, variables that hold a function, and classes.

* `CodeBlock` – a piece of code;
* `codeBlocks` – the pieces of a source file;
* `BlockError` – why they cannot be told.
-/

namespace RepoAudit

open Syntax

inductive BlockKind where
  | function
  | cls
  deriving Repr, DecidableEq, Inhabited

structure CodeBlock where
  path : String
  code : String
  kind : BlockKind
  name : Option String := none
  deriving Repr, DecidableEq, Inhabited

inductive BlockError where
  /-- A variable that holds a function stands in no declaration. -/
  | noDeclaration
  deriving Repr, DecidableEq

/-- The block of a node, if it is one.  A variable that holds a function is taken with the whole
declaration around it. -/
def codeBlock? (f : Source) (c : Cursor) : Except BlockError (Option CodeBlock) :=
  let name? := (c.child? "name").map fun name => f.text name.node
  if c.kind.isFunctionDeclaration then
    .ok (some { path := f.path, code := f.text c.node, kind := .function, name := name? })
  else if c.kind == "variable_declarator" then
    match c.child? "value", name? with
    | some value, some name =>
      if value.kind.isFunctionExpression then
        match c.parent? with
        | some declaration =>
          .ok (some { path := f.path, code := f.text declaration.node, kind := .function
                      name := some name })
        | none => .error .noDeclaration
      else .ok none
    | _, _ => .ok none
  else if c.kind.isClass && c.kind != "class" then
    .ok (some { path := f.path, code := f.text c.node, kind := .cls, name := name? })
  else .ok none

def codeBlocks (f : Source) : Except BlockError (List CodeBlock) :=
  (f.root.walk.mapM (codeBlock? f)).map (List.filterMap id)

def allCodeBlocks (sources : List Source) : Except BlockError (List CodeBlock) :=
  (sources.mapM codeBlocks).map List.flatten

end RepoAudit
