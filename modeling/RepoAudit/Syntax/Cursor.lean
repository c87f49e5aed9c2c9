import RepoAudit.Syntax.Node

/-! # Nodes in their place

A cursor is a node together with the way up to the root of its tree.  Names, scopes and owners all
depend on what encloses a node, so the analyses pass cursors around rather than bare nodes.

* `Cursor` – a node and its ancestors;
* `Cursor.ancestors` – everything strictly above, nearest first;
* `Cursor.namedChildren`, `Cursor.child?` – one step down;
* `Cursor.priorSiblings` – the named siblings before a node.
-/

namespace RepoAudit.Syntax

/-- One step of the way up: the parent, and its children before the one we came from, nearest
first. -/
structure Step where
  parent : Node
  before : List Node
  deriving Repr, Inhabited

/-- A node with the way up to its root. -/
structure Cursor where
  node : Node
  above : List Step := []
  deriving Repr, Inhabited

namespace Cursor

def root (n : Node) : Cursor := ⟨n, []⟩

def kind (c : Cursor) : Kind := c.node.kind

def key (c : Cursor) : NodeKey := c.node.key

def parent? (c : Cursor) : Option Cursor :=
  match c.above with
  | [] => none
  | s :: rest => some ⟨s.parent, rest⟩

/-- The nodes along a way up, nearest first. -/
def along : List Step → List Cursor
  | [] => []
  | s :: rest => ⟨s.parent, rest⟩ :: along rest

/-- The nodes strictly above, nearest first. -/
def ancestors (c : Cursor) : List Cursor :=
  along c.above

def selfAndAncestors (c : Cursor) : List Cursor :=
  c :: c.ancestors

/-- The nodes of a list as children of `c`, where `before` holds the children passed already. -/
def childrenFrom (c : Cursor) (before : List Node) : List Node → List Cursor
  | [] => []
  | n :: rest => ⟨n, ⟨c.node, before⟩ :: c.above⟩ :: childrenFrom c (n :: before) rest

def children (c : Cursor) : List Cursor :=
  c.childrenFrom [] c.node.children

/-- The children that are not keywords. -/
def namedChildren (c : Cursor) : List Cursor :=
  c.children.filter (·.node.named)

def childrenOfKind (c : Cursor) (kind : Kind) : List Cursor :=
  c.namedChildren.filter (·.kind == kind)

def child? (c : Cursor) (role : String) : Option Cursor :=
  c.children.find? (·.node.role == some role)

def firstNamed? (c : Cursor) : Option Cursor :=
  c.namedChildren.head?

/-- The named siblings before the node, nearest first. -/
def priorSiblings (c : Cursor) : List Node :=
  match c.above with
  | [] => []
  | s :: _ => s.before.filter (·.named)

theorem ancestors_eq_nil_of_parent? {c : Cursor} (h : c.parent? = none) : c.ancestors = [] := by
  cases c with
  | mk node above =>
    cases above with
    | nil => rfl
    | cons s rest => simp [parent?] at h

theorem ancestors_of_parent? {c p : Cursor} (h : c.parent? = some p) :
    c.ancestors = p :: p.ancestors := by
  cases c with
  | mk node above =>
    cases above with
    | nil => simp [parent?] at h
    | cons s rest =>
      simp only [parent?, Option.some.injEq] at h
      subst h
      rfl

theorem map_node_childrenFrom (c : Cursor) (before ns : List Node) :
    (c.childrenFrom before ns).map (·.node) = ns := by
  induction ns generalizing before with
  | nil => rfl
  | cons n rest ih => simp [childrenFrom, ih]

/-- Stepping down and forgetting the way up gives the children of the node. -/
@[simp] theorem map_node_children (c : Cursor) : c.children.map (·.node) = c.node.children :=
  map_node_childrenFrom c [] _

end Cursor

end RepoAudit.Syntax
