/-! # Syntax nodes

The concrete syntax tree of a source file.  A node has a kind (a name of the grammar), the role it
plays for its parent if the grammar gives it one, the bytes it spans and its children.  Keywords are
unnamed nodes; everything else the analyses look at is named.

* `Node` – a syntax tree;
* `Node.key` – what tells two nodes apart in the tables of a module;
* `Node.child?` – the child in a role;
* `Node.size` – the number of nodes, which bounds every traversal.
-/

namespace RepoAudit.Syntax

/-- A name of the grammar for a sort of node. -/
abbrev Kind := String

structure Node where
  kind : Kind
  named : Bool
  role : Option String
  start : Nat
  stop : Nat
  children : List Node
  deriving Repr, Inhabited

/-- The place and kind of a node.  Tables of scopes, classes and objects are indexed by it. -/
structure NodeKey where
  start : Nat
  stop : Nat
  kind : Kind
  deriving Repr, DecidableEq, Inhabited

namespace Node

def key (n : Node) : NodeKey :=
  ⟨n.start, n.stop, n.kind⟩

def namedChildren (n : Node) : List Node :=
  n.children.filter (·.named)

def child? (n : Node) (role : String) : Option Node :=
  n.children.find? (·.role == some role)

mutual

def size : Node → Nat
  | ⟨_, _, _, _, _, children⟩ => 1 + sizeList children

def sizeList : List Node → Nat
  | [] => 0
  | n :: rest => size n + sizeList rest

end

theorem size_eq (n : Node) : n.size = 1 + sizeList n.children := by
  cases n
  simp [size]

theorem size_pos (n : Node) : 0 < n.size := by
  rw [size_eq]
  omega

end Node

end RepoAudit.Syntax
