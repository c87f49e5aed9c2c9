import RepoAudit.Syntax.Cursor

/-! # Walking a tree

The analyses visit the named nodes of a tree in document order.  The walk keeps a stack of the nodes
still to visit: it takes the top node and puts that node's named children in its place.

* `Cursor.walk` – the walk;
* `Cursor.preorder` – the same order said by recursion on the tree.
-/

namespace RepoAudit.Syntax.Cursor

/-- The number of nodes below and including those on a stack. -/
def weight : List Cursor → Nat
  | [] => 0
  | c :: rest => c.node.size + weight rest

theorem weight_append (cs ds : List Cursor) : weight (cs ++ ds) = weight cs + weight ds := by
  induction cs with
  | nil => simp [weight]
  | cons c rest ih => simp [weight, ih, Nat.add_assoc]

theorem weight_filter_le (p : Cursor → Bool) (cs : List Cursor) :
    weight (cs.filter p) ≤ weight cs := by
  induction cs with
  | nil => simp [weight]
  | cons c rest ih =>
    by_cases h : p c = true
    · simp [List.filter_cons_of_pos h, weight, ih]
    · have := List.filter_cons_of_neg (l := rest) h
      rw [this]
      simp only [weight]
      omega

theorem weight_childrenFrom (c : Cursor) (before ns : List Node) :
    weight (c.childrenFrom before ns) = Node.sizeList ns := by
  induction ns generalizing before with
  | nil => simp [childrenFrom, weight, Node.sizeList]
  | cons n rest ih => simp [childrenFrom, weight, Node.sizeList, ih]

/-- A node outweighs its named children, so a walk ends. -/
theorem weight_namedChildren_lt (c : Cursor) : weight c.namedChildren < c.node.size := by
  have h := weight_filter_le (·.node.named) c.children
  rw [children, weight_childrenFrom] at h
  rw [Node.size_eq]
  unfold namedChildren children
  omega

/-- Visits the nodes on a stack and everything named below them. -/
def walkAll : List Cursor → List Cursor
  | [] => []
  | c :: rest => c :: walkAll (c.namedChildren ++ rest)
termination_by stack => weight stack
decreasing_by
  have := weight_namedChildren_lt c
  simp only [weight_append, weight]
  omega

/-- A node and the named nodes below it, in document order. -/
def walk (c : Cursor) : List Cursor :=
  walkAll [c]

mutual

/-- A node whose way up is `above`, then the named nodes below it, child by child. -/
def preorderAt (above : List Step) : Node → List Cursor
  | n@⟨_, _, _, _, _, children⟩ => ⟨n, above⟩ :: preorderList n above [] children

/-- The named ones among the children of `parent` and the nodes below them; `before` holds the
children passed already. -/
def preorderList (parent : Node) (above : List Step) (before : List Node) :
    List Node → List Cursor
  | [] => []
  | n :: rest =>
    (if n.named then preorderAt (⟨parent, before⟩ :: above) n else [])
      ++ preorderList parent above (n :: before) rest

end

def preorder (c : Cursor) : List Cursor :=
  preorderAt c.above c.node

end RepoAudit.Syntax.Cursor
