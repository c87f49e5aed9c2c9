import Mathlib.Logic.Relation
import RepoAudit.Syntax.Walk

/-! # The nodes of a tree

Which cursors belong to the tree below a cursor, and which of them a walk visits.

* `Within` – a node of the tree, reached through any children;
* `mem_walk_iff` – a walk visits exactly what can be reached through named children;
* `walkAll_eq_flatMap` – it visits the nodes on its stack one after the other, each in document order;
* `walk_eq_preorder` – the walk from a node follows the recursion on its tree;
* `parent?_of_mem_children` – stepping down and up again leads back.
-/

namespace RepoAudit.Syntax.Cursor

open Relation (ReflTransGen)

/-! ## One step down -/

theorem mem_namedChildren {c d : Cursor} :
    d ∈ c.namedChildren ↔ d ∈ c.children ∧ d.node.named = true := by
  simp [namedChildren]

theorem mem_children_of_child? {c d : Cursor} {role : String} (h : c.child? role = some d) :
    d ∈ c.children :=
  List.mem_of_find?_eq_some h

theorem above_of_mem_childrenFrom {c d : Cursor} {before ns : List Node}
    (h : d ∈ c.childrenFrom before ns) : ∃ passed, d.above = ⟨c.node, passed⟩ :: c.above := by
  induction ns generalizing before with
  | nil => simp [childrenFrom] at h
  | cons n rest ih =>
    simp only [childrenFrom, List.mem_cons] at h
    rcases h with rfl | h
    · exact ⟨before, rfl⟩
    · exact ih h

/-- The parent of a child is the node we stepped down from, with its whole way up. -/
theorem parent?_of_mem_children {c d : Cursor} (h : d ∈ c.children) : d.parent? = some c := by
  obtain ⟨passed, above⟩ := above_of_mem_childrenFrom h
  simp [parent?, above]

theorem ancestors_of_mem_children {c d : Cursor} (h : d ∈ c.children) :
    d.ancestors = c :: c.ancestors :=
  ancestors_of_parent? (parent?_of_mem_children h)

/-! ## The tree below a node -/

/-- A node of the tree below `root`: steps down through any children lead there. -/
def Within (root : Cursor) : Cursor → Prop :=
  ReflTransGen (fun c d => d ∈ c.children) root

theorem Within.child {root c d : Cursor} (h : root.Within c) (step : d ∈ c.children) :
    root.Within d :=
  ReflTransGen.tail h step

/-- A node at which something was found, or a child of it, is a node of the tree. -/
theorem Within.self_or_child {root c d : Cursor} (h : root.Within c) (place : d = c ∨ d ∈ c.children) :
    root.Within d := by
  rcases place with rfl | child
  · exact h
  · exact h.child child

theorem Within.role {root c d : Cursor} {role : String} (h : root.Within c)
    (step : c.child? role = some d) : root.Within d :=
  h.child (mem_children_of_child? step)

theorem Within.named {root c d : Cursor} (h : root.Within c) (step : d ∈ c.namedChildren) :
    root.Within d :=
  h.child (mem_namedChildren.1 step).1

/-- Everything above a node of a whole tree is a node of the tree. -/
theorem Within.ancestor {tree : Node} {c a : Cursor} (h : (root tree).Within c)
    (above : a ∈ c.ancestors) : (root tree).Within a := by
  induction h with
  | refl => simp [root, ancestors, along] at above
  | @tail b c before step ih =>
    rw [ancestors_of_mem_children step, List.mem_cons] at above
    rcases above with rfl | above
    · exact before
    · exact ih above

/-! ## What a walk visits -/

theorem mem_walkAll_iff {stack : List Cursor} {d : Cursor} :
    d ∈ walkAll stack ↔ ∃ c ∈ stack, ReflTransGen (fun a b => b ∈ a.namedChildren) c d := by
  fun_induction walkAll stack with
  | case1 => simp
  | case2 c rest ih =>
    -- a node below `c` is `c` itself or lies below a named child of `c`
    simp only [List.mem_cons, exists_eq_or_imp, ih, List.mem_append]
    rw [ReflTransGen.cases_head_iff]
    constructor
    · rintro (rfl | ⟨e, child | waiting, below⟩)
      · exact .inl (.inl rfl)
      · exact .inl (.inr ⟨e, child, below⟩)
      · exact .inr ⟨e, waiting, below⟩
    · rintro ((rfl | ⟨e, child, below⟩) | ⟨e, waiting, below⟩)
      · exact .inl rfl
      · exact .inr ⟨e, .inl child, below⟩
      · exact .inr ⟨e, .inr waiting, below⟩

/-- A walk visits exactly the nodes that can be reached through named children. -/
theorem mem_walk_iff {c d : Cursor} :
    d ∈ c.walk ↔ ReflTransGen (fun a b => b ∈ a.namedChildren) c d := by
  simp [walk, mem_walkAll_iff]

theorem within_of_mem_walk {c d : Cursor} (h : d ∈ c.walk) : c.Within d := by
  refine ReflTransGen.mono (fun a b step => ?_) _ _ (mem_walk_iff.1 h)
  exact (mem_namedChildren.1 step).1

theorem mem_walk_of_mem_namedChildren {root c d : Cursor} (h : c ∈ root.walk)
    (step : d ∈ c.namedChildren) : d ∈ root.walk :=
  mem_walk_iff.2 ((mem_walk_iff.1 h).tail step)

/-- A walk visits the whole tree when all of its nodes have names. -/
theorem mem_walk_of_within {c d : Cursor}
    (named : ∀ a ∈ c.walk, ∀ b ∈ a.children, b.node.named = true) (h : c.Within d) : d ∈ c.walk := by
  induction h with
  | refl => exact mem_walk_iff.2 .refl
  | tail _ step ih =>
    exact mem_walk_of_mem_namedChildren ih (mem_namedChildren.2 ⟨step, named _ ih _ step⟩)

/-- Where nodes without names are leaves, every node below the root is a child of one that the walk
visits. -/
theorem eq_or_mem_children_of_within {c d : Cursor}
    (leaves : ∀ a ∈ c.walk, ∀ b ∈ a.children, b.node.named = true ∨ b.node.children.isEmpty = true)
    (h : c.Within d) : d = c ∨ ∃ a ∈ c.walk, d ∈ a.children := by
  induction h with
  | refl => exact .inl rfl
  | @tail b d _ step ih =>
    have visited : b ∈ c.walk := by
      rcases ih with rfl | ⟨a, visited, child⟩
      · exact mem_walk_iff.2 .refl
      · rcases leaves a visited b child with named | leaf
        · exact mem_walk_of_mem_namedChildren visited (mem_namedChildren.2 ⟨child, named⟩)
        · rw [children, List.isEmpty_iff.1 leaf] at step
          exact absurd step List.not_mem_nil
    exact .inr ⟨b, visited, step⟩

/-- A walk from a root visits everything above a node that it visits. -/
theorem mem_walk_of_mem_ancestors {tree : Node} {c a : Cursor} (h : c ∈ (root tree).walk)
    (above : a ∈ c.ancestors) : a ∈ (root tree).walk := by
  have reached := mem_walk_iff.1 h
  induction reached with
  | refl => simp [root, ancestors, along] at above
  | @tail b c before step ih =>
    rw [ancestors_of_mem_children (mem_namedChildren.1 step).1, List.mem_cons] at above
    have visited : b ∈ (root tree).walk := mem_walk_iff.2 before
    rcases above with rfl | above
    · exact visited
    · exact ih visited above

/-! ## The order of a walk -/

theorem preorderList_eq (c : Cursor) (before ns : List Node) :
    preorderList c.node c.above before ns =
      ((c.childrenFrom before ns).filter (·.node.named)).flatMap preorder := by
  induction ns generalizing before with
  | nil => rfl
  | cons n rest ih =>
    rw [preorderList, ih, childrenFrom, List.filter_cons]
    split
    · rfl
    · rfl

/-- Document order: a node, then its named children with everything below them. -/
theorem preorder_eq (c : Cursor) : c.preorder = c :: c.namedChildren.flatMap preorder := by
  rw [namedChildren, children, ← preorderList_eq, preorder]
  obtain ⟨⟨kind, named, role, start, stop, ns⟩, above⟩ := c
  rw [preorderAt]

theorem walkAll_eq_flatMap (stack : List Cursor) : walkAll stack = stack.flatMap preorder := by
  fun_induction walkAll stack with
  | case1 => rfl
  | case2 c rest ih =>
    rw [ih, List.flatMap_append, List.flatMap_cons, preorder_eq c, List.cons_append]

/-- A walk visits the nodes in document order. -/
theorem walk_eq_preorder (c : Cursor) : c.walk = c.preorder := by
  rw [walk, walkAll_eq_flatMap, List.flatMap_singleton]

end RepoAudit.Syntax.Cursor
