import Mathlib.Data.List.Basic
import Mathlib.Logic.Function.Iterate
import RepoAudit.Proofs.Syntax.Tree

/-! # Document order

A walk yields every node that can be reached through named children, and yields it once.  A node comes
before the nodes below it, and what lies below an earlier child comes before what lies below a later one.
These two rules leave no choice: they fix the place of every node.

* `Progress.round`, `Progress.follows_iterate` – the rounds of a walk that keeps its stack with the next node
  at the end, and how far it has come after each of them;
* `Precedes` – the two rules;
* `Precedes.address_lt` – the rules go forward in the order of the addresses, so that they never go in a
  circle;
* `walkAll_pairwise` – a walk from a stack that follows the rules yields nodes that follow them;
* `walk_in_document_order` – the order of a walk.
-/

namespace RepoAudit.Syntax.Cursor

open Relation (ReflTransGen TransGen)

/-! ## The rounds of a walk -/

theorem preorder_ne_nil (c : Cursor) : c.preorder ≠ [] := by
  rw [preorder_eq]
  exact List.cons_ne_nil _ _

/-- How far a walk has come: the nodes it has yielded, and the nodes that wait, the next one last. -/
structure Progress where
  yielded : List Cursor
  waiting : List Cursor

namespace Progress

/-- One round.  The last of the nodes that wait is yielded, and its named children wait in its place, the
first of them last. -/
def round (p : Progress) : Progress :=
  match p.waiting.getLast? with
  | none => p
  | some c => ⟨p.yielded ++ [c], p.waiting.dropLast ++ c.namedChildren.reverse⟩

theorem round_nil (yielded : List Cursor) : round ⟨yielded, []⟩ = ⟨yielded, []⟩ :=
  rfl

theorem round_concat (yielded below : List Cursor) (c : Cursor) :
    round ⟨yielded, below ++ [c]⟩ = ⟨yielded ++ [c], below ++ c.namedChildren.reverse⟩ := by
  simp [round]

/-- The first `k` nodes of an order are yielded, and the nodes that wait, taken from the end, stand for the
others with all that is below them. -/
structure Follows (order : List Cursor) (k : Nat) (p : Progress) : Prop where
  yielded : p.yielded = order.take k
  waiting : p.waiting.reverse.flatMap preorder = order.drop k

variable {order : List Cursor} {k : Nat} {p : Progress}

/-- A round yields the next node of the order. -/
theorem Follows.round (h : Follows order k p) : Follows order (k + 1) p.round := by
  obtain ⟨yielded, waiting⟩ := p
  obtain ⟨done, left⟩ := h
  rcases List.eq_nil_or_concat' waiting with rfl | ⟨below, c, rfl⟩
  · -- nothing waits, so the order is at its end already
    have short : order.length ≤ k := List.drop_eq_nil_iff.1 left.symm
    have longer : order.length ≤ k + 1 := Nat.le_succ_of_le short
    rw [round_nil]
    constructor
    · rw [List.take_of_length_le longer]
      rwa [List.take_of_length_le short] at done
    · exact (List.drop_eq_nil_iff.2 longer).symm
  · -- the order goes on with `c`, its named children and what waited before `c` came
    have next : order.drop k =
        c :: (c.namedChildren.flatMap preorder ++ below.reverse.flatMap preorder) := by
      rw [← left]
      simp [preorder_eq c]
    rw [round_concat]
    constructor
    · have split : order.take (k + 1) = order.take k ++ [c] := by
        rw [List.take_add, next]
        rfl
      rw [split, ← done]
    · have tail : order.drop (k + 1) = (order.drop k).tail := List.tail_drop.symm
      rw [tail, next]
      simp

/-- After `k` rounds a walk from `c` has yielded the first `k` nodes below `c` in document order. -/
theorem follows_iterate (c : Cursor) (k : Nat) :
    Follows c.preorder k (Progress.round^[k] ⟨[], [c]⟩) := by
  induction k with
  | zero => exact ⟨by simp, by simp⟩
  | succ k ih =>
    rw [Function.iterate_succ_apply']
    exact ih.round

/-- No node waits exactly when all nodes are yielded. -/
theorem Follows.waiting_eq_nil_iff (h : Follows order k p) : p.waiting = [] ↔ order.length ≤ k := by
  rw [← List.drop_eq_nil_iff, ← h.waiting, List.flatMap_eq_nil_iff]
  constructor
  · intro none
    simp [none]
  · intro empty
    apply List.eq_nil_iff_forall_not_mem.2
    intro c waits
    exact preorder_ne_nil c (empty c (List.mem_reverse.2 waits))

end Progress

/-! ## The rules of document order -/

/-- Steps to named children lead from `c` to `d`. -/
def Reaches (c d : Cursor) : Prop :=
  ReflTransGen (fun a b => b ∈ a.namedChildren) c d

/-- Steps to named children, at least one, lead from `c` down to `d`. -/
def IsAbove (c d : Cursor) : Prop :=
  TransGen (fun a b => b ∈ a.namedChildren) c d

/-- Document order: a node precedes the nodes below it, and a named child with all that is below it precedes
the later ones of its siblings with all that is below them. -/
inductive Precedes : Cursor → Cursor → Prop
  | above {a b : Cursor} (down : a.IsAbove b) : Precedes a b
  | beside {parent x y a b : Cursor} (siblings : [x, y].Sublist parent.namedChildren)
      (left : x.Reaches a) (right : y.Reaches b) : Precedes a b

/-! ## Addresses -/

/-- The way down to a node: at each step, how many children stand before the one that is taken. -/
def address (c : Cursor) : List Nat :=
  (c.above.map (·.before.length)).reverse

theorem address_of_mem_childrenFrom {c d : Cursor} {before ns : List Node}
    (h : d ∈ c.childrenFrom before ns) :
    ∃ i, before.length ≤ i ∧ d.address = c.address ++ [i] := by
  induction ns generalizing before with
  | nil => simp [childrenFrom] at h
  | cons n rest ih =>
    simp only [childrenFrom, List.mem_cons] at h
    rcases h with rfl | later
    · exact ⟨before.length, Nat.le_refl _, by simp [address]⟩
    · obtain ⟨i, bound, place⟩ := ih later
      exact ⟨i, Nat.le_of_succ_le bound, place⟩

theorem childrenFrom_pairwise (c : Cursor) (before ns : List Node) :
    (c.childrenFrom before ns).Pairwise fun x y =>
      ∃ i j, i < j ∧ x.address = c.address ++ [i] ∧ y.address = c.address ++ [j] := by
  induction ns generalizing before with
  | nil => exact .nil
  | cons n rest ih =>
    refine .cons ?_ (ih (n :: before))
    intro y later
    obtain ⟨j, bound, place⟩ := address_of_mem_childrenFrom later
    exact ⟨before.length, j, bound, by simp [address], place⟩

/-- Of two siblings the earlier one has the smaller place. -/
theorem address_of_siblings {c x y : Cursor} (h : [x, y].Sublist c.namedChildren) :
    ∃ i j, i < j ∧ x.address = c.address ++ [i] ∧ y.address = c.address ++ [j] := by
  have sublist : [x, y].Sublist c.children := h.trans List.filter_sublist
  simpa using (childrenFrom_pairwise c [] c.node.children).sublist sublist

theorem address_of_mem_namedChildren {c d : Cursor} (h : d ∈ c.namedChildren) :
    ∃ i, d.address = c.address ++ [i] := by
  obtain ⟨i, -, place⟩ := address_of_mem_childrenFrom (mem_namedChildren.1 h).1
  exact ⟨i, place⟩

theorem Reaches.address {c d : Cursor} (h : c.Reaches d) : ∃ way, d.address = c.address ++ way := by
  induction h with
  | refl => exact ⟨[], by simp⟩
  | tail _ step ih =>
    obtain ⟨way, reached⟩ := ih
    obtain ⟨i, place⟩ := address_of_mem_namedChildren step
    exact ⟨way ++ [i], by rw [place, reached, List.append_assoc]⟩

theorem IsAbove.address {c d : Cursor} (h : c.IsAbove d) :
    ∃ i way, d.address = c.address ++ i :: way := by
  obtain ⟨child, step, rest⟩ := TransGen.head'_iff.1 h
  obtain ⟨i, place⟩ := address_of_mem_namedChildren step
  obtain ⟨way, reached⟩ := Reaches.address rest
  exact ⟨i, way, by rw [reached, place, List.append_assoc, List.singleton_append]⟩

/-- A node that precedes another one has the smaller address, where addresses are compared from the root
down. -/
theorem Precedes.address_lt {a b : Cursor} (h : Precedes a b) : a.address < b.address := by
  cases h with
  | above down =>
    obtain ⟨i, way, place⟩ := down.address
    have longer : a.address ++ [] < a.address ++ i :: way := List.append_left_lt (List.nil_lt_cons i way)
    rwa [List.append_nil, ← place] at longer
  | beside siblings left right =>
    obtain ⟨i, j, less, first, second⟩ := address_of_siblings siblings
    obtain ⟨way, reached⟩ := left.address
    obtain ⟨way', reached'⟩ := right.address
    rw [reached, reached', first, second, List.append_assoc, List.append_assoc]
    exact List.append_left_lt (List.cons_lt_cons_iff.2 (.inl less))

theorem Precedes.irrefl (a : Cursor) : ¬ Precedes a a :=
  fun h => List.lt_irrefl _ h.address_lt

theorem Precedes.asymm {a b : Cursor} (h : Precedes a b) : ¬ Precedes b a :=
  fun back => List.lt_asymm h.address_lt back.address_lt

/-! ## The order of what is yielded -/

/-- Two nodes of a stack follow the rules with all that is below them. -/
def InOrder (x y : Cursor) : Prop :=
  ∀ a b, x.Reaches a → y.Reaches b → Precedes a b

theorem namedChildren_pairwise (c : Cursor) : c.namedChildren.Pairwise InOrder := by
  apply List.pairwise_iff_forall_sublist.2
  intro x y siblings a b left right
  exact .beside siblings left right

/-- A walk from a stack that follows the rules yields nodes that follow them. -/
theorem walkAll_pairwise {stack : List Cursor} (h : stack.Pairwise InOrder) :
    (walkAll stack).Pairwise Precedes := by
  fun_induction walkAll stack with
  | case1 => exact .nil
  | case2 c rest ih =>
    -- `c` precedes all that is still to come, and its children may take its place on the stack
    obtain ⟨ahead, behind⟩ := List.pairwise_cons.1 h
    refine .cons ?_ (ih (List.pairwise_append.2 ⟨namedChildren_pairwise c, behind, ?_⟩))
    · intro d later
      obtain ⟨e, mem, below⟩ := mem_walkAll_iff.1 later
      rcases List.mem_append.1 mem with child | waiting
      · exact .above (TransGen.head' child below)
      · exact ahead e waiting c d .refl below
    · -- what is below a child of `c` is below `c`, so the rest of the stack comes after it as before
      intro child step e waiting a b left right
      exact ahead e waiting a b (ReflTransGen.head step left) right

theorem walk_pairwise (c : Cursor) : c.walk.Pairwise Precedes :=
  walkAll_pairwise (List.pairwise_singleton _ _)

theorem precedes_of_lt {c a b : Cursor} {i j : Nat} (first : c.walk[i]? = some a)
    (second : c.walk[j]? = some b) (less : i < j) : Precedes a b := by
  obtain ⟨_, rfl⟩ := List.getElem?_eq_some_iff.1 first
  obtain ⟨_, rfl⟩ := List.getElem?_eq_some_iff.1 second
  exact List.pairwise_iff_getElem.1 c.walk_pairwise i j _ _ less

/-- Of two nodes that a walk yields, the earlier one is the one that precedes the other. -/
theorem lt_iff_precedes {c a b : Cursor} {i j : Nat} (first : c.walk[i]? = some a)
    (second : c.walk[j]? = some b) : i < j ↔ Precedes a b := by
  constructor
  · exact precedes_of_lt first second
  · intro precedes
    rcases Nat.lt_trichotomy i j with less | rfl | greater
    · exact less
    · obtain rfl : a = b := Option.some.inj (first.symm.trans second)
      exact absurd precedes (Precedes.irrefl a)
    · exact absurd (precedes_of_lt second first greater) precedes.asymm

/-- A walk yields a node at one place if steps to named children lead there, and else nowhere. -/
theorem reaches_iff_existsUnique {c d : Cursor} : c.Reaches d ↔ ∃! i : Nat, c.walk[i]? = some d := by
  constructor
  · intro reached
    obtain ⟨i, place⟩ := List.mem_iff_getElem?.1 (mem_walk_iff.2 reached)
    refine ⟨i, place, ?_⟩
    intro j again
    -- at two places the node would precede itself
    rcases Nat.lt_trichotomy j i with less | same | greater
    · exact absurd (precedes_of_lt again place less) (Precedes.irrefl d)
    · exact same
    · exact absurd (precedes_of_lt place again greater) (Precedes.irrefl d)
  · rintro ⟨i, place, -⟩
    exact mem_walk_iff.1 (List.mem_of_getElem? place)

/-- A walk from a node yields the nodes in document order.

* It is the recursion on the tree: the node, then the walks from its named children, from left to right.
* With the stack kept so that the next node is its last, the first `k` nodes are yielded after `k` rounds, and
  nothing waits exactly when there are no more.
* A node to which steps to named children lead is yielded at one place, and no other node is yielded.
* One node is yielded before another exactly when the other is below it, or when they belong to two children
  of one node, the first one to the earlier child. -/
theorem walk_in_document_order (c : Cursor) :
    c.walk = c.preorder ∧
    c.walk = c :: c.namedChildren.flatMap walk ∧
    (∀ k, (Progress.round^[k] ⟨[], [c]⟩).yielded = c.walk.take k ∧
      ((Progress.round^[k] ⟨[], [c]⟩).waiting = [] ↔ c.walk.length ≤ k)) ∧
    (∀ d, c.Reaches d ↔ ∃! i : Nat, c.walk[i]? = some d) ∧
    ∀ (i j : Nat) (a b : Cursor), c.walk[i]? = some a → c.walk[j]? = some b →
      (i < j ↔ Precedes a b) := by
  refine ⟨c.walk_eq_preorder, ?_, ?_, fun d => reaches_iff_existsUnique,
    fun i j a b => lt_iff_precedes⟩
  · rw [funext walk_eq_preorder]
    exact preorder_eq c
  · intro k
    have follows := Progress.follows_iterate c k
    rw [c.walk_eq_preorder]
    exact ⟨follows.yielded, follows.waiting_eq_nil_iff⟩

/-- The tree of a call `f(g)` and, on the next line, `export default h`. -/
def twoStatements : Node :=
  ⟨"program", true, none, 0, 21,
    [⟨"expression_statement", true, none, 0, 4,
      [⟨"call_expression", true, none, 0, 4,
        [⟨"identifier", true, some "function", 0, 1, []⟩,
         ⟨"arguments", true, some "arguments", 1, 4, [⟨"identifier", true, none, 2, 3, []⟩]⟩]⟩]⟩,
     ⟨"export_statement", true, none, 5, 21,
      [⟨"export", false, none, 5, 11, []⟩, ⟨"default", false, none, 12, 19, []⟩,
       ⟨"identifier", true, some "value", 20, 21, []⟩]⟩]⟩

/-- The argument of the call precedes the value of the export, though it is deeper in the tree; the keywords
are not visited, and nothing waits after eight rounds. -/
theorem walk_in_document_order_twoStatements :
    ∃ argument value : Cursor,
      ((root twoStatements).walk[5]? = some argument ∧ argument.node.start = 2) ∧
      ((root twoStatements).walk[7]? = some value ∧ value.node.start = 20) ∧
      Precedes argument value ∧ (∃! i : Nat, (root twoStatements).walk[i]? = some value) ∧
      (Progress.round^[8] ⟨[], [root twoStatements]⟩).waiting = [] := by
  obtain ⟨recursion, -, rounds, once, ordered⟩ := walk_in_document_order (root twoStatements)
  have places : ∃ argument value : Cursor,
      ((root twoStatements).preorder[5]? = some argument ∧ argument.node.start = 2) ∧
      ((root twoStatements).preorder[7]? = some value ∧ value.node.start = 20) :=
    ⟨_, _, ⟨rfl, rfl⟩, ⟨rfl, rfl⟩⟩
  rw [← recursion] at places
  obtain ⟨argument, value, first, second⟩ := places
  have reached := mem_walk_iff.1 (List.mem_of_getElem? second.1)
  have length : (root twoStatements).walk.length ≤ 8 := by
    rw [recursion]
    decide
  exact ⟨argument, value, first, second, (ordered 5 7 _ _ first.1 second.1).1 (by decide),
    (once value).1 reached, (rounds 8).2.2 length⟩

end RepoAudit.Syntax.Cursor
