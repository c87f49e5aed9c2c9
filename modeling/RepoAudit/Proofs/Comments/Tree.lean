import Mathlib.Data.List.Forall2
import RepoAudit.Proofs.Syntax.Tree
import RepoAudit.Symbol.Export

/-! # Trees with comments put in

A tree with further comments has the same nodes otherwise, in the same places.  Whoever looks for a role
or for a kind does not see the comments; whoever takes the first child, or every child, sees them.

* `Interspersed` – a list with further elements put in, as far as the places allow it;
* `Commented` – a tree with further comments;
* `mayFollow` – the places where a comment is not taken for something else;
* `Beside` – a node and the same node in the tree with comments, both with their way up;
* `Beside.walk` – a walk meets the same nodes, and the comments in between.
-/

namespace RepoAudit

/-! ## Lists with further elements -/

/-- The elements of the first list stand in the second in the same order, with further ones put in.
Whether one may be put in depends on the elements before it, nearest first. -/
inductive Interspersed {α β : Type} (R : α → β → Prop) :
    List α → (List α → β → Prop) → List α → List β → Prop where
  | nil {before extra} : Interspersed R before extra [] []
  | keep {before extra a b as bs} (head : R a b) (rest : Interspersed R (a :: before) extra as bs) :
      Interspersed R before extra (a :: as) (b :: bs)
  | insert {before extra b as bs} (allowed : extra before b)
      (rest : Interspersed R before extra as bs) : Interspersed R before extra as (b :: bs)

/-- The same where the further elements may be put in anywhere. -/
abbrev Strewn {α β : Type} (R : α → β → Prop) (extra : β → Prop) : List α → List β → Prop :=
  Interspersed R [] fun _ => extra

theorem cases_of_optionRel {α β : Type} {R : α → β → Prop} {x : Option α} {y : Option β}
    (h : Option.Rel R x y) :
    (x = none ∧ y = none) ∨ ∃ a b, x = some a ∧ y = some b ∧ R a b := by
  cases h with
  | none => exact .inl ⟨rfl, rfl⟩
  | some related => exact .inr ⟨_, _, rfl, rfl, related⟩

theorem isSome_of_optionRel {α β : Type} {R : α → β → Prop} {x : Option α} {y : Option β}
    (h : Option.Rel R x y) : y.isSome = x.isSome := by
  cases h with
  | none => rfl
  | some => rfl

namespace Interspersed

variable {α β γ δ : Type} {R : α → β → Prop} {before : List α} {extra : List α → β → Prop}
  {as : List α} {bs : List β} {p : α → Bool} {q : β → Bool}

/-- Where only the sort of the further elements matters, it does not matter what stands before. -/
theorem anywhere (h : Interspersed R before extra as bs) {E : β → Prop}
    (only : ∀ before b, extra before b → E b) (elsewhere : List α) :
    Interspersed R elsewhere (fun _ => E) as bs := by
  induction h generalizing elsewhere with
  | nil => exact .nil
  | keep head _ ih => exact .keep head (ih only _)
  | insert allowed _ ih => exact .insert (only _ _ allowed) (ih only _)

theorem append (h : Interspersed R before extra as bs) {E : β → Prop}
    (only : ∀ before b, extra before b → E b) {cs : List α} {ds : List β} (h' : Strewn R E cs ds)
    (elsewhere : List α) : Interspersed R elsewhere (fun _ => E) (as ++ cs) (bs ++ ds) := by
  induction h generalizing elsewhere with
  | nil => exact h'.anywhere (fun _ _ e => e) elsewhere
  | keep head _ ih => exact .keep head (ih only _)
  | insert allowed _ ih => exact .insert (only _ _ allowed) (ih only _)

theorem reverse (h : Interspersed R before extra as bs) {E : β → Prop}
    (only : ∀ before b, extra before b → E b) : Strewn R E as.reverse bs.reverse := by
  induction h with
  | nil => exact .nil
  | @keep _ _ a b as bs head _ ih =>
    rw [List.reverse_cons, List.reverse_cons]
    exact (ih only).append (fun _ _ e => e) (.keep head .nil) []
  | @insert _ _ b as bs allowed _ ih =>
    rw [List.reverse_cons, ← List.append_nil as.reverse]
    exact (ih only).append (fun _ _ e => e) (.insert (only _ _ allowed) .nil) []

/-- A search finds the same, unless a further element with the property comes before all others. -/
theorem find? (h : Interspersed R before extra as bs) (same : ∀ a b, R a b → q b = p a)
    (late : ∀ before b, extra before b → q b = true → before.any p = true)
    (unseen : before.any p = false) : Option.Rel R (as.find? p) (bs.find? q) := by
  induction h with
  | nil => exact .none
  | @keep before _ a b as bs head _ ih =>
    rw [List.find?_cons, List.find?_cons, same a b head]
    cases holds : p a with
    | true => exact .some head
    | false => exact ih late (by simp [holds, unseen])
  | @insert before _ b as bs allowed _ ih =>
    have missed : q b = false := by
      by_contra holds
      have := late before b allowed (by simpa using holds)
      simp [unseen] at this
    rw [List.find?_cons, missed]
    exact ih late unseen

theorem filter (h : Interspersed R before extra as bs) (same : ∀ a b, R a b → q b = p a)
    {E : β → Prop} (only : ∀ before b, extra before b → E b) (elsewhere : List α) :
    Interspersed R elsewhere (fun _ => E) (as.filter p) (bs.filter q) := by
  induction h generalizing elsewhere with
  | nil => exact .nil
  | @keep before _ a b as bs head _ ih =>
    rw [List.filter_cons, List.filter_cons, same a b head]
    split
    · exact .keep head (ih only _)
    · exact ih only _
  | @insert before _ b as bs allowed _ ih =>
    rw [List.filter_cons]
    split
    · exact .insert (only _ _ allowed) (ih only _)
    · exact ih only _

/-- What further elements do not have picks out the same elements on both sides. -/
theorem forall₂_filter (h : Interspersed R before extra as bs) (same : ∀ a b, R a b → q b = p a)
    (missed : ∀ before b, extra before b → q b = false) :
    List.Forall₂ (fun a b => R a b ∧ p a = true) (as.filter p) (bs.filter q) := by
  induction h with
  | nil => exact .nil
  | @keep before _ a b as bs head _ ih =>
    rw [List.filter_cons, List.filter_cons, same a b head]
    split
    · rename_i holds
      exact .cons ⟨head, holds⟩ (ih missed)
    · exact ih missed
  | @insert before _ b as bs allowed _ ih =>
    rw [List.filter_cons, missed before b allowed]
    exact ih missed

theorem any_eq (h : Interspersed R before extra as bs) (same : ∀ a b, R a b → q b = p a)
    (missed : ∀ before b, extra before b → q b = false) : bs.any q = as.any p := by
  induction h with
  | nil => rfl
  | @keep before _ a b as bs head _ ih => simp [same a b head, ih missed]
  | @insert before _ b as bs allowed _ ih => simp [missed before b allowed, ih missed]

theorem forall₂_filterMap {S : γ → δ → Prop} {f : α → Option γ} {g : β → Option δ}
    (h : Interspersed R before extra as bs) (same : ∀ a b, R a b → Option.Rel S (f a) (g b))
    (missed : ∀ before b, extra before b → g b = none) :
    List.Forall₂ S (as.filterMap f) (bs.filterMap g) := by
  induction h with
  | nil => exact .nil
  | @keep before _ a b as bs head _ ih =>
    rcases cases_of_optionRel (same a b head) with ⟨e, e'⟩ | ⟨x, y, e, e', related⟩
    · rw [List.filterMap_cons_none e, List.filterMap_cons_none e']
      exact ih missed
    · rw [List.filterMap_cons_some e, List.filterMap_cons_some e']
      exact .cons related (ih missed)
  | @insert before _ b as bs allowed _ ih =>
    rw [List.filterMap_cons_none (missed before b allowed)]
    exact ih missed

theorem filterMap_eq {f : α → Option γ} {g : β → Option γ} (h : Interspersed R before extra as bs)
    (same : ∀ a b, R a b → g b = f a) (missed : ∀ before b, extra before b → g b = none) :
    bs.filterMap g = as.filterMap f := by
  induction h with
  | nil => rfl
  | @keep before _ a b as bs head _ ih =>
    rw [List.filterMap_cons, List.filterMap_cons, same a b head, ih missed]
  | @insert before _ b as bs allowed _ ih =>
    rw [List.filterMap_cons_none (missed before b allowed), ih missed]

/-- A row of steps that keep two states alike, where further elements change nothing. -/
theorem foldl {S : γ → δ → Prop} {f : γ → α → γ} {g : δ → β → δ}
    (h : Interspersed R before extra as bs) (step : ∀ s t a b, S s t → R a b → S (f s a) (g t b))
    (skip : ∀ t before b, extra before b → g t b = t) {s : γ} {t : δ} (start : S s t) :
    S (as.foldl f s) (bs.foldl g t) := by
  induction h generalizing s t with
  | nil => exact start
  | @keep before _ a b as bs head _ ih => exact ih skip (step s t a b start head)
  | @insert before _ b as bs allowed _ ih =>
    rw [List.foldl_cons, skip t before b allowed]
    exact ih skip start

end Interspersed

namespace Syntax

/-! ## Trees with further comments -/

/-- A comment: it plays no role and has no children. -/
structure IsComment (c : Node) : Prop where
  kind : c.kind = "comment"
  named : c.named = true
  role : c.role = none
  children : c.children = []

/-- A tree and the same tree with further comments, which may stand where `admits` allows it: in a node,
after some of its children, nearest first.  Of the nodes that were there before, `keeps` holds. -/
inductive Commented (admits : Node → List Node → Node → Prop) (keeps : Node → Prop) :
    Node → Node → Prop where
  | mk {n n' : Node} (kind : n'.kind = n.kind) (named : n'.named = n.named) (role : n'.role = n.role)
      (start : n'.start = n.start) (stop : n'.stop = n.stop) (kept : keeps n)
      (children : Interspersed (Commented admits keeps) []
        (fun before c => IsComment c ∧ admits n before c) n.children n'.children) :
      Commented admits keeps n n'

/-- Whether a comment may follow children of a node, nearest first, without being taken for something
else.  Of some nodes the first named child is read, whatever it is; of the heritage of a class the first
one that is no `implements` clause; and of an exported namespace every one. -/
def mayFollow (n : Node) (before : List Node) : Bool :=
  match n.kind with
  | "parenthesized_expression" => before.any (·.named)
  | "type_annotation" => before.any (·.named)
  | "expression_statement" => before.any (·.named)
  | "generic_type" => (n.child? "name").isSome || before.any (·.named)
  | "extends_clause" => (n.child? "value").isSome || before.any (·.named)
  | "class_heritage" => before.any fun m => m.named && m.kind != "implements_clause"
  | "namespace_export" => false
  | _ => true

namespace Commented

variable {admits : Node → List Node → Node → Prop} {keeps : Node → Prop} {n n' : Node}

theorem leaf (kept : keeps n) (alone : n.children = []) : Commented admits keeps n n := by
  refine .mk rfl rfl rfl rfl rfl kept ?_
  rw [alone]
  exact .nil

theorem kind_eq (h : Commented admits keeps n n') : n'.kind = n.kind := by
  cases h with | mk kind => exact kind

theorem named_eq (h : Commented admits keeps n n') : n'.named = n.named := by
  cases h with | mk _ named => exact named

theorem role_eq (h : Commented admits keeps n n') : n'.role = n.role := by
  cases h with | mk _ _ role => exact role

theorem start_eq (h : Commented admits keeps n n') : n'.start = n.start := by
  cases h with | mk _ _ _ start => exact start

theorem stop_eq (h : Commented admits keeps n n') : n'.stop = n.stop := by
  cases h with | mk _ _ _ _ stop => exact stop

theorem kept (h : Commented admits keeps n n') : keeps n := by
  cases h with | mk _ _ _ _ _ kept => exact kept

theorem key_eq (h : Commented admits keeps n n') : n'.key = n.key := by
  simp [Node.key, h.kind_eq, h.start_eq, h.stop_eq]

theorem interspersed (h : Commented admits keeps n n') :
    Interspersed (Commented admits keeps) [] (fun before c => IsComment c ∧ admits n before c)
      n.children n'.children := by
  cases h with | mk _ _ _ _ _ _ children => exact children

/-- A comment plays no role. -/
theorem child? (h : Commented admits keeps n n') (role : String) :
    Option.Rel (Commented admits keeps) (n.child? role) (n'.child? role) := by
  refine h.interspersed.find? (fun a b related => by rw [related.role_eq]) ?_ rfl
  rintro before c ⟨comment, -⟩ plays
  simp [comment.role] at plays

theorem namedChildren (h : Commented admits keeps n n') :
    Strewn (Commented admits keeps) IsComment n.namedChildren n'.namedChildren :=
  h.interspersed.filter (fun _ _ related => related.named_eq) (fun _ _ allowed => allowed.1) []

end Commented

/-! ## Nodes in their place -/

/-- Whether a decorator comes before, with only comments in between. -/
def followsDecorator (before : List Node) : Bool :=
  match ((before.filter (·.named)).dropWhile (·.kind == "comment")).head? with
  | some sibling => sibling.kind == "decorator"
  | none => false

/-- A node and the same node in the tree with comments, both with their way up. -/
structure Beside (admits : Node → List Node → Node → Prop) (keeps : Node → Prop) (c c' : Cursor) :
    Prop where
  node : Commented admits keeps c.node c'.node
  above : List.Forall₂ (fun s s' => Commented admits keeps s.parent s'.parent ∧
    followsDecorator s'.before = followsDecorator s.before) c.above c'.above

section followsDecorator

variable {admits : Node → List Node → Node → Prop} {keeps : Node → Prop} {before before' : List Node}

theorem followsDecorator_cons_comment {c : Node} (comment : IsComment c) :
    followsDecorator (c :: before) = followsDecorator before := by
  simp [followsDecorator, comment.named, comment.kind]

theorem followsDecorator_cons {n n' : Node} (h : Commented admits keeps n n')
    (same : followsDecorator before' = followsDecorator before) :
    followsDecorator (n' :: before') = followsDecorator (n :: before) := by
  cases named : n.named with
  | false =>
    simp only [followsDecorator, List.filter_cons, h.named_eq, named]
    exact same
  | true =>
    by_cases comment : n.kind = "comment"
    · simp only [followsDecorator, List.filter_cons, h.named_eq, named, ↓reduceIte,
        List.dropWhile_cons, h.kind_eq, comment, beq_self_eq_true]
      exact same
    · simp [followsDecorator, h.named_eq, named, h.kind_eq, comment]

end followsDecorator

namespace Beside

variable {admits : Node → List Node → Node → Prop} {keeps : Node → Prop} {c c' : Cursor}

theorem kind_eq (h : Beside admits keeps c c') : c'.kind = c.kind := h.node.kind_eq

theorem key_eq (h : Beside admits keeps c c') : c'.key = c.key := h.node.key_eq

theorem root {n n' : Node} (h : Commented admits keeps n n') :
    Beside admits keeps (.root n) (.root n') :=
  ⟨h, .nil⟩

/-! ### Upward -/

theorem parent? (h : Beside admits keeps c c') :
    Option.Rel (Beside admits keeps) c.parent? c'.parent? := by
  obtain ⟨n, above⟩ := c
  obtain ⟨n', above'⟩ := c'
  cases h.above with
  | nil => exact .none
  | cons step rest => exact .some ⟨step.1, rest⟩

theorem ancestors (h : Beside admits keeps c c') :
    List.Forall₂ (Beside admits keeps) c.ancestors c'.ancestors := by
  have along : ∀ {above above' : List Step},
      List.Forall₂ (fun s s' => Commented admits keeps s.parent s'.parent ∧
        followsDecorator s'.before = followsDecorator s.before) above above' →
        List.Forall₂ (Beside admits keeps) (Cursor.along above) (Cursor.along above') := by
    intro above above' steps
    induction steps with
    | nil => exact .nil
    | cons step rest ih => exact .cons ⟨step.1, rest⟩ ih
  exact along h.above

theorem selfAndAncestors (h : Beside admits keeps c c') :
    List.Forall₂ (Beside admits keeps) c.selfAndAncestors c'.selfAndAncestors :=
  .cons h h.ancestors

/-! ### Downward -/

theorem childrenFrom (h : Beside admits keeps c c') {before before' ns ns' : List Node}
    {passed : List Cursor} {extra : List Node → Node → Prop} (behind : passed.map (·.node) = before)
    (same : followsDecorator before' = followsDecorator before)
    (only : ∀ before n, extra before n → IsComment n)
    (inside : Interspersed (Commented admits keeps) before extra ns ns') :
    Interspersed (Beside admits keeps) passed (fun before d => extra (before.map (·.node)) d.node)
      (c.childrenFrom before ns) (c'.childrenFrom before' ns') := by
  -- along the children, with those already passed on each side; of them only the decorators matter
  induction inside generalizing passed before' with
  | nil => exact .nil
  | @keep before extra n n' ns ns' head rest ih =>
    subst behind
    refine .keep ⟨head, .cons ⟨h.node, same⟩ h.above⟩ (ih ?_ (followsDecorator_cons head same) only)
    rfl
  | @insert before extra n' ns ns' allowed rest ih =>
    subst behind
    refine .insert allowed (ih rfl ?_ only)
    rw [followsDecorator_cons_comment (only _ _ allowed), same]

theorem children (h : Beside admits keeps c c') :
    Interspersed (Beside admits keeps) []
      (fun before d => IsComment d.node ∧ admits c.node (before.map (·.node)) d.node)
      c.children c'.children :=
  h.childrenFrom (show ([] : List Cursor).map (·.node) = [] from rfl) rfl
    (fun _ _ allowed => allowed.1) h.node.interspersed

theorem child? (h : Beside admits keeps c c') (role : String) :
    Option.Rel (Beside admits keeps) (c.child? role) (c'.child? role) := by
  refine h.children.find? (fun a b related => by rw [related.node.role_eq]) ?_ rfl
  rintro before d ⟨comment, -⟩ plays
  simp [comment.role] at plays

theorem namedChildren (h : Beside admits keeps c c') :
    Strewn (Beside admits keeps) (fun d => IsComment d.node) c.namedChildren c'.namedChildren :=
  h.children.filter (fun _ _ related => related.node.named_eq) (fun _ _ allowed => allowed.1) []

theorem childrenOfKind (h : Beside admits keeps c c') (kind : Kind) (other : kind ≠ "comment") :
    List.Forall₂ (fun d d' => Beside admits keeps d d' ∧ d.kind = kind) (c.childrenOfKind kind)
      (c'.childrenOfKind kind) := by
  have picked := h.namedChildren.forall₂_filter (p := (·.kind == kind)) (q := (·.kind == kind))
    (fun a b related => by rw [related.kind_eq])
    (fun _ d comment => by simp [Cursor.kind, comment.kind, other.symm])
  exact picked.imp fun d d' found => ⟨found.1, by simpa using found.2⟩

/-- The first named child stays the same where comments come after it. -/
theorem firstNamed? (h : Beside admits keeps c c')
    (late : ∀ before d, admits c.node before d → before.any (·.named) = true) :
    Option.Rel (Beside admits keeps) c.firstNamed? c'.firstNamed? := by
  unfold Cursor.firstNamed? Cursor.namedChildren
  rw [List.head?_filter, List.head?_filter]
  refine h.children.find? (fun _ _ related => related.node.named_eq) ?_ rfl
  rintro before d ⟨-, allowed⟩ -
  simpa using late _ _ allowed

/-- Comments neither are decorators nor come between a decorator and what it is attached to. -/
theorem isAnnotated_eq (h : Beside admits keeps c c') : isAnnotated c' = isAnnotated c := by
  have inside : c'.namedChildren.any (·.kind == "decorator") =
      c.namedChildren.any (·.kind == "decorator") :=
    h.namedChildren.any_eq (fun a b related => by rw [related.kind_eq])
      (fun _ d comment => by simp [Cursor.kind, comment.kind])
  unfold isAnnotated
  rw [inside]
  congr 1
  -- the siblings before are kept on the way up
  obtain ⟨n, above⟩ := c
  obtain ⟨n', above'⟩ := c'
  cases h.above with
  | nil => rfl
  | cons step rest => exact step.2

/-! ### Walks -/

theorem walkAll {stack stack' : List Cursor}
    (h : Strewn (Beside admits keeps) (fun d => IsComment d.node) stack stack') :
    Strewn (Beside admits keeps) (fun d => IsComment d.node) (Cursor.walkAll stack)
      (Cursor.walkAll stack') := by
  fun_induction Cursor.walkAll stack' generalizing stack with
  | case1 =>
    cases h
    rw [Cursor.walkAll]
    exact .nil
  | case2 c' rest' ih =>
    cases h with
    | keep head rest =>
      rw [Cursor.walkAll]
      have waiting := rest.anywhere (fun _ _ comment => comment) []
      have below := ih (head.namedChildren.append (fun _ _ comment => comment) waiting [])
      exact .keep head (below.anywhere (fun _ _ comment => comment) _)
    | insert allowed rest =>
      -- nothing is put on the stack for a comment, so that the walk goes on with the same nodes
      have leaf : c'.namedChildren = [] := by
        simp [Cursor.namedChildren, Cursor.children, allowed.children, Cursor.childrenFrom]
      refine .insert allowed (ih ?_)
      rw [leaf]
      exact rest

theorem walk (h : Beside admits keeps c c') :
    Strewn (Beside admits keeps) (fun d => IsComment d.node) c.walk c'.walk :=
  walkAll (.keep h .nil)

end Beside

end Syntax

end RepoAudit
