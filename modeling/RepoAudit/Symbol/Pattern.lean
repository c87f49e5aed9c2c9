import RepoAudit.Source
import RepoAudit.Syntax.Kind

/-! # Names introduced by patterns

A parameter or a declaration may take its value apart with a pattern.  A pattern introduces names;
default values and property keys introduce none.

* `Pattern.parts` – the nodes inside a pattern that introduce names for it;
* `Pattern.names` – the names, found with a stack of the nodes still to look at;
* `Pattern.introduced` – the same names said by recursion on the pattern.
-/

namespace RepoAudit.Pattern

open Syntax

def isName (n : Node) : Bool :=
  n.kind == "identifier" || n.kind == "shorthand_property_identifier_pattern"

/-- The role in which a node holds the one pattern inside it, if it is of such a kind. -/
def innerRole? (n : Node) : Option String :=
  if n.kind == "assignment_pattern" || n.kind == "object_assignment_pattern" then some "left"
  else if n.kind == "pair_pattern" then some "value"
  else if n.kind.isParameter then some "pattern"
  else none

/-- Whether a node is made of patterns only. -/
def isGroup (n : Node) : Bool :=
  n.kind == "object_pattern" || n.kind == "array_pattern" || n.kind == "rest_pattern"

def parts (n : Node) : List Node :=
  if isName n then []
  else match innerRole? n with
    | some role => (n.child? role).toList
    | none => if isGroup n then n.namedChildren else []

/-! ## The search with a stack -/

theorem size_lt_of_mem {ns : List Node} {n : Node} (h : n ∈ ns) : n.size ≤ Node.sizeList ns := by
  induction ns with
  | nil => simp at h
  | cons m rest ih =>
    simp only [Node.sizeList]
    rcases List.mem_cons.1 h with rfl | h'
    · omega
    · have := ih h'
      omega

theorem sizeList_filter_le (p : Node → Bool) (ns : List Node) :
    Node.sizeList (ns.filter p) ≤ Node.sizeList ns := by
  induction ns with
  | nil => simp [Node.sizeList]
  | cons n rest ih =>
    by_cases h : p n = true
    · simp [List.filter_cons_of_pos h, Node.sizeList, ih]
    · rw [List.filter_cons_of_neg h]
      simp only [Node.sizeList]
      omega

theorem sizeList_append (ms ns : List Node) :
    Node.sizeList (ms ++ ns) = Node.sizeList ms + Node.sizeList ns := by
  induction ms with
  | nil => simp [Node.sizeList]
  | cons m rest ih => simp [Node.sizeList, ih, Nat.add_assoc]

theorem sizeList_reverse (ns : List Node) : Node.sizeList ns.reverse = Node.sizeList ns := by
  induction ns with
  | nil => rfl
  | cons n rest ih =>
    simp only [List.reverse_cons, sizeList_append, Node.sizeList, ih]
    omega

/-- The parts of a pattern are smaller than the pattern. -/
theorem sizeList_parts_lt (n : Node) : Node.sizeList (parts n) < n.size := by
  rw [Node.size_eq]
  unfold parts
  split
  · simp only [Node.sizeList]
    omega
  · split
    · rename_i role _
      cases hc : n.child? role with
      | none =>
        simp only [Option.toList_none, Node.sizeList]
        omega
      | some c =>
        have := size_lt_of_mem (List.mem_of_find?_eq_some hc)
        simp only [Option.toList_some, Node.sizeList]
        omega
    · split
      · have := sizeList_filter_le (·.named) n.children
        unfold Node.namedChildren
        omega
      · simp only [Node.sizeList]
        omega

/-- Looks at the nodes on a stack: a name is taken, and the parts of anything else are pushed in
order, so that the last of them is looked at first. -/
def namesOf (text : Node → String) : List Node → List String
  | [] => []
  | n :: rest =>
    if isName n then text n :: namesOf text rest
    else namesOf text ((parts n).reverse ++ rest)
termination_by stack => Node.sizeList stack
decreasing_by
  · simp only [Node.sizeList]
    have := Node.size_pos n
    omega
  · simp only [sizeList_append, sizeList_reverse, Node.sizeList]
    have := sizeList_parts_lt n
    omega

def names (text : Node → String) (n : Node) : List String :=
  namesOf text [n]

/-! ## The same by recursion -/

mutual

/-- The names that a pattern introduces, from left to right. -/
def introduced (text : Node → String) : Node → List String
  | n@⟨_, _, _, _, _, children⟩ =>
    if isName n then [text n]
    else match innerRole? n with
      | some role => introducedIn text role children
      | none => if isGroup n then introducedByAll text children else []

def introducedIn (text : Node → String) (role : String) : List Node → List String
  | [] => []
  | n :: rest => if n.role == some role then introduced text n else introducedIn text role rest

def introducedByAll (text : Node → String) : List Node → List String
  | [] => []
  | n :: rest => (if n.named then introduced text n else []) ++ introducedByAll text rest

end

end RepoAudit.Pattern
