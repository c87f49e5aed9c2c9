import RepoAudit.Symbol.Pattern

/-! # Which names a pattern introduces

The search through a pattern keeps a stack, so it comes to the parts of a pattern from right to left.
The names it finds are those that the recursion over the pattern gives.

* `introduced_of_not_isName` – a pattern introduces what its parts introduce;
* `mem_names_iff` – the search and the recursion give the same names.
-/

namespace RepoAudit.Pattern

open Syntax

variable (text : Node → String)

theorem introducedIn_eq (role : String) (ns : List Node) :
    introducedIn text role ns = (ns.find? (·.role == some role)).toList.flatMap (introduced text) := by
  induction ns with
  | nil => rfl
  | cons n rest ih =>
    rw [introducedIn, List.find?_cons]
    cases n.role == some role with
    | true => simp
    | false => exact ih

theorem introducedByAll_eq (ns : List Node) :
    introducedByAll text ns = (ns.filter (·.named)).flatMap (introduced text) := by
  induction ns with
  | nil => rfl
  | cons n rest ih =>
    rw [introducedByAll, ih, List.filter_cons]
    split
    · rfl
    · rfl

/-- A pattern that is no name introduces what its parts introduce. -/
theorem introduced_of_not_isName {n : Node} (h : isName n = false) :
    introduced text n = (parts n).flatMap (introduced text) := by
  obtain ⟨kind, named, role, start, stop, ns⟩ := n
  simp only [introduced, parts, h, Bool.false_eq_true, if_false]
  split
  · exact introducedIn_eq text _ ns
  · split
    · exact introducedByAll_eq text ns
    · rfl

theorem introduced_of_isName {n : Node} (h : isName n = true) : introduced text n = [text n] := by
  obtain ⟨kind, named, role, start, stop, ns⟩ := n
  simp only [introduced, h, if_true]

theorem mem_namesOf_iff {stack : List Node} {name : String} :
    name ∈ namesOf text stack ↔ ∃ n ∈ stack, name ∈ introduced text n := by
  fun_induction namesOf text stack with
  | case1 => simp
  | case2 n rest isName ih => simp [ih, introduced_of_isName text isName]
  | case3 n rest noName ih =>
    -- the parts of `n` take its place on the stack, and introduce what `n` does
    rw [Bool.not_eq_true] at noName
    simp only [ih, List.mem_append, List.mem_reverse, or_and_right, exists_or, List.mem_cons,
      exists_eq_left, introduced_of_not_isName text noName, List.mem_flatMap]

/-- The search with a stack finds the names that the pattern introduces. -/
theorem mem_names_iff {n : Node} {name : String} : name ∈ names text n ↔ name ∈ introduced text n := by
  simp [names, mem_namesOf_iff]

end RepoAudit.Pattern
