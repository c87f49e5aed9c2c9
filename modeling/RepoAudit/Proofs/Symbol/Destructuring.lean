import Mathlib.Data.List.Perm.Basic
import Mathlib.Logic.Relation
import RepoAudit.Proofs.Symbol.Change
import RepoAudit.Proofs.Symbol.Pattern

/-! # What a pattern adds to a scope

The names of a pattern enter a scope as variables of which nothing is known.  The search for them keeps a
stack, but nothing hangs on that: the nodes that wait may be taken in any order, and the parts of a node may
join the others anywhere.

* `Module.AddsUnknown` – unknown variables are added to a scope, and all that was there stays;
* `Pattern.Round` – one round of the search, with any of the nodes that wait;
* `Pattern.Round.sizeList_lt`, `Pattern.addsUnknown_of_rounds` – a round makes progress, and what all of them
  together add;
* `Module.bindPattern_order_free` – the names of a pattern are added, in whichever order.
-/

namespace RepoAudit

open Syntax
open Relation (ReflTransGen)

namespace Module

/-- Variables of which nothing is known are added to a scope.  A name that the scope has keeps its meaning,
and all other names, scopes and tables stay as they are. -/
structure AddsUnknown (scope : NodeKey) (names : List String) (m m' : Module) : Prop where
  bound : ∀ key name, m'.boundAt? key name =
    if key = scope ∧ name ∈ names then some ((m.boundAt? key name).getD .unknown)
    else m.boundAt? key name
  opened : (m'.scopes.find? scope).isSome ↔ (m.scopes.find? scope).isSome ∨ names ≠ []
  others : ∀ key, key ≠ scope → m'.scopes.find? key = m.scopes.find? key
  rest : { m' with scopes := m.scopes } = m

/-- Two modules that differ at most in the order in which a scope lists its names. -/
structure SameScopes (m m' : Module) : Prop where
  scopes : ∀ key, (m.scopes.find? key).map Table.find? = (m'.scopes.find? key).map Table.find?
  rest : { m with scopes := m'.scopes } = m'

variable {scope : NodeKey} {names others : List String} {m m' m'' : Module}

namespace AddsUnknown

theorem refl (scope : NodeKey) (m : Module) : AddsUnknown scope [] m m where
  bound key name := by simp
  opened := by simp
  others _ _ := rfl
  rest := rfl

theorem bind (m : Module) (scope : NodeKey) (name : String) :
    AddsUnknown scope [name] m (m.bind scope name .unknown) where
  bound key name' := by
    rw [boundAt?_bind]
    by_cases same : key = scope ∧ name' = name
    · simp [same]
    · simp [same]
  opened := by simp [Module.bind, Table.find?_alter]
  others key other := by simp [Module.bind, Table.find?_alter, other]
  rest := rfl

theorem trans (h : AddsUnknown scope names m m') (h' : AddsUnknown scope others m' m'') :
    AddsUnknown scope (names ++ others) m m'' where
  bound key name := by
    rw [h'.bound, h.bound]
    -- a name of both lists has its meaning by the time it comes again
    by_cases here : key = scope
    · by_cases first : name ∈ names <;> by_cases second : name ∈ others <;> simp [here, first, second]
    · simp [here]
  opened := by
    rw [h'.opened, h.opened, or_assoc, ← not_and_or, ← List.append_eq_nil_iff]
  others key other := (h'.others key other).trans (h.others key other)
  rest := (congrArg (fun k : Module => { k with scopes := m.scopes }) h'.rest).trans h.rest

/-- Only the set of the names counts. -/
theorem of_mem_iff (h : AddsUnknown scope names m m') (same : ∀ name, name ∈ names ↔ name ∈ others) :
    AddsUnknown scope others m m' where
  bound key name := by simp only [h.bound, same]
  opened := by simp only [h.opened, ne_eq, List.eq_nil_iff_forall_not_mem, same]
  others := h.others
  rest := h.rest

/-- What is added to a scope determines what becomes of it. -/
theorem sameScopes (h : AddsUnknown scope names m m') (h' : AddsUnknown scope names m m'') :
    SameScopes m' m'' where
  scopes key := by
    by_cases here : key = scope
    · subst here
      have bound (name : String) : m'.boundAt? key name = m''.boundAt? key name := by
        rw [h.bound, h'.bound]
      have opened : (m'.scopes.find? key).isSome ↔ (m''.scopes.find? key).isSome := by
        rw [h.opened, h'.opened]
      simp only [boundAt?] at bound
      cases one : m'.scopes.find? key with
      | none => cases other : m''.scopes.find? key <;> simp_all
      | some table =>
        cases other : m''.scopes.find? key with
        | none => simp_all
        | some table' =>
          rw [one, other] at bound
          exact congrArg some (funext bound)
    · rw [h.others key here, h'.others key here]
  rest := by
    have same : { m' with scopes := m.scopes } = { m'' with scopes := m.scopes } :=
      h.rest.trans h'.rest.symm
    exact congrArg (fun k : Module => { k with scopes := m''.scopes }) same

end AddsUnknown

end Module

namespace Pattern

open RepoAudit.Module (AddsUnknown)

/-- One round of the search through a pattern, with any of the nodes that wait: a name is bound, and any
other node makes way for its parts, which join the nodes that wait anywhere. -/
inductive Round (text : Node → String) (scope : NodeKey) :
    List Node × Module → List Node × Module → Prop
  | name {n : Node} (before after : List Node) (m : Module) (isName : isName n = true) :
      Round text scope (before ++ n :: after, m) (before ++ after, m.bind scope (text n) .unknown)
  | parts {n : Node} {waiting : List Node} (before after : List Node) (m : Module)
      (noName : isName n = false) (joined : waiting.Perm (parts n ++ (before ++ after))) :
      Round text scope (before ++ n :: after, m) (waiting, m)

variable {text : Node → String} {scope : NodeKey} {stack stack' : List Node} {m m' : Module}

theorem sizeList_perm {ns ns' : List Node} (h : ns.Perm ns') : Node.sizeList ns = Node.sizeList ns' := by
  induction h with
  | nil => rfl
  | cons n _ ih => simp only [Node.sizeList, ih]
  | swap n n' ns =>
    simp only [Node.sizeList]
    omega
  | trans _ _ first second => exact first.trans second

/-- A round makes the trees that wait smaller. -/
theorem Round.sizeList_lt (round : Round text scope (stack, m) (stack', m')) :
    Node.sizeList stack' < Node.sizeList stack := by
  cases round with
  | @name n before after _ _ =>
    have := n.size_pos
    simp only [sizeList_append, Node.sizeList]
    omega
  | @parts n _ before after _ _ joined =>
    have := sizeList_parts_lt n
    rw [sizeList_perm joined]
    simp only [sizeList_append, Node.sizeList]
    omega

theorem exists_round (n : Node) (rest : List Node) (m : Module) :
    ∃ next, Round text scope (n :: rest, m) next := by
  cases isName : isName n with
  | true => exact ⟨_, .name [] rest m isName⟩
  | false => exact ⟨_, .parts [] rest m isName (.refl _)⟩

/-- Rounds that leave nothing to do have added the names of what waited. -/
theorem addsUnknown_of_rounds (rounds : ReflTransGen (Round text scope) (stack, m) ([], m')) :
    AddsUnknown scope (stack.flatMap (introduced text)) m m' := by
  generalize start : (stack, m) = state at rounds
  induction rounds using ReflTransGen.head_induction_on generalizing stack m with
  | refl =>
    cases start
    exact .refl scope m'
  | head round _ ih =>
    subst start
    cases round with
    | @name n before after _ isName =>
      refine ((AddsUnknown.bind m scope (text n)).trans (ih rfl)).of_mem_iff fun name => ?_
      simp only [List.flatMap_append, List.flatMap_cons, introduced_of_isName text isName,
        List.mem_append]
      exact or_left_comm
    | @parts n waiting before after _ noName joined =>
      -- the parts introduce what the node does, wherever they wait
      refine (ih rfl).of_mem_iff fun name => ?_
      rw [(joined.flatMap_right _).mem_iff]
      simp only [List.flatMap_append, List.flatMap_cons, introduced_of_not_isName text noName,
        List.mem_append]
      exact or_left_comm

/-- The search with a stack is one of the ways to go through a pattern. -/
theorem rounds_namesOf (stack : List Node) (m : Module) :
    ReflTransGen (Round text scope) (stack, m)
      ([], (namesOf text stack).foldl (fun m name => m.bind scope name .unknown) m) := by
  fun_induction namesOf text stack generalizing m with
  | case1 => exact .refl
  | case2 n rest isName ih => exact .head (.name [] rest m isName) (ih _)
  | case3 n rest noName ih =>
    rw [Bool.not_eq_true] at noName
    have joined : ((parts n).reverse ++ rest).Perm (parts n ++ ([] ++ rest)) :=
      (List.reverse_perm _).append_right rest
    exact .head (.parts [] rest m noName joined) (ih m)

end Pattern

open Pattern (Round)

/-- A pattern adds the names that it introduces to a scope, as variables of which nothing is known, and
changes nothing else.  The work on its stack may be done in any order: every order comes to an end, ends with
nothing left to do, and ends with the same. -/
theorem Module.bindPattern_order_free (m : Module) (scope : NodeKey) (pattern : Node) :
    m.AddsUnknown scope (Pattern.introduced m.source.text pattern) (m.bindPattern scope pattern) ∧
      ReflTransGen (Round m.source.text scope) ([pattern], m) ([], m.bindPattern scope pattern) ∧
      (WellFounded fun next state => Round m.source.text scope state next) ∧
      ∀ stack m', ReflTransGen (Round m.source.text scope) ([pattern], m) (stack, m') →
        (∀ next, ¬ Round m.source.text scope (stack, m') next) →
        stack = [] ∧ SameScopes m' (m.bindPattern scope pattern) := by
  have searched : ReflTransGen (Round m.source.text scope) ([pattern], m)
      ([], m.bindPattern scope pattern) :=
    Pattern.rounds_namesOf [pattern] m
  have adds {m' : Module} (rounds : ReflTransGen (Round m.source.text scope) ([pattern], m) ([], m')) :
      m.AddsUnknown scope (Pattern.introduced m.source.text pattern) m' := by
    simpa using Pattern.addsUnknown_of_rounds rounds
  refine ⟨adds searched, searched, ?_, ?_⟩
  · refine Subrelation.wf (r := InvImage (· < ·) fun state => Node.sizeList state.1) ?_
      (InvImage.wf _ Nat.lt_wfRel.wf)
    rintro ⟨stack', _⟩ ⟨stack, _⟩ round
    exact round.sizeList_lt
  · intro stack m' rounds ended
    cases stack with
    | nil => exact ⟨rfl, (adds rounds).sameScopes (adds searched)⟩
    | cons n rest =>
      obtain ⟨next, round⟩ := Pattern.exists_round n rest m'
      exact absurd round (ended next)

/-- The pattern `{a: [b = c], ...d}`, with a key, a default value and a rest. -/
def nestedPattern : Source where
  path := "a.ts"
  language := "typescript"
  bytes := Text.Utf8.encode "\x7ba: [b = c], ...d\x7d"
  tree := ⟨"object_pattern", true, none, 0, 18, [
    ⟨"pair_pattern", true, none, 1, 11, [
      ⟨"property_identifier", true, some "key", 1, 2, []⟩,
      ⟨"array_pattern", true, some "value", 4, 11, [
        ⟨"assignment_pattern", true, none, 5, 10, [
          ⟨"identifier", true, some "left", 5, 6, []⟩,
          ⟨"identifier", true, some "right", 9, 10, []⟩]⟩]⟩]⟩,
    ⟨"rest_pattern", true, none, 13, 17, [⟨"identifier", true, none, 16, 17, []⟩]⟩]⟩

/-- The key and the default value introduce nothing, and a function that has one of the names keeps it. -/
theorem Module.bindPattern_order_free_nested :
    let scope : NodeKey := ⟨0, 40, "program"⟩
    let m := ({ source := nestedPattern } : Module).bind scope "b" (.entity (.function "b"))
    let m' := m.bindPattern scope nestedPattern.tree
    Pattern.introduced m.source.text nestedPattern.tree = ["b", "d"] ∧
      m'.boundAt? scope "b" = some (.entity (.function "b")) ∧
      m'.boundAt? scope "d" = some .unknown ∧ m'.boundAt? scope "c" = none := by
  intro scope m m'
  have names : Pattern.introduced m.source.text nestedPattern.tree = ["b", "d"] := by decide +kernel
  have adds : m.AddsUnknown scope ["b", "d"] m' :=
    names ▸ (bindPattern_order_free m scope nestedPattern.tree).1
  have before (name : String) : m.boundAt? scope name =
      if name = "b" then some (.entity (.function "b")) else none := by
    simp only [m, boundAt?_bind, true_and]
    rfl
  refine ⟨names, ?_, ?_, ?_⟩
  · simp [adds.bound, before]
  · simp [adds.bound, before]
  · simp [adds.bound, before]

end RepoAudit
