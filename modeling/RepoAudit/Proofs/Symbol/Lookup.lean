import RepoAudit.Symbol.Resolve

/-! # What names and `this` mean at a node

Both are looked for along the way up from a node.  A name means what the first scope that has it binds
it to; `this` means the nearest class or object literal that can own it.

* `Module.Sees` – no node between a site and a scope around it binds a name;
* `lookup?_eq_some_iff` – what a look-up of a name finds;
* `OwnedBy` – `this` belongs to a class;
* `ownerAlong_eq_cls_iff` – when the search for the owner of `this` finds a class.
-/

namespace RepoAudit

open Syntax

/-- `this` belongs to a class at a place with this way up: through arrow functions and nodes that are
no functions, the way comes to a method of the class, or to its body between the methods, where
fields get their values and static blocks stand.  What stands in the body of a further class belongs
to that one. -/
inductive OwnedBy (cls : Cursor) : List Cursor → Prop
  | method {method body : Cursor} {outer : List Cursor} :
      method.kind = "method_definition" → body.kind = "class_body" →
      OwnedBy cls (method :: body :: cls :: outer)
  | body {body : Cursor} {outer : List Cursor} :
      body.kind = "class_body" → OwnedBy cls (body :: cls :: outer)
  | arrow {c : Cursor} {above : List Cursor} :
      c.kind = "arrow_function" → OwnedBy cls above → OwnedBy cls (c :: above)
  | inside {c : Cursor} {above : List Cursor} :
      c.kind.isFunctionLike = false → c.kind ≠ "class_body" → c.kind ≠ "program" →
      OwnedBy cls above → OwnedBy cls (c :: above)

theorem OwnedBy.mem {cls : Cursor} {way : List Cursor} (h : OwnedBy cls way) : cls ∈ way := by
  induction h with
  | method | body => simp
  | arrow _ _ ih => exact List.mem_cons_of_mem _ ih
  | inside _ _ _ _ ih => exact List.mem_cons_of_mem _ ih

namespace Module

variable {m : Module} {name : String} {way : List Cursor}

/-! ## Names -/

/-- A scope around a site, or the site itself, such that no node before it on the way up binds the
name. -/
def Sees (m : Module) (name : String) (site scope : Cursor) : Prop :=
  ∃ inner outer, site.selfAndAncestors = inner ++ scope :: outer ∧
    ∀ c ∈ inner, m.boundAt? c.key name = none

/-- A look-up finds what the first scope that binds the name binds it to. -/
theorem lookup?_eq_some_iff {site : Cursor} {b : Binding} :
    m.lookup? name site = some b ↔
      ∃ scope, m.Sees name site scope ∧ m.boundAt? scope.key name = some b := by
  rw [lookup?, List.findSome?_eq_some_iff]
  constructor
  · rintro ⟨inner, scope, outer, way, bound, unbound⟩
    exact ⟨scope, ⟨inner, outer, way, unbound⟩, bound⟩
  · rintro ⟨scope, ⟨inner, outer, way, unbound⟩, bound⟩
    exact ⟨inner, scope, outer, way, bound, unbound⟩

/-! ## `this` -/

/-- The search for the owner of `this` ends at a class to which it belongs, or at an object literal. -/
theorem ownerAlong_cases {e : Entity} (found : m.ownerAlong way = some e) :
    (∃ cls symbol, OwnedBy cls way ∧ m.classes.find? cls.key = some symbol ∧ e = .cls symbol) ∨
      ∃ key object, m.objects.find? key = some object ∧ e = .object object := by
  have atClass {c cls : Cursor} {above : List Cursor} (owned : OwnedBy cls (c :: above))
      (entry : (m.classes.find? cls.key).map Entity.cls = some e) :
      (∃ cls symbol, OwnedBy cls (c :: above) ∧ m.classes.find? cls.key = some symbol ∧
        e = .cls symbol) ∨ ∃ key object, m.objects.find? key = some object ∧ e = .object object := by
    obtain ⟨symbol, hsymbol, rfl⟩ := Option.map_eq_some_iff.1 entry
    exact .inl ⟨cls, symbol, owned, hsymbol, rfl⟩
  induction way with
  | nil => cases found
  | cons c above ih =>
    -- the branches come in the order of the search: arrow, method, body, end, anything else
    unfold ownerAlong at found
    split at found
    · rename_i isArrow
      rcases ih found with ⟨cls, symbol, owned, entry⟩ | object
      · exact .inl ⟨cls, symbol, .arrow (by simpa using isArrow) owned, entry⟩
      · exact .inr object
    · split at found
      · rename_i isMethod
        split at found
        · cases found
        · split at found
          · rename_i isBody
            split at found
            · exact atClass (.method (by simpa using isMethod) (by simpa using isBody)) found
            · cases found
          · split at found
            · obtain ⟨object, hobject, rfl⟩ := Option.map_eq_some_iff.1 found
              exact .inr ⟨_, object, hobject, rfl⟩
            · cases found
      · split at found
        · rename_i isBody
          split at found
          · exact atClass (.body (by simpa using isBody)) found
          · cases found
        · rename_i noBody
          split at found
          · cases found
          · rename_i passed
            rw [Bool.or_eq_true, not_or, Bool.not_eq_true, beq_iff_eq] at passed
            rcases ih found with ⟨cls, symbol, owned, entry⟩ | object
            · exact .inl ⟨cls, symbol, .inside passed.1 (by simpa using noBody) passed.2 owned, entry⟩
            · exact .inr object

theorem ownerAlong_of_ownedBy {cls : Cursor} (h : OwnedBy cls way) :
    m.ownerAlong way = (m.classes.find? cls.key).map .cls := by
  induction h with
  | method isMethod isBody => simp [ownerAlong, isMethod, isBody]
  | body isBody => simp [ownerAlong, isBody]
  | arrow isArrow _ ih =>
    unfold ownerAlong
    simp [isArrow, ih]
  | @inside c above noFunction noBody noRoot _ ih =>
    have noArrow : c.kind ≠ "arrow_function" := by
      intro equal
      rw [equal] at noFunction
      exact absurd noFunction (by decide)
    have noMethod : c.kind ≠ "method_definition" := by
      intro equal
      rw [equal] at noFunction
      exact absurd noFunction (by decide)
    unfold ownerAlong
    simp [noArrow, noMethod, noBody, noFunction, noRoot, ih]

/-- The search for the owner of `this` finds a class exactly when it belongs to one of the table. -/
theorem ownerAlong_eq_cls_iff {symbol : ClassSymbol} :
    m.ownerAlong way = some (.cls symbol) ↔
      ∃ cls, OwnedBy cls way ∧ m.classes.find? cls.key = some symbol := by
  constructor
  · intro found
    rcases ownerAlong_cases found with ⟨cls, _, owned, entry, same⟩ | ⟨_, _, _, other⟩
    · cases same
      exact ⟨cls, owned, entry⟩
    · cases other
  · rintro ⟨cls, owned, entry⟩
    rw [ownerAlong_of_ownedBy owned, entry, Option.map_some]

end Module

end RepoAudit
