import RepoAudit.Proofs.Symbol.Change

/-! # The table of classes

Every class that can be named has an entry under the key of its node, and every entry is the table of
a class with that key.  In the table of a class a method name stands for the first method that has it.

* `find?_methods_classSymbol?` – the methods of a class;
* `find?_classes_index` – the entry of a class whose key no other class shares.
-/

namespace RepoAudit

open Syntax

namespace Source

variable (f : Source)

/-! ## The methods of a class -/

def isMethodNamed (name : String) (member : Cursor) : Bool :=
  member.kind == "method_definition" && f.ownName? member == some name

/-- The qualified name of a member of a class body that is a method with this own name. -/
def methodNamed? (name : String) (member : Cursor) : Option String :=
  if f.isMethodNamed name member then f.qualifiedName? member else none

variable {f} {name : String}

/-- Only a method with the name tells anything new about the name. -/
theorem find?_methods_addMember (cls : ClassSymbol) (member : Cursor) :
    (f.addMember cls member).methods.find? name =
      (cls.methods.find? name).or (f.methodNamed? name member) := by
  unfold addMember
  split
  · rename_i isMethod
    split
    · rename_i own qualified hown hqualified
      have known : (cls.methods.insertNew own qualified).find? name =
          (cls.methods.find? name).or (f.methodNamed? name member) := by
        rw [Table.find?_insertNew, methodNamed?, isMethodNamed, isMethod, hown, hqualified]
        by_cases same : name = own
        · subst same
          cases cls.methods.find? name <;> simp
        · simp [same, Ne.symm same]
      -- a constructor adds fields as well, which leaves the methods as they are
      dsimp only
      split
      · exact known
      · exact known
    · rename_i unnamed
      have absent : f.methodNamed? name member = none := by
        unfold methodNamed? isMethodNamed
        split
        · rename_i isNamed
          rw [Bool.and_eq_true, beq_iff_eq, beq_iff_eq] at isNamed
          exact Option.eq_none_iff_forall_ne_some.2 fun q => unnamed name q isNamed.2
        · rfl
      rw [absent, Option.or_none]
  · rename_i notMethod
    have absent : f.methodNamed? name member = none := by
      simp [methodNamed?, isMethodNamed, notMethod]
    rw [absent, Option.or_none]
    split
    · split
      · rfl
      · rfl
    · rfl

theorem find?_methods_foldl_addMember (members : List Cursor) (cls : ClassSymbol) :
    (members.foldl f.addMember cls).methods.find? name =
      (cls.methods.find? name).or (members.findSome? (f.methodNamed? name)) := by
  induction members generalizing cls with
  | nil => simp
  | cons member rest ih =>
    rw [List.foldl_cons, ih, find?_methods_addMember, Option.or_assoc, List.findSome?_cons]
    cases f.methodNamed? name member <;> rfl

/-- The first method with a name, if it can be named, is what the table of the class has for it. -/
theorem find?_methods_classSymbol? {c body method : Cursor} {cls : ClassSymbol} {qualified : String}
    (symbol : f.classSymbol? c = some cls) (place : c.child? "body" = some body)
    (first : body.namedChildren.find? (f.isMethodNamed name) = some method)
    (named : f.qualifiedName? method = some qualified) :
    cls.methods.find? name = some qualified := by
  obtain ⟨_, -, rfl⟩ := Option.map_eq_some_iff.1 symbol
  obtain ⟨isMethod, before, after, split, others⟩ := List.find?_eq_some_iff_append.1 first
  have skipped : before.findSome? (f.methodNamed? name) = none := by
    rw [List.findSome?_eq_none_iff]
    intro member mem
    have other := others member mem
    simp only [Bool.not_eq_true'] at other
    simp [methodNamed?, other]
  have nothing : ({} : Table String String).find? name = none := rfl
  rw [find?_methods_foldl_addMember, nothing, Option.none_or, place, Option.map_some,
    Option.getD_some, split, List.findSome?_append, skipped, Option.none_or, List.findSome?_cons]
  simp [methodNamed?, isMethod, named]

/-! ## The classes of a module -/

/-- No other class of the tree has the key of this one. -/
def HasOwnKey (f : Source) (c : Cursor) : Prop :=
  ∀ d, f.root.Within d → d.kind.isClass = true → d.key = c.key → d = c

end Source

namespace Module

variable {f : Source} {c : Cursor} {m m' : Module}

/-- The entries of the table of classes are the tables of classes of the tree, filed under the keys
of their nodes. -/
def ClassesFiled (m : Module) : Prop :=
  ∀ key cls, m.classes.find? key = some cls →
    ∃ d, m.source.root.Within d ∧ d.kind.isClass = true ∧ d.key = key ∧
      m.source.classSymbol? d = some cls

theorem ClassesFiled.change (within : f.root.Within c) (source : m.source = f) (h : m.ClassesFiled)
    (change : Change f c m m') : m'.ClassesFiled := by
  subst source
  cases change with
  | @addClass d cls place kind _ symbol =>
    intro key other found
    rcases Table.of_find?_insert found with ⟨rfl, rfl⟩ | before
    · exact ⟨d, within.self_or_child place, kind, rfl, symbol⟩
    · exact h key other before
  | _ => exact h

theorem index_classesFiled (f : Source) : (index f).ClassesFiled := by
  refine index_induction ?_ ?_
  · intro key cls found
    cases found
  · intro c visited m m' source change h
    exact h.change (Cursor.within_of_mem_walk visited) source change

/-- A class that entered the table stays there. -/
theorem contains_classes_of_change {key : NodeKey} (change : Change f c m m')
    (h : m.classes.contains key = true) : m'.classes.contains key = true := by
  cases change with
  | @addClass d cls =>
    rw [Table.contains, Table.find?_insert]
    split
    · rfl
    · exact h
  | _ => exact h

/-- The step for a class that can be named leaves it in the table. -/
theorem contains_classes_visit {cls : ClassSymbol} (kind : c.kind.isClass = true)
    (symbol : m.source.classSymbol? c = some cls) :
    (m.visit c).classes.contains c.key = true := by
  have notFunction : c.kind.isFunctionDeclaration = false := Kind.isFunctionDeclaration_of_isClass kind
  rw [visit, notFunction, kind]
  simp only [Bool.false_eq_true, if_false, if_true]
  unfold indexClass
  split
  · rename_i known
    exact known
  · rw [symbol]
    have added : (m.classes.insert c.key cls).contains c.key = true := by simp [Table.contains]
    dsimp only
    split
    · split
      · exact added
      · exact added
    · split
      · split
        · exact added
        · exact added
      · exact added

theorem contains_classes_index {cls : ClassSymbol} (visited : c ∈ f.root.walk)
    (kind : c.kind.isClass = true) (symbol : f.classSymbol? c = some cls) :
    (index f).classes.contains c.key = true := by
  -- the walk up to the class, the class, and the rest of the walk, which keeps its entry
  obtain ⟨before, after, split⟩ := List.append_of_mem visited
  have reached : (before.foldl visit { source := f }).source = f := visits_source rfl
  have here : ((before.foldl visit { source := f }).visit c).classes.contains c.key = true :=
    contains_classes_visit kind (by rw [reached]; exact symbol)
  have source : ((before.foldl visit { source := f }).visit c).source = f :=
    (visit_changes reached).source_eq.trans reached
  rw [index, split, List.foldl_append, List.foldl_cons]
  refine (visits_induction (I := fun m => m.classes.contains c.key = true) source here ?_).1
  intro d _ m m' _ change h
  exact contains_classes_of_change change h

/-- The entry under the key of a class is the table of the class when no other class has its key. -/
theorem find?_classes_index {cls : ClassSymbol} (visited : c ∈ f.root.walk)
    (kind : c.kind.isClass = true) (symbol : f.classSymbol? c = some cls) (own : f.HasOwnKey c) :
    (index f).classes.find? c.key = some cls := by
  obtain ⟨other, found⟩ := Option.isSome_iff_exists.1 (contains_classes_index visited kind symbol)
  obtain ⟨d, within, isClass, sameKey, filed⟩ := index_classesFiled f _ _ found
  rw [index_source] at within filed
  obtain rfl := own d within isClass sameKey
  rw [symbol] at filed
  rw [found, filed]

end Module

end RepoAudit
