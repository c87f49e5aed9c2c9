import RepoAudit.Proofs.Symbol.Change

/-! # The index stands for nodes of its tree

Whatever the tables of an indexed module hold comes from the tree of its own source file: a function
is the name of a function there, a method of a class is the name of a method there, and a member of
an object literal is a node there.

* `Source.NamesFunction` – a qualified name that a function of the tree has;
* `Entity.Grounded`, `Module.Grounded` – what the tables promise;
* `index_grounded` – the index of a source file keeps the promise.
-/

namespace RepoAudit

open Syntax

/-- Some function, method or function expression of the tree has this qualified name. -/
def Source.NamesFunction (f : Source) (name : String) : Prop :=
  ∃ c, f.root.Within c ∧ c.kind.isFunctionLike = true ∧ f.qualifiedName? c = some name

/-- An entity stands for nodes of the tree of `f`. -/
def Entity.Grounded (f : Source) : Entity → Prop
  | .function name => f.NamesFunction name
  | .cls c => c.module = f.path ∧
      ∀ name method, c.methods.find? name = some method → f.NamesFunction method
  | .object o => o.module = f.path ∧
      ∀ name target, o.members.find? name = some target → f.root.Within target

/-- Every entity in the tables of a module stands for nodes of the module's tree. -/
structure Module.Grounded (m : Module) : Prop where
  bound : ∀ scope name e, m.boundAt? scope name = some (.entity e) → e.Grounded m.source
  classes : ∀ key cls, m.classes.find? key = some cls → (Entity.cls cls).Grounded m.source
  objects : ∀ key object, m.objects.find? key = some object →
    (Entity.object object).Grounded m.source

namespace Source

variable {f : Source}

/-! ## Classes -/

theorem addMember_grounded {cls : ClassSymbol} {member : Cursor} (within : f.root.Within member)
    (h : (Entity.cls cls).Grounded f) : (Entity.cls (f.addMember cls member)).Grounded f := by
  unfold addMember
  split
  · rename_i kind
    split
    · rename_i name qualified hname hqualified
      have isMethod : member.kind.isFunctionLike = true := by
        rw [eq_of_beq kind]
        decide
      -- the fields of a constructor change nothing about the methods
      have added : (Entity.cls { cls with methods := cls.methods.insertNew name qualified }).Grounded f := by
        refine ⟨h.1, fun other method found => ?_⟩
        rcases Table.of_find?_insertNew found with ⟨-, rfl⟩ | before
        · exact ⟨member, within, isMethod, hqualified⟩
        · exact h.2 other method before
      dsimp only
      split
      · exact ⟨added.1, added.2⟩
      · exact added
    · exact h
  · split
    · split
      · exact ⟨h.1, h.2⟩
      · exact h
    · exact h

theorem foldl_addMember_grounded {members : List Cursor} {cls : ClassSymbol}
    (within : ∀ member ∈ members, f.root.Within member) (h : (Entity.cls cls).Grounded f) :
    (Entity.cls (members.foldl f.addMember cls)).Grounded f := by
  induction members generalizing cls with
  | nil => exact h
  | cons member rest ih =>
    refine ih (fun other mem => within other (List.mem_cons_of_mem _ mem)) ?_
    exact addMember_grounded (within member (by simp)) h

theorem classSymbol?_grounded {c : Cursor} {cls : ClassSymbol} (within : f.root.Within c)
    (h : f.classSymbol? c = some cls) : (Entity.cls cls).Grounded f := by
  obtain ⟨name, -, rfl⟩ := Option.map_eq_some_iff.1 h
  refine foldl_addMember_grounded ?_ ⟨rfl, fun _ _ found => by cases found⟩
  intro member mem
  cases body : c.child? "body" with
  | none => simp [body] at mem
  | some block =>
    simp only [body, Option.map_some, Option.getD_some] at mem
    exact (within.role body).named mem

/-! ## Object literals -/

theorem within_of_objectMember? {member target : Cursor} {name : String}
    (within : f.root.Within member) (h : f.objectMember? member = some (name, target)) :
    f.root.Within target := by
  unfold objectMember? at h
  split at h
  · obtain ⟨_, -, equal⟩ := Option.map_eq_some_iff.1 h
    cases equal
    exact within
  · split at h
    · cases h
      exact within
    · split at h
      · split at h
        · rename_i key value _ place
          split at h
          · cases h
            exact within.role place
          · cases h
        · cases h
      · cases h

theorem objectSymbol?_grounded {c : Cursor} {object : ObjectSymbol} (within : f.root.Within c)
    (h : f.objectSymbol? c = some object) : (Entity.object object).Grounded f := by
  obtain ⟨name, -, rfl⟩ := Option.map_eq_some_iff.1 h
  refine ⟨rfl, fun name target found => ?_⟩
  rw [addFields, Table.find?_foldl_insertNew] at found
  obtain ⟨⟨_, _⟩, first, rfl⟩ := Option.map_eq_some_iff.1 found
  obtain ⟨member, mem, hmember⟩ := List.mem_filterMap.1 (List.mem_of_find?_eq_some first)
  exact within_of_objectMember? (within.named mem) hmember

end Source

namespace Module

variable {f : Source} {c : Cursor} {m m' : Module}

/-! ## Modules -/

theorem Grounded.bind {scope : NodeKey} {name : String} {b : Binding} (h : m.Grounded)
    (entity : ∀ e, b = .entity e → e.Grounded m.source) : (m.bind scope name b).Grounded where
  bound scope' name' e found := by
    rcases boundAt?_of_bind found with before | ⟨-, -, bound⟩
    · exact h.bound scope' name' e before
    · exact entity e bound.symm
  classes := h.classes
  objects := h.objects

/-- Exports say nothing about entities. -/
theorem Grounded.of_tables_eq (h : m.Grounded) (source : m'.source = m.source)
    (scopes : m'.scopes = m.scopes) (classes : m'.classes = m.classes)
    (objects : m'.objects = m.objects) : m'.Grounded where
  bound scope name e found := by
    rw [source]
    exact h.bound scope name e (by rwa [boundAt?, scopes] at found)
  classes key cls found := by
    rw [source]
    exact h.classes key cls (classes ▸ found)
  objects key object found := by
    rw [source]
    exact h.objects key object (objects ▸ found)

theorem Grounded.change (within : f.root.Within c) (source : m.source = f) (h : m.Grounded)
    (change : Change f c m m') : m'.Grounded := by
  subst source
  cases change with
  | @function name qualified kind hname hqualified =>
    refine h.bind fun e equal => ?_
    cases equal
    exact ⟨c, within, Kind.isFunctionLike_of_isFunctionDeclaration kind, hqualified⟩
  | @defaultFunction value qualified _ place kind hqualified =>
    refine h.bind fun e equal => ?_
    cases equal
    exact ⟨value, within.role place, Kind.isFunctionLike_of_isFunctionExpression kind, hqualified⟩
  | @addClass d cls place _ _ hcls =>
    refine ⟨h.bound, fun key other found => ?_, h.objects⟩
    rcases Table.of_find?_insert found with ⟨-, rfl⟩ | before
    · exact Source.classSymbol?_grounded (within.self_or_child place) hcls
    · exact h.classes key other before
  | @addObject d object place _ hobject =>
    refine ⟨h.bound, h.classes, fun key other found => ?_⟩
    rcases Table.of_find?_insert found with ⟨-, rfl⟩ | before
    · exact Source.objectSymbol?_grounded (within.self_or_child place) hobject
    · exact h.objects key other before
  | bindClass found =>
    refine h.bind fun e equal => ?_
    cases equal
    exact h.classes _ _ found
  | bindObject found =>
    refine h.bind fun e equal => ?_
    cases equal
    exact h.objects _ _ found
  | bindVariable | bindImport => exact h.bind fun e equal => by cases equal
  | mention | exportNamed | exportDeclared _ _ _ | exportValue | reexport | star =>
    exact h.of_tables_eq rfl rfl rfl rfl

/-- The tables of an indexed source file stand for nodes of its tree. -/
theorem index_grounded (f : Source) : (index f).Grounded := by
  refine index_induction ⟨?_, ?_, ?_⟩ ?_
  · intro scope name e found
    cases found
  · intro key cls found
    cases found
  · intro key object found
    cases found
  · intro c visited m m' source change h
    exact h.change (Cursor.within_of_mem_walk visited) source change

end Module

end RepoAudit
