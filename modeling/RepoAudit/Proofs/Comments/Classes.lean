import RepoAudit.Proofs.Comments.Names
import RepoAudit.Proofs.Table

/-! # Classes, object literals and declared names in files with comments

What a file says about a class or an object literal is the same with and without comments: the same
methods and members, and for a field, a value or a heritage the same node in its own tree.

* `Table.Paired` – two tables with the same keys and values that correspond;
* `Paired.firstNamed?` – the child that is read first, where no comment may stand before it;
* `ClassSymbol.Paired`, `classSymbol?_paired` – classes, what they extend, their methods and fields;
* `ObjectSymbol.Paired`, `objectSymbol?_paired` – object literals;
* `declaredNames_eq` – the names that a declaration introduces.
-/

namespace RepoAudit

open Syntax

/-! ## Tables -/

/-- Two tables with the same keys, whose values correspond. -/
def Table.Paired {κ ν ν' : Type} [DecidableEq κ] (R : ν → ν' → Prop) (t : Table κ ν) (t' : Table κ ν') :
    Prop :=
  ∀ k, Option.Rel R (t.find? k) (t'.find? k)

namespace Table.Paired

variable {κ ν ν' : Type} [DecidableEq κ] {R : ν → ν' → Prop} {t : Table κ ν} {t' : Table κ ν'}

theorem empty : Paired R (Table.empty : Table κ ν) Table.empty :=
  fun _ => .none

theorem contains_eq (h : Paired R t t') (k : κ) : t'.contains k = t.contains k :=
  isSome_of_optionRel (h k)

theorem alter (h : Paired R t t') {k : κ} {f : Option ν → ν} {g : Option ν' → ν'}
    (same : ∀ x y, Option.Rel R x y → R (f x) (g y)) : Paired R (t.alter k f) (t'.alter k g) := by
  intro k'
  rw [find?_alter, find?_alter]
  split
  · exact .some (same _ _ (h k))
  · exact h k'

theorem insert (h : Paired R t t') (k : κ) {v : ν} {v' : ν'} (same : R v v') :
    Paired R (t.insert k v) (t'.insert k v') :=
  h.alter fun _ _ _ => same

theorem insertNew (h : Paired R t t') (k : κ) {v : ν} {v' : ν'} (same : R v v') :
    Paired R (t.insertNew k v) (t'.insertNew k v') := by
  refine h.alter fun x y former => ?_
  cases former with
  | none => exact same
  | some known => exact known

end Table.Paired

namespace Source

variable {f f' : Source} {c c' : Cursor}

/-! ## The child that is read first -/

theorem map_node_child? (c : Cursor) (role : String) :
    (c.child? role).map (·.node) = c.node.child? role := by
  rw [Cursor.child?, Node.child?, ← c.map_node_children, List.find?_map]
  rfl

namespace Paired

theorem firstNamed? (h : Paired f f' c c')
    (late : ∀ before, mayFollow c.node before = true → before.any (·.named) = true) :
    Option.Rel (Paired f f') c.firstNamed? c'.firstNamed? :=
  Beside.firstNamed? h fun before _ admitted => late before admitted.1

/-- A child in a role, or else the first one, where a comment may come first only if the role is
played. -/
theorem childOrFirst? (h : Paired f f' c c') (role : String)
    (late : ∀ before, mayFollow c.node before = true →
      ((c.node.child? role).isSome || before.any (·.named)) = true) :
    Option.Rel (Paired f f') ((c.child? role).or c.firstNamed?)
      ((c'.child? role).or c'.firstNamed?) := by
  rcases cases_of_optionRel (h.child? role) with ⟨e, e'⟩ | ⟨d, d', e, e', paired⟩
  · rw [e, e']
    refine h.firstNamed? fun before allowed => ?_
    have := late before allowed
    rw [← map_node_child?, e] at this
    simpa using this
  · rw [e, e']
    exact .some paired

end Paired

/-! ## Classes -/

theorem heritageClause_paired (h : Paired f f' c c') (kind : c.kind = "class_heritage") :
    Option.Rel (Paired f f') (c.namedChildren.find? (·.kind != "implements_clause"))
      (c'.namedChildren.find? (·.kind != "implements_clause")) := by
  unfold Cursor.namedChildren
  rw [List.find?_filter, List.find?_filter]
  refine h.children.find? (fun a b paired => by rw [paired.node.named_eq, paired.kind_eq]) ?_ rfl
  rintro before d ⟨-, allowed, -⟩ -
  have known : c.node.kind = "class_heritage" := kind
  simpa [mayFollow, known, Cursor.kind] using allowed

theorem heritage?_paired (h : Paired f f' c c') :
    Option.Rel (Paired f f') (heritage? c) (heritage? c') := by
  have found : Option.Rel (Paired f f')
      (((c.childrenOfKind "class_heritage").flatMap (·.namedChildren)).find?
        (·.kind != "implements_clause"))
      (((c'.childrenOfKind "class_heritage").flatMap (·.namedChildren)).find?
        (·.kind != "implements_clause")) := by
    rw [List.find?_flatMap, List.find?_flatMap]
    exact optionRel_findSome? (h.childrenOfKind _ (by decide))
      fun a b paired => heritageClause_paired paired.1 paired.2
  unfold heritage?
  rcases cases_of_optionRel found with ⟨e, e'⟩ | ⟨clause, clause', e, e', paired⟩
  · simp only [e, e']
    exact .none
  · simp only [e, e', paired.kind_eq]
    split
    · -- of an `extends` clause without a value the first child is read
      rename_i extends_
      have known : clause.node.kind = "extends_clause" := by simpa [Cursor.kind] using extends_
      exact Paired.childOrFirst? paired "value" fun before allowed => by
        simpa [mayFollow, known] using allowed
    · exact .some paired

theorem declaresField_eq (h : Paired f f' c c') : declaresField c' = declaresField c := by
  refine h.children.any_eq (fun a b paired => by rw [paired.kind_eq]) ?_
  rintro before d ⟨comment, -⟩
  simp [Cursor.kind, comment.kind]

def FieldPaired (f f' : Source) (e e' : String × Cursor) : Prop :=
  e'.1 = e.1 ∧ Paired f f' e.2 e'.2

theorem parameterField?_paired (h : Paired f f' c c') :
    Option.Rel (FieldPaired f f') (f.parameterField? c) (f'.parameterField? c') := by
  unfold parameterField?
  rw [h.kind_eq, declaresField_eq h]
  split
  · rcases cases_of_optionRel (h.child? "pattern") with ⟨e, e'⟩ | ⟨pattern, pattern', e, e', paired⟩
    · simp only [e, e']
      exact .none
    · rcases cases_of_optionRel (h.child? "type") with ⟨t, t'⟩ | ⟨type, type', t, t', typePaired⟩
      · simp only [e, e', t, t']
        exact .none
      · simp only [e, e', t, t', paired.kind_eq]
        split
        · rename_i kind
          exact .some ⟨Paired.text_of_kind paired (eq_of_beq kind) rfl, typePaired⟩
        · exact .none
  · exact .none

theorem assignedField?_paired (h : Paired f f' c c') :
    Option.Rel (FieldPaired f f') (f.assignedField? c) (f'.assignedField? c') := by
  unfold assignedField?
  rw [h.kind_eq]
  split
  · rcases cases_of_optionRel (h.child? "left") with ⟨e, e'⟩ | ⟨left, left', e, e', leftPaired⟩
    · simp only [e, e']
      exact .none
    · rcases cases_of_optionRel (h.child? "right") with ⟨r, r'⟩ | ⟨right, right', r, r', rightPaired⟩
      · simp only [e, e', r, r']
        exact .none
      · simp only [e, e', r, r', leftPaired.kind_eq, rightPaired.kind_eq]
        split
        · rcases cases_of_optionRel (leftPaired.child? "object") with
            ⟨o, o'⟩ | ⟨object, object', o, o', objectPaired⟩
          · simp only [o, o']
            exact .none
          · rcases cases_of_optionRel (Paired.named leftPaired "property" rfl) with
              ⟨n, n'⟩ | ⟨property, property', n, n', -, same⟩
            · simp only [o, o', n, n']
              exact .none
            · simp only [o, o', n, n', objectPaired.kind_eq]
              split
              · exact .some ⟨same, rightPaired⟩
              · exact .none
        · exact .none
  · exact .none

theorem constructorFields_paired (h : Paired f f' c c') :
    List.Forall₂ (FieldPaired f f') (f.constructorFields c) (f'.constructorFields c') := by
  have comment_kind : ∀ d : Cursor, IsComment d.node → d.kind = "comment" :=
    fun d comment => comment.kind
  unfold constructorFields
  refine List.rel_append ?_ ?_
  · rcases cases_of_optionRel (h.child? "parameters") with ⟨e, e'⟩ | ⟨params, params', e, e', paired⟩
    · simp [e, e']
    · simp only [e, e', Option.map_some, Option.getD_some]
      refine paired.namedChildren.forall₂_filterMap (fun a b => parameterField?_paired) ?_
      intro before d comment
      simp [parameterField?, comment_kind d comment, Kind.isParameter, Kind.parameters]
  · rcases cases_of_optionRel (h.child? "body") with ⟨e, e'⟩ | ⟨body, body', e, e', paired⟩
    · simp [e, e']
    · simp only [e, e', Option.map_some, Option.getD_some]
      refine paired.walk.forall₂_filterMap (fun a b => assignedField?_paired) ?_
      intro before d comment
      simp [assignedField?, comment_kind d comment]

theorem addFields_paired {fields fields' : List (String × Cursor)} {t t' : Table String Cursor}
    (tables : Table.Paired (Paired f f') t t') (h : List.Forall₂ (FieldPaired f f') fields fields') :
    Table.Paired (Paired f f') (addFields t fields) (addFields t' fields') := by
  unfold addFields
  induction h generalizing t t' with
  | nil => exact tables
  | @cons e e' fields fields' head _ ih =>
    refine ih ?_
    dsimp only
    rw [head.1]
    exact tables.insertNew e.1 head.2

end Source

structure ClassSymbol.Paired (f f' : Source) (cls cls' : ClassSymbol) : Prop where
  module : cls.module = f.path
  module_eq : cls'.module = cls.module
  key_eq : cls'.key = cls.key
  methods_eq : cls'.methods = cls.methods
  fields : Table.Paired (Source.Paired f f') cls.fields cls'.fields
  heritage : Option.Rel (Source.Paired f f') cls.heritage cls'.heritage

structure ObjectSymbol.Paired (f f' : Source) (object object' : ObjectSymbol) : Prop where
  module : object.module = f.path
  module_eq : object'.module = object.module
  members : Table.Paired (Source.Paired f f') object.members object'.members

namespace Source

variable {f f' : Source} {c c' : Cursor}

theorem addMember_paired (file : WithComments mayFollow f f') {cls cls' : ClassSymbol}
    (h : cls.Paired f f' cls') (paired : Paired f f' c c') :
    (f.addMember cls c).Paired f f' (f'.addMember cls' c') := by
  unfold addMember
  rw [paired.kind_eq, ownName?_eq file.bytes paired, qualifiedName?_eq file.path file.bytes paired]
  split
  · split
    · rename_i name qualified _ _
      dsimp only
      split
      · exact { h with
          methods_eq := by rw [h.methods_eq]
          fields := addFields_paired h.fields (constructorFields_paired paired) }
      · exact { h with methods_eq := by rw [h.methods_eq] }
    · exact h
  · split
    · -- a field: its type says more than its value
      have named := optionRel_or (Paired.named paired "name" rfl) (Paired.named paired "property" rfl)
      have typed := optionRel_or (paired.child? "type") (paired.child? "value")
      rcases cases_of_optionRel named with ⟨n, n'⟩ | ⟨name, name', n, n', -, same⟩
      · simp only [n, n']
        exact h
      · rcases cases_of_optionRel typed with ⟨t, t'⟩ | ⟨type, type', t, t', typePaired⟩
        · simp only [n, n', t, t']
          exact h
        · simp only [n, n', t, t', same]
          exact { h with fields := h.fields.insertNew _ typePaired }
    · exact h

theorem classSymbol?_paired (file : WithComments mayFollow f f') (paired : Paired f f' c c') :
    Option.Rel (ClassSymbol.Paired f f') (f.classSymbol? c) (f'.classSymbol? c') := by
  unfold classSymbol?
  rw [qualifiedName?_eq file.path file.bytes paired]
  cases f.qualifiedName? c with
  | none => exact .none
  | some name =>
    refine .some ?_
    have start : ClassSymbol.Paired f f'
        { module := f.path, key := c.key, name := name, heritage := heritage? c }
        { module := f'.path, key := c'.key, name := name, heritage := heritage? c' } :=
      { module := rfl, module_eq := file.path, key_eq := paired.key_eq, methods_eq := rfl
        fields := .empty, heritage := heritage?_paired paired }
    rcases cases_of_optionRel (paired.child? "body") with ⟨e, e'⟩ | ⟨body, body', e, e', bodyPaired⟩
    · simp only [e, e', Option.map_none, Option.getD_none, List.foldl_nil]
      exact start
    · simp only [e, e', Option.map_some, Option.getD_some]
      refine bodyPaired.namedChildren.foldl (fun _ _ _ _ => addMember_paired file) ?_ start
      intro cls before d comment
      have kind : d.kind = "comment" := comment.kind
      simp [addMember, kind, Kind.isField, Kind.fields]

/-! ## Object literals -/

theorem objectMember?_paired (file : WithComments mayFollow f f') (paired : Paired f f' c c') :
    Option.Rel (FieldPaired f f') (f.objectMember? c) (f'.objectMember? c') := by
  unfold objectMember?
  rw [paired.kind_eq, ownName?_eq file.bytes paired]
  split
  · cases f.ownName? c with
    | none => exact .none
    | some name => exact .some ⟨rfl, paired⟩
  · split
    · rename_i kind
      exact .some ⟨Paired.text_of_kind paired (eq_of_beq kind) rfl, paired⟩
    · split
      · rcases cases_of_optionRel (Paired.named paired "key" rfl) with
          ⟨n, n'⟩ | ⟨key, key', n, n', keyPaired, same⟩
        · simp only [n, n']
          exact .none
        · rcases cases_of_optionRel (paired.child? "value") with
            ⟨e, e'⟩ | ⟨value, value', e, e', valuePaired⟩
          · simp only [n, n', e, e']
            exact .none
          · simp only [n, n', e, e', keyPaired.kind_eq]
            split
            · exact .some ⟨Paired.stringValue_eq same, valuePaired⟩
            · exact .none
      · exact .none

theorem objectSymbol?_paired (file : WithComments mayFollow f f') (paired : Paired f f' c c') :
    Option.Rel (ObjectSymbol.Paired f f') (f.objectSymbol? c) (f'.objectSymbol? c') := by
  unfold objectSymbol?
  rw [qualifiedName?_eq file.path file.bytes paired]
  cases f.qualifiedName? c with
  | none => exact .none
  | some name =>
    refine .some ⟨rfl, file.path, addFields_paired .empty ?_⟩
    refine paired.namedChildren.forall₂_filterMap (fun _ _ => objectMember?_paired file) ?_
    intro before d comment
    have kind : d.kind = "comment" := comment.kind
    simp [objectMember?, kind]

/-! ## Declared names -/

/-- The names under which a whole module is exported, between which no comment stands. -/
theorem spaceNames_paired (paired : Paired f f' c c') (kind : c.kind = "namespace_export") :
    List.Forall₂ (fun d d' => f'.text d'.node = f.text d.node) c.namedChildren c'.namedChildren := by
  have known : c.node.kind = "namespace_export" := kind
  have kept : ∀ d ∈ c.namedChildren, span f'.bytes d.node = span f.bytes d.node := by
    intro d mem
    obtain ⟨child, named⟩ := Cursor.mem_namedChildren.1 mem
    refine paired.node.kept.space known d.node (List.mem_filter.2 ⟨?_, named⟩)
    rw [← c.map_node_children]
    exact List.mem_map_of_mem child
  have all : List.Forall₂ (fun a b => Paired f f' a b ∧ a.node.named = true) c.namedChildren
      c'.namedChildren := by
    refine paired.children.forall₂_filter (fun _ _ inner => inner.node.named_eq) ?_
    rintro before d ⟨-, allowed, -⟩
    simp [mayFollow, known] at allowed
  refine ((List.forall₂_and_left _ _).2 ⟨kept, all⟩).imp ?_
  rintro d d' ⟨bytes, inner, -⟩
  exact text_eq_of_span inner.node bytes

theorem declaratorName?_eq (paired : Paired f f' c c') :
    f'.declaratorName? c' = f.declaratorName? c := by
  unfold declaratorName?
  rcases cases_of_optionRel (Paired.named paired "name" rfl) with
    ⟨n, n'⟩ | ⟨name, name', n, n', namePaired, same⟩
  · rw [n, n']
  · simp only [n, n', namePaired.kind_eq, same]

theorem declaredNames_eq (paired : Paired f f' c c') : f'.declaredNames c' = f.declaredNames c := by
  unfold declaredNames
  rw [paired.kind_eq]
  split
  · exact filterMap_eq_of_forall₂ (paired.childrenOfKind _ (by decide)) fun a b found =>
      declaratorName?_eq found.1
  · -- of a statement, the expression in it is the one that has a name
    have target : Paired f f' (if c.kind == "expression_statement" then c.firstNamed?.getD c else c)
        (if c.kind == "expression_statement" then c'.firstNamed?.getD c' else c') := by
      split
      · rename_i statement
        have known : c.node.kind = "expression_statement" := by simpa [Cursor.kind] using statement
        have first : Option.Rel (Paired f f') c.firstNamed? c'.firstNamed? :=
          Paired.firstNamed? paired fun before allowed => by simpa [mayFollow, known] using allowed
        rcases cases_of_optionRel first with ⟨e, e'⟩ | ⟨d, d', e, e', inner⟩
        · rw [e, e']
          exact paired
        · rw [e, e']
          exact inner
      · exact paired
    dsimp only
    rw [Paired.map_text target "name" rfl]

end Source

end RepoAudit
