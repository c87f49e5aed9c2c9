import RepoAudit.Proofs.Comments.Classes
import RepoAudit.Proofs.Symbol.Change

/-! # The index of a file with comments

The tables of a module hold the same with and without comments: the same names in the same scopes, the
same classes and objects, and the same exports.

* `Entity.Paired`, `Binding.Paired` – what the tables hold;
* `Module.Paired` – two modules with such tables;
* `Module.visit_paired` – the step for a node keeps two modules paired, and a comment changes nothing;
* `Module.index_paired` – the modules of a file without and with comments are paired.
-/

namespace RepoAudit

open Syntax

theorem strewn_flatMap {α β γ δ : Type} {R : α → β → Prop} {S : γ → δ → Prop} {extra : δ → Prop}
    {as : List α} {bs : List β} {f : α → List γ} {g : β → List δ} (h : List.Forall₂ R as bs)
    (same : ∀ a b, R a b → Strewn S extra (f a) (g b)) :
    Strewn S extra (as.flatMap f) (bs.flatMap g) := by
  induction h with
  | nil => exact .nil
  | @cons a b as bs head _ ih =>
    rw [List.flatMap_cons, List.flatMap_cons]
    exact (same a b head).append (fun _ _ e => e) ih []

/-! ## What modules hold -/

inductive Entity.Paired (f f' : Source) : Entity → Entity → Prop where
  | function (name : String) : Paired f f' (.function name) (.function name)
  | cls {c c' : ClassSymbol} (paired : c.Paired f f' c') : Paired f f' (.cls c) (.cls c')
  | object {o o' : ObjectSymbol} (paired : o.Paired f f' o') : Paired f f' (.object o) (.object o')

inductive Binding.Paired (f f' : Source) : Binding → Binding → Prop where
  | entity {e e' : Entity} (paired : e.Paired f f' e') : Paired f f' (.entity e) (.entity e')
  | imported (specifier name : String) :
      Paired f f' (.imported specifier name) (.imported specifier name)
  | typed {type type' value value' : Option Cursor} (types : Option.Rel (Source.Paired f f') type type')
      (values : Option.Rel (Source.Paired f f') value value') :
      Paired f f' (.variable type value) (.variable type' value')

theorem Binding.Paired.unknown (f f' : Source) : Paired f f' .unknown .unknown :=
  .typed .none .none

/-- Two modules of a file without and with comments, whose tables hold the same. -/
structure Module.Paired (f f' : Source) (m m' : Module) : Prop where
  source : m.source = f
  source' : m'.source = f'
  scopes : Table.Paired (Table.Paired (Binding.Paired f f')) m.scopes m'.scopes
  classes : Table.Paired (ClassSymbol.Paired f f') m.classes m'.classes
  objects : Table.Paired (ObjectSymbol.Paired f f') m.objects m'.objects
  exports_eq : m'.exports = m.exports
  exportedLocals_eq : m'.exportedLocals = m.exportedLocals
  reexports_eq : m'.reexports = m.reexports
  starExports_eq : m'.starExports = m.starExports

namespace Module

variable {f f' : Source} {m m' : Module} {c c' : Cursor}

theorem Paired.bind (h : m.Paired f f' m') (scope : NodeKey) (name : String) {b b' : Binding}
    (bindings : b.Paired f f' b') : (m.bind scope name b).Paired f f' (m'.bind scope name b') :=
  { h with
    scopes := h.scopes.alter fun x y names => by
      cases names with
      | none => exact Table.Paired.insertNew .empty name bindings
      | some known => exact known.insertNew name bindings }

theorem Paired.exportLocal (h : m.Paired f f' m') (name : String) :
    (m.exportLocal name).Paired f f' (m'.exportLocal name) :=
  { h with exportedLocals_eq := by rw [Module.exportLocal, Module.exportLocal, h.exportedLocals_eq] }

theorem Paired.exportAs (h : m.Paired f f' m') (exported localName : String) :
    (m.exportAs exported localName).Paired f f' (m'.exportAs exported localName) :=
  { h with exports_eq := by rw [Module.exportAs, Module.exportAs, h.exports_eq] }

theorem Paired.reexport (h : m.Paired f f' m') (exported specifier imported : String) :
    (m.reexport exported specifier imported).Paired f f' (m'.reexport exported specifier imported) :=
  { h with reexports_eq := by rw [Module.reexport, Module.reexport, h.reexports_eq] }

/-- A row of steps for the same names. -/
theorem Paired.foldl {α : Type} {step step' : Module → α → Module}
    (same : ∀ m m' a, m.Paired f f' m' → (step m a).Paired f f' (step' m' a)) (h : m.Paired f f' m')
    (items : List α) : (items.foldl step m).Paired f f' (items.foldl step' m') := by
  induction items generalizing m m' with
  | nil => exact h
  | cons a rest ih => exact ih (same m m' a h)

/-- A row of steps for corresponding nodes. -/
theorem Paired.foldl_nodes {R : Cursor → Cursor → Prop} {step step' : Module → Cursor → Module}
    {nodes nodes' : List Cursor}
    (same : ∀ m m' d d', m.Paired f f' m' → R d d' → (step m d).Paired f f' (step' m' d'))
    (h : m.Paired f f' m') (paired : List.Forall₂ R nodes nodes') :
    (nodes.foldl step m).Paired f f' (nodes'.foldl step' m') := by
  induction paired generalizing m m' with
  | nil => exact h
  | cons head _ ih => exact ih (same _ _ _ _ h head)

/-! ## One step for each kind of declaration -/

theorem declaratorScope_paired (paired : f.Paired f' c c') :
    (declaratorScope c').key = (declaratorScope c).key := by
  unfold declaratorScope
  rcases cases_of_optionRel paired.parent? with ⟨e, e'⟩ | ⟨parent, parent', e, e', outer⟩
  · rw [e, e']
    exact (Source.scopeOf_paired paired false).key_eq
  · simp only [e, e', outer.kind_eq]
    exact (Source.scopeOf_paired outer _).key_eq

section steps

variable (file : Source.WithComments mayFollow f f') (h : m.Paired f f' m') (paired : f.Paired f' c c')
include file h paired

theorem indexClass_paired : (m.indexClass c).Paired f f' (m'.indexClass c') := by
  obtain rfl := h.source
  obtain rfl := h.source'
  unfold indexClass
  rw [paired.key_eq, h.classes.contains_eq, paired.kind_eq]
  split
  · exact h
  · rcases cases_of_optionRel (Source.classSymbol?_paired file paired) with
      ⟨e, e'⟩ | ⟨cls, cls', e, e', classes⟩
    · simp only [e, e']
      exact h
    · have added : Paired m.source m'.source { m with classes := m.classes.insert c.key cls }
          { m' with classes := m'.classes.insert c.key cls' } :=
        { h with classes := h.classes.insert c.key classes }
      simp only [e, e']
      split
      · rcases cases_of_optionRel (Source.Paired.named paired "name" rfl) with
          ⟨n, n'⟩ | ⟨name, name', n, n', -, same⟩
        · simp only [n, n']
          exact added
        · simp only [n, n', (Source.scopeOf_paired paired false).key_eq, text, same]
          exact added.bind _ _ (.entity (.cls classes))
      · -- a class expression is bound only where it is the default export
        rcases cases_of_optionRel paired.parent? with ⟨n, n'⟩ | ⟨parent, parent', n, n', outer⟩
        · simp only [n, n']
          exact added
        · simp only [n, n', outer.kind_eq, file.tree.key_eq]
          split
          · exact added.bind _ _ (.entity (.cls classes))
          · exact added

theorem indexObject_paired : (m.indexObject c).Paired f f' (m'.indexObject c') := by
  obtain rfl := h.source
  obtain rfl := h.source'
  unfold indexObject
  rw [paired.key_eq, h.objects.contains_eq]
  split
  · exact h
  · rcases cases_of_optionRel (Source.objectSymbol?_paired file paired) with
      ⟨e, e'⟩ | ⟨object, object', e, e', objects⟩
    · simp only [e, e']
      exact h
    · simp only [e, e']
      exact { h with objects := h.objects.insert c.key objects }

theorem indexFunction_paired : (m.indexFunction c).Paired f f' (m'.indexFunction c') := by
  obtain rfl := h.source
  obtain rfl := h.source'
  unfold indexFunction
  rw [Source.qualifiedName?_eq file.path file.bytes paired]
  rcases cases_of_optionRel (Source.Paired.named paired "name" rfl) with
    ⟨n, n'⟩ | ⟨name, name', n, n', -, same⟩
  · simp only [n, n']
    exact h
  · cases m.source.qualifiedName? c with
    | none =>
      simp only [n, n']
      exact h
    | some qualified =>
      simp only [n, n', (Source.scopeOf_paired paired false).key_eq, text, same]
      exact h.bind _ _ (.entity (.function qualified))

omit file paired in
theorem bindPattern_paired (scope : NodeKey) {n n' : Node} {admits : Node → List Node → Node → Prop}
    (pattern : Commented admits (Source.Legible f.bytes f'.bytes) n n') :
    (m.bindPattern scope n).Paired f f' (m'.bindPattern scope n') := by
  obtain rfl := h.source
  obtain rfl := h.source'
  unfold bindPattern
  rw [Source.names_eq pattern]
  exact h.foldl (fun _ _ name known => known.bind scope name (.unknown _ _)) _

theorem bindDeclared_paired (scope : NodeKey) {name name' : Cursor} (named : f.Paired f' name name')
    (same : f'.text name'.node = f.text name.node) :
    (m.bindDeclared scope c name).Paired f f' (m'.bindDeclared scope c' name') := by
  obtain rfl := h.source
  obtain rfl := h.source'
  have plain := Binding.Paired.typed (paired.child? "type") (paired.child? "value")
  unfold bindDeclared
  rw [named.kind_eq]
  split
  · exact bindPattern_paired h _ named.node
  · rcases cases_of_optionRel (paired.child? "value") with ⟨e, e'⟩ | ⟨value, value', e, e', inner⟩
    · simp only [e, e', text, same] at plain ⊢
      exact h.bind _ _ plain
    · simp only [e, e', inner.kind_eq, inner.key_eq] at plain ⊢
      split
      · -- the value is looked up where it has just been entered
        have indexed := indexClass_paired file h inner
        rw [text, text, indexed.source, indexed.source', same]
        refine indexed.bind _ _ ?_
        rcases cases_of_optionRel (indexed.classes value.key) with ⟨k, k'⟩ | ⟨cls, cls', k, k', classes⟩
        · rw [k, k']
          exact plain
        · rw [k, k']
          exact .entity (.cls classes)
      · split
        · have indexed := indexObject_paired file h inner
          rw [text, text, indexed.source, indexed.source', same]
          refine indexed.bind _ _ ?_
          rcases cases_of_optionRel (indexed.objects value.key) with
            ⟨k, k'⟩ | ⟨object, object', k, k', objects⟩
          · rw [k, k']
            exact plain
          · rw [k, k']
            exact .entity (.object objects)
        · rw [text, text, same]
          exact h.bind _ _ plain

theorem indexDeclarator_paired : (m.indexDeclarator c).Paired f f' (m'.indexDeclarator c') := by
  rcases cases_of_optionRel (Source.Paired.named paired "name" rfl) with
    ⟨n, n'⟩ | ⟨name, name', n, n', named, same⟩
  · simp only [indexDeclarator, n, n']
    exact h
  · rw [indexDeclarator_of_name n, indexDeclarator_of_name n', declaratorScope_paired paired]
    exact bindDeclared_paired file h paired _ named same

omit file in
theorem indexParameter_paired (function : NodeKey) :
    (indexParameter function m c).Paired f f' (indexParameter function m' c') := by
  obtain rfl := h.source
  obtain rfl := h.source'
  unfold indexParameter
  rw [paired.kind_eq]
  split
  · rcases cases_of_optionRel (paired.child? "pattern") with ⟨e, e'⟩ | ⟨pattern, pattern', e, e', inner⟩
    · simp only [e, e']
      exact h
    · simp only [e, e', inner.kind_eq]
      split
      · rename_i kind
        rw [text, text, Source.Paired.text_of_kind inner (eq_of_beq kind) rfl]
        exact h.bind _ _ (.typed (paired.child? "type") .none)
      · exact bindPattern_paired h _ inner.node
  · exact bindPattern_paired h _ paired.node

omit file in
theorem indexParameters_paired : (m.indexParameters c).Paired f f' (m'.indexParameters c') := by
  unfold indexParameters
  rcases cases_of_optionRel paired.parent? with ⟨e, e'⟩ | ⟨function, function', e, e', outer⟩
  · simp only [e, e']
    exact h
  · simp only [e, e', outer.key_eq]
    refine paired.namedChildren.foldl (S := Paired f f')
      (fun _ _ _ _ known inner => indexParameter_paired known inner _) ?_ h
    intro m before d comment
    have kind : d.kind = "comment" := comment.kind
    simp [indexParameter, kind, Kind.isParameter, Kind.parameters, bindPattern,
      Source.names_of_isComment _ comment]

omit file in
theorem indexArrow_paired : (m.indexArrow c).Paired f f' (m'.indexArrow c') := by
  obtain rfl := h.source
  obtain rfl := h.source'
  unfold indexArrow
  rcases cases_of_optionRel (paired.child? "parameter") with ⟨e, e'⟩ | ⟨param, param', e, e', inner⟩
  · simp only [e, e']
    exact h
  · simp only [e, e', inner.kind_eq, paired.key_eq]
    split
    · rename_i kind
      rw [text, text, Source.Paired.text_of_kind inner (eq_of_beq kind) rfl]
      exact h.bind _ _ (.unknown _ _)
    · exact h

omit file in
theorem indexCatch_paired : (m.indexCatch c).Paired f f' (m'.indexCatch c') := by
  unfold indexCatch
  rcases cases_of_optionRel (paired.child? "parameter") with ⟨e, e'⟩ | ⟨param, param', e, e', inner⟩
  · simp only [e, e']
    exact h
  · simp only [e, e', paired.key_eq]
    exact bindPattern_paired h _ inner.node

omit file in
theorem indexForIn_paired : (m.indexForIn c).Paired f f' (m'.indexForIn c') := by
  unfold indexForIn
  rcases cases_of_optionRel (paired.child? "left") with ⟨e, e'⟩ | ⟨left, left', e, e', inner⟩
  · simp only [e, e']
    exact h
  · rcases cases_of_optionRel (paired.child? "kind") with ⟨k, k'⟩ | ⟨kind, kind', k, k', -⟩
    · simp only [e, e', k, k']
      exact h
    · simp only [e, e', k, k', paired.key_eq]
      exact bindPattern_paired h _ inner.node

/-! ## Imports and exports -/

theorem indexImportItem_paired (specifier : String) :
    (indexImportItem specifier m c).Paired f f' (indexImportItem specifier m' c') := by
  obtain rfl := h.source
  obtain rfl := h.source'
  unfold indexImportItem
  simp only [paired.kind_eq, file.tree.key_eq]
  split
  · rename_i kind
    rw [text, text, Source.Paired.text_of_kind paired (eq_of_beq kind) rfl]
    exact h.bind _ _ (.imported _ _)
  · split
    · refine h.foldl_nodes (fun m m' d d' known found => ?_) (paired.childrenOfKind _ (by decide))
      rw [text, text, known.source, known.source',
        Source.Paired.text_of_kind found.1 found.2 rfl]
      exact known.bind _ _ (.imported _ _)
    · split
      · refine h.foldl_nodes (fun m m' d d' known found => ?_) (paired.childrenOfKind _ (by decide))
        rcases cases_of_optionRel (Source.Paired.named found.1 "name" rfl) with
          ⟨n, n'⟩ | ⟨name, name', n, n', -, same⟩
        · simp only [n, n']
          exact known
        · rcases cases_of_optionRel (Source.Paired.named found.1 "alias" rfl) with
            ⟨o, o'⟩ | ⟨other, other', o, o', -, sameOther⟩
          · simp only [n, n', o, o', known.source, known.source', Source.Paired.stringValue_eq same]
            exact known.bind _ _ (.imported _ _)
          · simp only [n, n', o, o', text, known.source, known.source',
              Source.Paired.stringValue_eq same, sameOther]
            exact known.bind _ _ (.imported _ _)
      · exact h

theorem indexImport_paired : (m.indexImport c).Paired f f' (m'.indexImport c') := by
  unfold indexImport
  rcases cases_of_optionRel (Source.Paired.named paired "source" rfl) with
    ⟨n, n'⟩ | ⟨source, source', n, n', -, same⟩
  · simp only [n, n']
    exact h
  · simp only [n, n', h.source, h.source', Source.Paired.stringValue_eq same]
    have items : Strewn (f.Paired f') (fun d => IsComment d.node)
        ((c.childrenOfKind "import_clause").flatMap (·.namedChildren))
        ((c'.childrenOfKind "import_clause").flatMap (·.namedChildren)) :=
      strewn_flatMap (paired.childrenOfKind _ (by decide)) fun d d' found => found.1.namedChildren
    refine items.foldl (S := Paired f f')
      (fun _ _ _ _ known inner => indexImportItem_paired file known inner _) ?_ h
    intro m before d comment
    have kind : d.kind = "comment" := comment.kind
    simp [indexImportItem, kind]

omit file h in
theorem exportSpecifiers_paired :
    List.Forall₂ (f.Paired f') (exportSpecifiers c) (exportSpecifiers c') := by
  unfold exportSpecifiers
  refine List.rel_flatMap (paired.childrenOfKind _ (by decide)) fun d d' found => ?_
  exact (found.1.childrenOfKind _ (by decide)).imp fun _ _ inner => inner.1

omit file in
theorem reexportSpecifier_paired (specifier : String) :
    (reexportSpecifier specifier m c).Paired f f' (reexportSpecifier specifier m' c') := by
  obtain rfl := h.source
  obtain rfl := h.source'
  unfold reexportSpecifier
  rcases cases_of_optionRel (Source.Paired.named paired "name" rfl) with
    ⟨n, n'⟩ | ⟨name, name', n, n', -, same⟩
  · simp only [n, n']
    exact h
  · rcases cases_of_optionRel (Source.Paired.named paired "alias" rfl) with
      ⟨o, o'⟩ | ⟨other, other', o, o', -, sameOther⟩
    · simp only [n, n', o, o', Source.Paired.stringValue_eq same]
      exact h.reexport _ _ _
    · simp only [n, n', o, o', Source.Paired.stringValue_eq same,
        Source.Paired.stringValue_eq sameOther]
      exact h.reexport _ _ _

omit file in
theorem exportSpecifier_paired : (exportSpecifier m c).Paired f f' (exportSpecifier m' c') := by
  obtain rfl := h.source
  obtain rfl := h.source'
  unfold exportSpecifier
  rcases cases_of_optionRel (Source.Paired.named paired "name" rfl) with
    ⟨n, n'⟩ | ⟨name, name', n, n', -, same⟩
  · simp only [n, n']
    exact h
  · rcases cases_of_optionRel (Source.Paired.named paired "alias" rfl) with
      ⟨o, o'⟩ | ⟨other, other', o, o', -, sameOther⟩
    · simp only [n, n', o, o', text, same]
      exact (h.exportLocal _).exportAs _ _
    · simp only [n, n', o, o', text, same, Source.Paired.stringValue_eq sameOther]
      exact (h.exportLocal _).exportAs _ _

omit file in
theorem reexportWhole_paired (specifier : String) :
    (m.reexportWhole c specifier).Paired f f' (m'.reexportWhole c' specifier) := by
  have spaces := paired.childrenOfKind "namespace_export" (by decide)
  have clauses := paired.childrenOfKind "export_clause" (by decide)
  unfold reexportWhole
  generalize c.childrenOfKind "namespace_export" = under, c'.childrenOfKind "namespace_export" = under'
    at spaces
  generalize c.childrenOfKind "export_clause" = lists, c'.childrenOfKind "export_clause" = lists'
    at clauses
  cases spaces with
  | nil =>
    cases clauses with
    | nil =>
      -- neither a name nor a list: everything is passed on
      have stars : m'.starExports ++ [specifier] = m.starExports ++ [specifier] := by
        rw [h.starExports_eq]
      exact { h with starExports_eq := stars }
    | cons => exact h
  | @cons space space' _ _ found =>
    refine h.foldl_nodes (fun m m' d d' known same => ?_) (Source.spaceNames_paired found.1 found.2)
    rw [known.source, known.source', Source.Paired.stringValue_eq same]
    exact known.reexport _ _ _

omit file in
theorem indexReexport_paired (specifier : String) :
    (m.indexReexport c specifier).Paired f f' (m'.indexReexport c' specifier) :=
  (reexportWhole_paired h paired specifier).foldl_nodes
    (fun _ _ _ _ known found => reexportSpecifier_paired known found specifier)
    (exportSpecifiers_paired paired)

theorem indexDefaultValue_paired : (m.indexDefaultValue c).Paired f f' (m'.indexDefaultValue c') := by
  obtain rfl := h.source
  obtain rfl := h.source'
  unfold indexDefaultValue
  rw [paired.kind_eq, Source.qualifiedName?_eq file.path file.bytes paired, file.tree.key_eq]
  split
  · rename_i kind
    rw [text, text, Source.Paired.text_of_kind paired (eq_of_beq kind) rfl]
    exact (h.exportLocal _).exportAs _ _
  · split
    · cases m.source.qualifiedName? c with
      | none => exact h
      | some qualified => exact (h.bind _ _ (.entity (.function qualified))).exportAs _ _
    · split
      · exact h.exportAs _ _
      · split
        · have indexed := indexObject_paired file h paired
          have rootKey : (m'.indexObject c').source.tree.key = (m.indexObject c).source.tree.key := by
            rw [indexed.source, indexed.source', file.tree.key_eq]
          refine Paired.exportAs ?_ _ _
          rcases cases_of_optionRel (indexed.objects c.key) with
            ⟨k, k'⟩ | ⟨object, object', k, k', objects⟩
          · simp only [paired.key_eq, k, k']
            exact indexed
          · simp only [paired.key_eq, k, k', rootKey]
            exact indexed.bind _ _ (.entity (.object objects))
        · exact h

omit file in
theorem exportDeclared_paired (isDefault : Bool) :
    (m.exportDeclared isDefault c).Paired f f' (m'.exportDeclared isDefault c') := by
  unfold exportDeclared
  rcases cases_of_optionRel (paired.child? "declaration") with
    ⟨e, e'⟩ | ⟨declaration, declaration', e, e', inner⟩
  · simp only [e, e']
    exact h
  · simp only [e, e', h.source, h.source', Source.declaredNames_eq inner]
    exact h.foldl
      (fun _ _ name known => known.exportAs (if isDefault then defaultName else name) name) _

theorem indexLocalExport_paired : (m.indexLocalExport c).Paired f f' (m'.indexLocalExport c') := by
  have isDefault : c'.children.any (·.kind == "default") = c.children.any (·.kind == "default") := by
    refine paired.children.any_eq (fun a b inner => by rw [inner.kind_eq]) ?_
    rintro before d ⟨comment, -⟩
    simp [Cursor.kind, comment.kind]
  have listed := h.foldl_nodes (R := f.Paired f')
    (fun _ _ _ _ known found => exportSpecifier_paired known found)
    (exportSpecifiers_paired paired)
  have declared := exportDeclared_paired listed paired (c.children.any (·.kind == "default"))
  unfold indexLocalExport
  dsimp only
  rw [isDefault]
  rcases cases_of_optionRel (paired.child? "value") with ⟨e, e'⟩ | ⟨value, value', e, e', inner⟩
  · simp only [e, e']
    exact declared
  · simp only [e, e']
    split
    · exact indexDefaultValue_paired file declared inner
    · exact declared

theorem indexExport_paired : (m.indexExport c).Paired f f' (m'.indexExport c') := by
  unfold indexExport
  rcases cases_of_optionRel (Source.Paired.named paired "source" rfl) with
    ⟨n, n'⟩ | ⟨source, source', n, n', -, same⟩
  · simp only [n, n']
    exact indexLocalExport_paired file h paired
  · simp only [n, n', h.source, h.source', Source.Paired.stringValue_eq same]
    exact indexReexport_paired h paired _

/-! ## Assignments -/

omit file h paired in
/-- Whether a text is one of an export is seen from what it starts with. -/
theorem isExportTarget_eq {old new : List UInt8} (filled : Source.fills false old new = true) :
    isExportTarget (Text.Utf8.decodeLossy new) = isExportTarget (Text.Utf8.decodeLossy old) := by
  have whole : (Text.Utf8.decodeLossy new == "module.exports") =
      (Text.Utf8.decodeLossy old == "module.exports") := by
    rw [Bool.eq_iff_iff, beq_iff_eq, beq_iff_eq]
    exact Source.decodeLossy_eq_iff_of_fills filled (List.all_iff_forall_prop.1 (by decide)) (by decide)
  rw [isExportTarget, isExportTarget, whole,
    Source.startsWith_of_fills filled (List.all_iff_forall_prop.1 (by decide)) (by decide),
    Source.startsWith_of_fills filled (List.all_iff_forall_prop.1 (by decide)) (by decide)]

omit file in
theorem mentionedLocal?_eq : m'.mentionedLocal? c' = m.mentionedLocal? c := by
  obtain rfl := h.source
  obtain rfl := h.source'
  unfold mentionedLocal?
  rw [paired.kind_eq]
  split
  · rename_i kind
    rw [text, text, Source.Paired.text_of_kind paired (eq_of_beq kind) rfl]
  · split
    · rcases cases_of_optionRel (paired.child? "value") with ⟨e, e'⟩ | ⟨value, value', e, e', inner⟩
      · rw [e, e']
      · simp only [e, e', inner.kind_eq]
        split
        · rename_i kind
          rw [text, text, Source.Paired.text_of_kind inner (eq_of_beq kind) rfl]
        · rfl
    · rfl

omit file in
theorem indexAssignment_paired : (m.indexAssignment c).Paired f f' (m'.indexAssignment c') := by
  obtain rfl := h.source
  obtain rfl := h.source'
  unfold indexAssignment
  rcases cases_of_optionRel (paired.child? "left") with ⟨e, e'⟩ | ⟨left, left', e, e', leftPaired⟩
  · simp only [e, e']
    exact h
  · rcases cases_of_optionRel (paired.child? "right") with ⟨r, r'⟩ | ⟨right, right', r, r', rightPaired⟩
    · simp only [e, e', r, r']
      exact h
    · -- the target may have comments in it, but what it is compared with has no blanks
      have target : isExportTarget (m'.text left') = isExportTarget (m.text left) := by
        rw [text, text, Source.text, Source.text, Source.bytesOf, leftPaired.node.start_eq,
          leftPaired.node.stop_eq]
        exact isExportTarget_eq leftPaired.node.kept.inside
      simp only [e, e', r, r', leftPaired.kind_eq, rightPaired.kind_eq, target]
      split
      · split
        · rename_i kind
          rw [text, text, Source.Paired.text_of_kind rightPaired (eq_of_beq kind) rfl]
          exact h.exportLocal _
        · split
          · have mentioned : right'.namedChildren.filterMap m'.mentionedLocal? =
                right.namedChildren.filterMap m.mentionedLocal? := by
              refine rightPaired.namedChildren.filterMap_eq (fun a b => mentionedLocal?_eq h) ?_
              intro before d comment
              have kind : d.kind = "comment" := comment.kind
              simp [mentionedLocal?, kind]
            rw [mentioned]
            exact h.foldl (fun _ _ name known => known.exportLocal name) _
          · exact h
      · exact h

/-! ## The walk -/

/-- The step for a node keeps two modules paired. -/
theorem visit_paired : (m.visit c).Paired f f' (m'.visit c') := by
  unfold visit
  rw [paired.kind_eq]
  split
  · exact indexFunction_paired file h paired
  · split
    · exact indexClass_paired file h paired
    · split
      · exact indexObject_paired file h paired
      · exact indexDeclarator_paired file h paired
      · exact indexParameters_paired h paired
      · exact indexArrow_paired h paired
      · exact indexCatch_paired h paired
      · exact indexForIn_paired h paired
      · exact indexImport_paired file h paired
      · exact indexExport_paired file h paired
      · exact indexAssignment_paired h paired
      · exact h

end steps

/-- A comment changes nothing. -/
theorem visit_comment {d : Cursor} (comment : IsComment d.node) : m.visit d = m := by
  have kind : d.kind = "comment" := comment.kind
  simp [visit, kind, Kind.isFunctionDeclaration, Kind.functionDeclarations, Kind.isClass, Kind.classes]

/-- The modules of a file without and with comments are paired. -/
theorem index_paired (file : Source.WithComments mayFollow f f') :
    (index f).Paired f f' (index f') := by
  have start : Paired f f' { source := f } { source := f' } :=
    { source := rfl, source' := rfl, scopes := .empty, classes := .empty, objects := .empty
      exports_eq := rfl, exportedLocals_eq := rfl, reexports_eq := rfl, starExports_eq := rfl }
  exact (Beside.root file.tree).walk.foldl (S := Paired f f')
    (fun _ _ _ _ known paired => visit_paired file known paired)
    (fun _ _ _ comment => visit_comment comment) start

end Module

end RepoAudit
