import RepoAudit.Symbol.Index

/-! # The language of a file plays no part

A source file names its language, but nothing in the index of its module depends on it.

* `Source.inLanguage`, `Module.inLanguage` – a file, or a module, said to be in another language;
* `visit_inLanguage` – the step for a node does the same in every language;
* `index_inLanguage` – so does the whole index.
-/

namespace RepoAudit

open Syntax

namespace Source

variable (f : Source) (language : String)

def inLanguage : Source :=
  { f with language }

/-- Two files with the same path, bytes and tree differ in their language only. -/
theorem eq_inLanguage {f g : Source} (path : f.path = g.path) (bytes : f.bytes = g.bytes)
    (tree : f.tree = g.tree) : g = f.inLanguage g.language := by
  cases f
  cases g
  simp_all [inLanguage]

@[simp] theorem inLanguage_path : (f.inLanguage language).path = f.path := rfl

@[simp] theorem inLanguage_text : (f.inLanguage language).text = f.text := rfl

@[simp] theorem inLanguage_qualifiedName? :
    (f.inLanguage language).qualifiedName? = f.qualifiedName? := rfl

@[simp] theorem inLanguage_classSymbol? : (f.inLanguage language).classSymbol? = f.classSymbol? := rfl

@[simp] theorem inLanguage_objectSymbol? :
    (f.inLanguage language).objectSymbol? = f.objectSymbol? := rfl

end Source

namespace Module

variable (m : Module) (language : String) (c : Cursor)

def inLanguage : Module :=
  { m with source := m.source.inLanguage language }

/-! ## What a module is asked for and what is written into it -/

@[simp] theorem inLanguage_source : (m.inLanguage language).source = m.source.inLanguage language := rfl

@[simp] theorem inLanguage_text : (m.inLanguage language).text = m.text := rfl

@[simp] theorem inLanguage_classes : (m.inLanguage language).classes = m.classes := rfl

@[simp] theorem inLanguage_objects : (m.inLanguage language).objects = m.objects := rfl

@[simp] theorem inLanguage_bind (scope : NodeKey) (name : String) (b : Binding) :
    (m.inLanguage language).bind scope name b = (m.bind scope name b).inLanguage language := rfl

/-- A row of steps, each of which does the same in every language. -/
theorem foldl_inLanguage {α : Type} {step : Module → α → Module}
    (same : ∀ m a, step (m.inLanguage language) a = (step m a).inLanguage language) (items : List α) :
    items.foldl step (m.inLanguage language) = (items.foldl step m).inLanguage language := by
  induction items generalizing m with
  | nil => rfl
  | cons a rest ih => rw [List.foldl_cons, List.foldl_cons, same, ih]

/-! ## One step -/

theorem indexFunction_inLanguage :
    (m.inLanguage language).indexFunction c = (m.indexFunction c).inLanguage language := by
  dsimp only [indexFunction, inLanguage_source, Source.inLanguage_qualifiedName?, inLanguage_text,
    inLanguage_bind]
  split <;> rfl

theorem indexClass_inLanguage :
    (m.inLanguage language).indexClass c = (m.indexClass c).inLanguage language := by
  by_cases present : m.classes.contains c.key
  · simp [indexClass, present]
  · simp only [indexClass, inLanguage_classes, inLanguage_source, Source.inLanguage_classSymbol?,
      present, Bool.false_eq_true, ↓reduceIte]
    split
    · rfl
    · split
      · split <;> rfl
      · split
        · split <;> rfl
        · rfl

theorem indexObject_inLanguage :
    (m.inLanguage language).indexObject c = (m.indexObject c).inLanguage language := by
  by_cases present : m.objects.contains c.key
  · simp [indexObject, present]
  · simp only [indexObject, inLanguage_objects, inLanguage_source, Source.inLanguage_objectSymbol?,
      present, Bool.false_eq_true, ↓reduceIte]
    split <;> rfl

theorem bindPattern_inLanguage (scope : NodeKey) (pattern : Node) :
    (m.inLanguage language).bindPattern scope pattern =
      (m.bindPattern scope pattern).inLanguage language := by
  dsimp only [bindPattern, inLanguage_source, Source.inLanguage_text]
  exact foldl_inLanguage m language (fun _ _ => rfl) _

theorem indexDeclarator_inLanguage :
    (m.inLanguage language).indexDeclarator c = (m.indexDeclarator c).inLanguage language := by
  unfold indexDeclarator
  split
  · rfl
  · dsimp only
    split
    · exact bindPattern_inLanguage m language _ _
    · split
      · split
        · rw [indexClass_inLanguage]
          rfl
        · split
          · rw [indexObject_inLanguage]
            rfl
          · rfl
      · rfl

theorem indexParameter_inLanguage (function : NodeKey) :
    indexParameter function (m.inLanguage language) c =
      (indexParameter function m c).inLanguage language := by
  unfold indexParameter
  split
  · split
    · split
      · rfl
      · exact bindPattern_inLanguage m language _ _
    · rfl
  · exact bindPattern_inLanguage m language _ _

theorem indexParameters_inLanguage :
    (m.inLanguage language).indexParameters c = (m.indexParameters c).inLanguage language := by
  unfold indexParameters
  split
  · rfl
  · exact foldl_inLanguage m language (fun m c => indexParameter_inLanguage m language c _) _

theorem indexArrow_inLanguage :
    (m.inLanguage language).indexArrow c = (m.indexArrow c).inLanguage language := by
  unfold indexArrow
  split
  · split <;> rfl
  · rfl

theorem indexCatch_inLanguage :
    (m.inLanguage language).indexCatch c = (m.indexCatch c).inLanguage language := by
  unfold indexCatch
  split
  · exact bindPattern_inLanguage m language _ _
  · rfl

theorem indexForIn_inLanguage :
    (m.inLanguage language).indexForIn c = (m.indexForIn c).inLanguage language := by
  unfold indexForIn
  split
  · exact bindPattern_inLanguage m language _ _
  · rfl

theorem indexImportItem_inLanguage (specifier : String) :
    indexImportItem specifier (m.inLanguage language) c =
      (indexImportItem specifier m c).inLanguage language := by
  unfold indexImportItem
  dsimp only
  split
  · rfl
  · split
    · exact foldl_inLanguage m language (fun _ _ => rfl) _
    · split
      · refine foldl_inLanguage m language (fun m spec => ?_) _
        split <;> rfl
      · rfl

theorem indexImport_inLanguage :
    (m.inLanguage language).indexImport c = (m.indexImport c).inLanguage language := by
  unfold indexImport
  split
  · rfl
  · exact foldl_inLanguage m language (fun m c => indexImportItem_inLanguage m language c _) _

theorem reexportWhole_inLanguage (specifier : String) :
    (m.inLanguage language).reexportWhole c specifier =
      (m.reexportWhole c specifier).inLanguage language := by
  unfold reexportWhole
  split
  · exact foldl_inLanguage m language (fun _ _ => rfl) _
  · split <;> rfl

theorem indexReexport_inLanguage (specifier : String) :
    (m.inLanguage language).indexReexport c specifier =
      (m.indexReexport c specifier).inLanguage language := by
  rw [indexReexport, reexportWhole_inLanguage]
  refine foldl_inLanguage _ language (fun m spec => ?_) _
  unfold reexportSpecifier
  split <;> rfl

theorem indexDefaultValue_inLanguage :
    (m.inLanguage language).indexDefaultValue c = (m.indexDefaultValue c).inLanguage language := by
  unfold indexDefaultValue
  split
  · rfl
  · split
    · dsimp only [inLanguage_source, Source.inLanguage_qualifiedName?]
      split <;> rfl
    · split
      · rfl
      · split
        · rw [indexObject_inLanguage]
          dsimp only [inLanguage_objects]
          split <;> rfl
        · rfl

theorem exportDeclared_inLanguage (isDefault : Bool) :
    (m.inLanguage language).exportDeclared isDefault c =
      (m.exportDeclared isDefault c).inLanguage language := by
  unfold exportDeclared
  split
  · exact foldl_inLanguage m language (fun _ _ => rfl) _
  · rfl

theorem indexLocalExport_inLanguage :
    (m.inLanguage language).indexLocalExport c = (m.indexLocalExport c).inLanguage language := by
  have listed : (exportSpecifiers c).foldl exportSpecifier (m.inLanguage language) =
      ((exportSpecifiers c).foldl exportSpecifier m).inLanguage language := by
    refine foldl_inLanguage m language (fun m spec => ?_) _
    unfold exportSpecifier
    split <;> rfl
  unfold indexLocalExport
  dsimp only
  rw [listed, exportDeclared_inLanguage]
  split
  · split
    · exact indexDefaultValue_inLanguage _ language _
    · rfl
  · rfl

theorem indexExport_inLanguage :
    (m.inLanguage language).indexExport c = (m.indexExport c).inLanguage language := by
  unfold indexExport
  split
  · exact indexReexport_inLanguage m language c _
  · exact indexLocalExport_inLanguage m language c

theorem indexAssignment_inLanguage :
    (m.inLanguage language).indexAssignment c = (m.indexAssignment c).inLanguage language := by
  unfold indexAssignment
  split
  · rename_i left right _ _
    rw [inLanguage_text]
    by_cases isTarget : (left.kind == "member_expression" && isExportTarget (m.text left)) = true
    · rw [if_pos isTarget, if_pos isTarget]
      split
      · rfl
      · split
        · exact foldl_inLanguage m language (fun _ _ => rfl) _
        · rfl
    · rw [if_neg isTarget, if_neg isTarget]
  · rfl

/-! ## The walk -/

/-- The step for a node does the same in every language. -/
theorem visit_inLanguage :
    (m.inLanguage language).visit c = (m.visit c).inLanguage language := by
  unfold visit
  split
  · exact indexFunction_inLanguage m language c
  · split
    · exact indexClass_inLanguage m language c
    · split
      · exact indexObject_inLanguage m language c
      · exact indexDeclarator_inLanguage m language c
      · exact indexParameters_inLanguage m language c
      · exact indexArrow_inLanguage m language c
      · exact indexCatch_inLanguage m language c
      · exact indexForIn_inLanguage m language c
      · exact indexImport_inLanguage m language c
      · exact indexExport_inLanguage m language c
      · exact indexAssignment_inLanguage m language c
      · rfl

/-- The index of a file in another language is the index of the file, with that language. -/
theorem index_inLanguage (f : Source) :
    index (f.inLanguage language) = (index f).inLanguage language :=
  foldl_inLanguage { source := f } language (fun m c => visit_inLanguage m language c) f.root.walk

end Module

end RepoAudit
