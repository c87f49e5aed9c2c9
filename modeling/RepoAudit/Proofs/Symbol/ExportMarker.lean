import RepoAudit.Proofs.Symbol.Change
import RepoAudit.Symbol.Export

/-! # Which nodes carry an export marker

The search for an export marker goes up from a node until it comes to an export statement, to
something that stands directly in the module and declares an exported name, or to a function.  Said
without the search: a node is exported if an export statement stands around it, or if it lies outside
every function and what it belongs to at the top of the module declares an exported name.

* `Cursor.InExport`, `Cursor.OutsideFunctions`, `Cursor.IsTopContainer` – the three conditions;
* `Module.isExported_of_child` – one step of the search;
* `outsideFunctions_of_isTopContainer` – what stands at the top of a module is in no function;
* `isExported_iff_marked` – the whole search, by induction on the way down to the node;
* `exported_where_marked` – which nodes are exported, and that nothing in a function is.
-/

namespace RepoAudit

open Syntax

namespace Syntax.Cursor

variable {c d parent : Cursor}

/-- An export statement stands around a node, with no function in between. -/
def InExport (d : Cursor) : Prop :=
  ∃ between statement outer, d.ancestors = between ++ statement :: outer ∧
    statement.kind = "export_statement" ∧ ∀ c ∈ between, c.kind.isFunctionLike = false

def OutsideFunctions (d : Cursor) : Prop :=
  ∀ a ∈ d.ancestors, a.kind.isFunctionLike = false

/-- What stands directly in a module: a child of the program other than a declaration of variables, or
the declarator of a declaration that is such a child. -/
def IsTopContainer (c : Cursor) : Prop :=
  (c.kind ≠ "lexical_declaration" ∧ c.kind ≠ "variable_declaration" ∧
    ∃ program, c.parent? = some program ∧ program.kind = "program") ∨
  (c.kind = "variable_declarator" ∧ ∃ declaration program, c.parent? = some declaration ∧
    declaration.parent? = some program ∧ program.kind = "program")

theorem not_inExport_of_top (top : c.parent? = none) : ¬ c.InExport := by
  rintro ⟨between, statement, outer, way, -⟩
  simp [ancestors_eq_nil_of_parent? top] at way

theorem inExport_iff (place : c.parent? = some parent) :
    c.InExport ↔ parent.kind = "export_statement" ∨
      parent.kind.isFunctionLike = false ∧ parent.InExport := by
  rw [InExport, ancestors_of_parent? place]
  constructor
  · rintro ⟨between, statement, outer, way, isExport, free⟩
    cases between with
    | nil =>
      rw [List.nil_append, List.cons.injEq] at way
      exact .inl (way.1 ▸ isExport)
    | cons first between =>
      rw [List.cons_append, List.cons.injEq] at way
      obtain ⟨rfl, way⟩ := way
      refine .inr ⟨free parent List.mem_cons_self, between, statement, outer, way, isExport, ?_⟩
      exact fun c mem => free c (List.mem_cons_of_mem _ mem)
  · rintro (isExport | ⟨noFunction, between, statement, outer, way, isExport, free⟩)
    · exact ⟨[], parent, parent.ancestors, rfl, isExport, fun c mem => absurd mem List.not_mem_nil⟩
    · refine ⟨parent :: between, statement, outer, by rw [way, List.cons_append], isExport, ?_⟩
      intro c mem
      rcases List.mem_cons.1 mem with rfl | inner
      · exact noFunction
      · exact free c inner

theorem outsideFunctions_of_top (top : c.parent? = none) : c.OutsideFunctions := by
  intro a mem
  rw [ancestors_eq_nil_of_parent? top] at mem
  exact absurd mem List.not_mem_nil

theorem outsideFunctions_iff (place : c.parent? = some parent) :
    c.OutsideFunctions ↔ parent.kind.isFunctionLike = false ∧ parent.OutsideFunctions := by
  rw [OutsideFunctions, ancestors_of_parent? place, List.forall_mem_cons, OutsideFunctions]

theorem exists_mem_selfAndAncestors_iff {P : Cursor → Prop} (place : c.parent? = some parent) :
    (∃ t ∈ c.selfAndAncestors, P t) ↔ P c ∨ ∃ t ∈ parent.selfAndAncestors, P t := by
  simp [selfAndAncestors, ancestors_of_parent? place]

end Syntax.Cursor

/-! ## The shape of a tree -/

namespace Source

def HasOneProgram (f : Source) : Prop :=
  ∀ c, f.root.Within c → c.kind = "program" → c.parent? = none

/-- Something holds each declarator, as the grammar has it: none is directly in a function or in the
program. -/
def HoldsDeclarators (f : Source) : Prop :=
  ∀ c parent, f.root.Within c → c.kind = "variable_declarator" → c.parent? = some parent →
    parent.kind.isFunctionLike = false ∧ parent.kind ≠ "program"

variable {f : Source} {c parent : Cursor}

/-- The program itself stands in no function, and a child of it neither. -/
theorem outsideFunctions_of_parent (shape : f.HasOneProgram) (within : f.root.Within parent)
    (place : c.parent? = some parent) (isProgram : parent.kind = "program") :
    c.OutsideFunctions := by
  have top := Cursor.outsideFunctions_of_top (shape parent within isProgram)
  refine (Cursor.outsideFunctions_iff place).2 ⟨?_, top⟩
  rw [isProgram]
  decide

/-- What stands directly in a module is in no function. -/
theorem outsideFunctions_of_isTopContainer (shape : f.HasOneProgram) (held : f.HoldsDeclarators)
    (within : f.root.Within c) (top : c.IsTopContainer) : c.OutsideFunctions := by
  have above {parent : Cursor} (place : c.parent? = some parent) : f.root.Within parent := by
    refine within.ancestor ?_
    rw [Cursor.ancestors_of_parent? place]
    exact List.mem_cons_self
  rcases top with ⟨-, -, program, place, isProgram⟩ |
    ⟨isDeclarator, declaration, program, place, outer, isProgram⟩
  · exact outsideFunctions_of_parent shape (above place) place isProgram
  · have withinProgram : f.root.Within program := by
      refine (above place).ancestor ?_
      rw [Cursor.ancestors_of_parent? outer]
      exact List.mem_cons_self
    have outside := outsideFunctions_of_parent shape withinProgram outer isProgram
    exact (Cursor.outsideFunctions_iff place).2
      ⟨(held c declaration within isDeclarator place).1, outside⟩

end Source

/-! ## The search -/

namespace Module

variable {m : Module} {c d parent : Cursor}

theorem isTopLevel_iff (shape : m.source.HoldsDeclarators) (within : m.source.root.Within c) :
    isTopLevel c = true ↔ c.IsTopContainer := by
  unfold isTopLevel Cursor.IsTopContainer
  cases place : c.parent? with
  | none => simp
  | some parent =>
    by_cases declarator : c.kind = "variable_declarator"
    · have notProgram := (shape c parent within declarator place).2
      simp [declarator, notProgram, Option.map_eq_some_iff]
    · simp only [beq_iff_eq, declarator, if_false, Bool.and_eq_true, bne_iff_ne, ne_eq,
        Option.some.injEq, exists_eq_left', false_and, or_false]
      constructor
      · rintro ⟨⟨isProgram, notLexical⟩, notVariable⟩
        exact ⟨notLexical, notVariable, isProgram⟩
      · rintro ⟨notLexical, notVariable, isProgram⟩
        exact ⟨⟨isProgram, notLexical⟩, notVariable⟩

/-- A node declares a name that some export of the module mentions. -/
def MentionsLocal (m : Module) (c : Cursor) : Prop :=
  ∃ name ∈ m.localNames c, name ∈ m.exportedLocals

theorem declaresExported_iff (shape : m.source.HoldsDeclarators)
    (within : m.source.root.Within c) :
    m.declaresExported c = true ↔ c.IsTopContainer ∧ m.MentionsLocal c := by
  rw [declaresExported, Bool.and_eq_true, isTopLevel_iff shape within, List.any_eq_true, MentionsLocal]
  simp only [List.contains_iff_mem]

theorem isExported_of_top (top : c.parent? = none) : m.isExported c = false := by
  rw [isExported, Cursor.selfAndAncestors, Cursor.ancestors_eq_nil_of_parent? top, exportedAlong]
  split <;> simp

/-- One step of the search: a node is exported if its parent is an export statement, if it declares an
exported name at the top of the module, or if its parent is no function and exported. -/
theorem isExported_of_child (notRoot : c.kind ≠ "program") (place : c.parent? = some parent) :
    m.isExported c = true ↔ parent.kind = "export_statement" ∨ m.declaresExported c = true ∨
      parent.kind.isFunctionLike = false ∧ m.isExported parent = true := by
  have onward : m.exportedAlong false parent.selfAndAncestors = true ↔
      parent.kind.isFunctionLike = false ∧ m.isExported parent = true := by
    rw [isExported, Cursor.selfAndAncestors]
    unfold exportedAlong
    cases parent.kind.isFunctionLike with
    | false => simp
    | true => simp
  rw [isExported, Cursor.selfAndAncestors, Cursor.ancestors_of_parent? place, exportedAlong,
    ← Cursor.selfAndAncestors]
  simp [notRoot, onward, or_assoc]

/-- A node is exported if an export statement stands around it, or if it is in no function and what it
belongs to at the top of the module declares an exported name. -/
theorem isExported_iff_marked (program : m.source.HasOneProgram)
    (declarators : m.source.HoldsDeclarators) (within : m.source.root.Within d) :
    m.isExported d = true ↔ d.InExport ∨
      d.OutsideFunctions ∧ ∃ c ∈ d.selfAndAncestors, c.IsTopContainer ∧ m.MentionsLocal c := by
  -- by induction on the way down from the root, following the search one step up
  induction within with
  | refl =>
    have top : m.source.root.parent? = none := rfl
    have noContainer : ¬ m.source.root.IsTopContainer := by
      rintro (⟨-, -, program, place, -⟩ | ⟨-, declaration, program, place, -⟩)
      · cases place
      · cases place
    simp [isExported_of_top top, Cursor.not_inExport_of_top top, Cursor.selfAndAncestors,
      Cursor.ancestors_eq_nil_of_parent? top, noContainer]
  | @tail q c before step ih =>
    have within : m.source.root.Within c := Cursor.Within.child before step
    have place := Cursor.parent?_of_mem_children step
    have notRoot : c.kind ≠ "program" := by
      intro isProgram
      rw [program c within isProgram] at place
      cases place
    have outside : c.IsTopContainer → q.kind.isFunctionLike = false ∧ q.OutsideFunctions :=
      fun top => (Cursor.outsideFunctions_iff place).1
        (Source.outsideFunctions_of_isTopContainer program declarators within top)
    rw [isExported_of_child notRoot place, declaresExported_iff declarators within, ih,
      Cursor.inExport_iff place, Cursor.outsideFunctions_iff place,
      Cursor.exists_mem_selfAndAncestors_iff place]
    grind

/-- Where no export statement stands in a function, what an export statement stands around is in no
function. -/
theorem outsideFunctions_of_inExport
    (outer : ∀ e, m.source.root.Within e → e.kind = "export_statement" → e.OutsideFunctions)
    (within : m.source.root.Within d) (inside : d.InExport) : d.OutsideFunctions := by
  induction within with
  | refl => exact absurd inside (Cursor.not_inExport_of_top rfl)
  | @tail q c before step ih =>
    have place := Cursor.parent?_of_mem_children step
    rw [Cursor.outsideFunctions_iff place]
    rcases (Cursor.inExport_iff place).1 inside with isExport | ⟨noFunction, further⟩
    · refine ⟨?_, outer q before isExport⟩
      rw [isExport]
      decide
    · exact ⟨noFunction, ih further⟩

end Module

/-- In a tree with the program as its root only, and with no declarator directly in a function or in the
program, a node is exported exactly if

* an export statement stands around it with no function in between, or
* it lies outside every function, and what it belongs to at the top of the module declares a name that
  some export mentions.

Where no export statement stands in a function, nothing in a function is exported. -/
theorem exported_where_marked (m : Module) (program : m.source.HasOneProgram)
    (declarators : m.source.HoldsDeclarators) {d : Cursor} (within : m.source.root.Within d) :
    (m.isExported d = true ↔ d.InExport ∨ d.OutsideFunctions ∧
      ∃ c ∈ d.selfAndAncestors, c.IsTopContainer ∧
        ∃ name ∈ m.localNames c, name ∈ m.exportedLocals) ∧
    ((∀ e, m.source.root.Within e → e.kind = "export_statement" → e.OutsideFunctions) →
      (∃ a ∈ d.ancestors, a.kind.isFunctionLike = true) → m.isExported d = false) := by
  have marked := Module.isExported_iff_marked program declarators within
  refine ⟨marked, ?_⟩
  rintro outer ⟨a, above, isFunction⟩
  have inside : ¬ d.OutsideFunctions := by
    intro outside
    rw [outside a above] at isFunction
    cases isFunction
  rw [← Bool.not_eq_true, marked]
  rintro (inExport | ⟨outside, -⟩)
  · exact inside (Module.outsideFunctions_of_inExport outer within inExport)
  · exact inside outside

/-! ## A file -/

/-- Where the nodes without names are leaves, it is enough to look at the children of what a walk
visits. -/
theorem Source.hasOneProgram_of_walk {f : Source}
    (below : ∀ a ∈ f.root.walk, ∀ b ∈ a.children,
      b.kind ≠ "program" ∧ (b.node.named = true ∨ b.node.children.isEmpty = true)) :
    f.HasOneProgram := by
  intro c within isProgram
  rcases Cursor.eq_or_mem_children_of_within (fun a visited b child => (below a visited b child).2)
    within with rfl | ⟨a, visited, child⟩
  · rfl
  · exact absurd isProgram (below a visited c child).1

/-- The file `a.ts` with the text
`namespace N{function f(){function g(){}}}const h=()=>{};export{N,h}`. -/
def namespaceFile : Source where
  path := "a.ts"
  language := "typescript"
  bytes := Text.Utf8.encode "namespace N{function f(){function g(){}}}const h=()=>{};export{N,h}"
  tree := ⟨"program", true, none, 0, 67,
    [⟨"expression_statement", true, none, 0, 41,
      [⟨"internal_module", true, none, 0, 41,
        [⟨"identifier", true, some "name", 10, 11, []⟩,
         ⟨"statement_block", true, some "body", 11, 41,
          [⟨"function_declaration", true, none, 12, 40,
            [⟨"identifier", true, some "name", 21, 22, []⟩,
             ⟨"formal_parameters", true, some "parameters", 22, 24, []⟩,
             ⟨"statement_block", true, some "body", 24, 40,
              [⟨"function_declaration", true, none, 25, 39,
                [⟨"identifier", true, some "name", 34, 35, []⟩,
                 ⟨"formal_parameters", true, some "parameters", 35, 37, []⟩,
                 ⟨"statement_block", true, some "body", 37, 39, []⟩]⟩]⟩]⟩]⟩]⟩]⟩,
     ⟨"lexical_declaration", true, none, 41, 56,
      [⟨"variable_declarator", true, none, 47, 55,
        [⟨"identifier", true, some "name", 47, 48, []⟩,
         ⟨"arrow_function", true, some "value", 49, 55,
          [⟨"formal_parameters", true, some "parameters", 49, 51, []⟩,
           ⟨"statement_block", true, some "body", 53, 55, []⟩]⟩]⟩]⟩,
     ⟨"export_statement", true, none, 56, 67,
      [⟨"export_clause", true, none, 62, 67,
        [⟨"export_specifier", true, none, 63, 64,
          [⟨"identifier", true, some "name", 63, 64, []⟩]⟩,
         ⟨"export_specifier", true, none, 65, 66,
          [⟨"identifier", true, some "name", 65, 66, []⟩]⟩]⟩]⟩]⟩

/-- The function in the exported namespace is exported, because the statement around the namespace
declares its name, and the value of the exported variable, because its declarator does; the function in
the first function is not. -/
theorem exported_where_marked_namespace :
    (∀ name ∈ ["f", "h"], ∃ d ∈ namespaceFile.root.walk, namespaceFile.ownName? d = some name ∧
      d.OutsideFunctions ∧ ∃ c ∈ d.selfAndAncestors, c.IsTopContainer ∧
        ∃ name ∈ (Module.index namespaceFile).localNames c,
          name ∈ (Module.index namespaceFile).exportedLocals) ∧
    ∃ d ∈ namespaceFile.root.walk, namespaceFile.ownName? d = some "g" ∧
      (Module.index namespaceFile).isExported d = false := by
  have source : (Module.index namespaceFile).source = namespaceFile := Module.index_source _
  have named : ∀ a ∈ namespaceFile.root.walk, ∀ b ∈ a.children, b.node.named = true := by
    decide +kernel
  have program : (Module.index namespaceFile).source.HasOneProgram := by
    rw [source]
    exact Source.hasOneProgram_of_walk (by decide +kernel)
  have declarators : (Module.index namespaceFile).source.HoldsDeclarators := by
    rw [source]
    intro c parent within isDeclarator place
    have held : ∀ c ∈ namespaceFile.root.walk, c.kind = "variable_declarator" →
        ∀ parent ∈ c.parent?, parent.kind.isFunctionLike = false ∧ parent.kind ≠ "program" := by
      decide +kernel
    exact held c (Cursor.mem_walk_of_within named within) isDeclarator parent place
  have within {d : Cursor} (visited : d ∈ namespaceFile.root.walk) :
      (Module.index namespaceFile).source.root.Within d := by
    rw [source]
    exact Cursor.within_of_mem_walk visited
  have outer : ∀ name ∈ ["f", "h"], ∃ d ∈ namespaceFile.root.walk, namespaceFile.ownName? d = some name ∧
      (Module.index namespaceFile).isExported d = true ∧
      ∀ a ∈ d.ancestors, a.kind ≠ "export_statement" := by decide +kernel
  have inner : ∃ d ∈ namespaceFile.root.walk, namespaceFile.ownName? d = some "g" ∧
      ∃ a ∈ d.ancestors, a.kind.isFunctionLike = true := by decide +kernel
  have statements : ∀ e ∈ namespaceFile.root.walk, e.kind = "export_statement" →
      ∀ a ∈ e.ancestors, a.kind.isFunctionLike = false := by decide +kernel
  constructor
  · intro name listed
    obtain ⟨d, visited, named, exported, noExport⟩ := outer name listed
    have rule := (exported_where_marked _ program declarators (within visited)).1
    rcases rule.1 exported with ⟨between, e, above, way, isExport, -⟩ | marked
    · exact absurd isExport (noExport e (by simp [way]))
    · exact ⟨d, visited, named, marked⟩
  · obtain ⟨d, visited, name, inFunction⟩ := inner
    have rule := (exported_where_marked _ program declarators (within visited)).2
    refine ⟨d, visited, name, rule ?_ inFunction⟩
    rw [source]
    intro e inTree isExport
    exact statements e (Cursor.mem_walk_of_within named inTree) isExport

end RepoAudit
