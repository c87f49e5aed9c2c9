import Mathlib.Data.List.Basic
import RepoAudit.DeadCode
import RepoAudit.Proofs.CallGraph
import RepoAudit.Proofs.Except
import RepoAudit.Proofs.Symbol.Program

/-! # What exactly is reported as dead

The report is put together in passes: declarations are extracted, the calls of each file become a
graph, the graphs are merged, and declarations are classified against the whole.  Seen from outside
it is one rule for each node.

* `Called` – some call of some file reaches a function;
* `contains_callGraph_iff` – the merged graph knows a function exactly when it is called;
* `deadNode?` – the rule for one node;
* `deadCode_eq_deadNodes` – the report is the rule applied to the nodes in document order;
* `deadCodeGiven_eq_ok` – the report for markers as they are given is the one for the texts among them.
-/

namespace RepoAudit

open Syntax

/-! ## Calls -/

/-- Some call of the source files reaches the function with this qualified name. -/
def Called (p : Program) (sources : List Source) (name : String) : Prop :=
  ∃ f ∈ sources, ∃ m ∈ p.module? f.path, ∃ call ∈ f.root.walk, call.kind = "call_expression" ∧
    ∃ callee ∈ call.child? "function", p.resolveCallee m callee = some name

theorem calleeOf_eq_some_iff {p : Program} {m : Module} {call : Cursor} {name : String} :
    calleeOf p m call = some name ↔
      ∃ callee ∈ call.child? "function", p.resolveCallee m callee = some name := by
  unfold calleeOf
  cases call.child? "function" <;> simp

theorem mem_fileEdges_iff {p : Program} {f : Source} {name caller : String} :
    (name, caller) ∈ fileEdges p f ↔
      ∃ m ∈ p.module? f.path, ∃ call ∈ callSites f,
        calleeOf p m call = some name ∧ enclosingCaller m.source call = caller := by
  unfold fileEdges
  cases p.module? f.path with
  | none => simp
  | some m =>
    simp only [List.mem_filterMap, Option.map_eq_some_iff, Prod.mk.injEq, Option.mem_def,
      Option.some.injEq, exists_eq_left']
    constructor
    · rintro ⟨call, visited, callee, resolved, rfl, rfl⟩
      exact ⟨call, visited, resolved, rfl⟩
    · rintro ⟨call, visited, resolved, rfl⟩
      exact ⟨call, visited, name, resolved, rfl, rfl⟩

theorem mem_callersOf_fileGraph {p : Program} {f : Source} {name caller : String} :
    caller ∈ (fileGraph p f).callersOf name ↔ (name, caller) ∈ fileEdges p f := by
  rw [fileGraph, CallGraph.mem_callersOf_foldl_addEdge]
  simp

theorem mem_callersOf_foldl_merge {p : Program} {sources : List Source} {g : CallGraph}
    {name caller : String} :
    caller ∈ (sources.foldl (fun g f => g.merge (fileGraph p f)) g).callersOf name ↔
      caller ∈ g.callersOf name ∨ ∃ f ∈ sources, (name, caller) ∈ fileEdges p f := by
  induction sources generalizing g with
  | nil => simp
  | cons f rest ih =>
    have distinct : (fileGraph p f).callers.keys.Nodup :=
      CallGraph.nodup_keys_foldl_addEdge List.nodup_nil
    rw [List.foldl_cons, ih, CallGraph.mem_callersOf_merge distinct, mem_callersOf_fileGraph]
    simp [or_assoc]

theorem mem_callersOf_callGraph {p : Program} {sources : List Source} {name caller : String} :
    caller ∈ (callGraph p sources).callersOf name ↔
      ∃ f ∈ sources, (name, caller) ∈ fileEdges p f := by
  rw [callGraph, mem_callersOf_foldl_merge]
  simp

/-- The merged graph knows a function exactly when some call of some file reaches it. -/
theorem contains_callGraph_iff {p : Program} {sources : List Source} {name : String} :
    (callGraph p sources).contains name = true ↔ Called p sources name := by
  simp only [CallGraph.contains_iff, mem_callersOf_callGraph, mem_fileEdges_iff, Called,
    calleeOf_eq_some_iff, callSites, List.mem_filter, beq_iff_eq]
  constructor
  · rintro ⟨caller, f, listed, m, known, call, ⟨visited, kind⟩, resolved, -⟩
    exact ⟨f, listed, m, known, call, visited, kind, resolved⟩
  · rintro ⟨f, listed, m, known, call, visited, kind, resolved⟩
    exact ⟨_, f, listed, m, known, call, ⟨visited, kind⟩, resolved, rfl⟩

instance (p : Program) (sources : List Source) (name : String) :
    Decidable (Called p sources name) :=
  decidable_of_iff _ contains_callGraph_iff

/-- It does not matter in which order the files are read. -/
theorem called_of_perm {p : Program} {sources order : List Source} (h : order.Perm sources)
    {name : String} : Called p order name ↔ Called p sources name := by
  simp only [Called, h.mem_iff]

/-! ## The report -/

/-- The finding about a node of a source file.  There is one when the node is a function or method
that may be reported and has a name, no export and no decorator makes it used, its file is no test
file, and no call of any file reaches it. -/
def deadNode? (p : Program) (markers : List String) (confidence : Number) (sources : List Source)
    (f : Source) (c : Cursor) : Option DeadCodeFinding := do
  let m ← p.module? f.path
  let name ← m.source.qualifiedName? c
  if f.isCandidate c ∧ ¬ m.isExported c ∧ ¬ isAnnotated c ∧ ¬ isTestFile f.path markers ∧
      ¬ Called p sources name then
    some
      { path := f.path
        name := match c.child? "name" with
          | some own => f.text own.node
          | none => Text.afterLast '.' name
        firstLine := f.firstLine c.node
        lastLine := f.lastLine c.node
        confidence := confidence
        reason := "Function has no internal references and is not exported"
        qualifiedName := name }
  else none

theorem reachability_unreferenced_iff {g : CallGraph} {d : Declaration} :
    Reachability.of g d = .unreferenced ↔
      (d.exported = false ∧ d.annotated = false ∧ d.inTestFile = false) ∧
        g.contains d.qualifiedName = false := by
  unfold Reachability.of Declaration.isRoot
  cases d.exported <;> cases d.inTestFile <;> cases d.annotated <;> simp

/-- Classifying the declaration of a node against a graph that knows what is called decides the rule
for the node. -/
theorem finding_of_declaration? {p : Program} {markers : List String} {confidence : Number}
    {sources : List Source} {g : CallGraph}
    (knows : ∀ name, g.contains name = true ↔ Called p sources name) {f : Source} {m : Module}
    (known : p.module? f.path = some m) (c : Cursor) :
    ((declaration? m markers f c).filter fun d => Reachability.of g d == .unreferenced).map
        (Declaration.finding confidence) =
      deadNode? p markers confidence sources f c := by
  unfold declaration? deadNode?
  rw [known, Option.bind_eq_bind, Option.bind_some]
  cases m.source.qualifiedName? c with
  | none => simp
  | some name =>
    have unknown : g.contains name = false ↔ ¬ Called p sources name := by
      rw [← knows, Bool.not_eq_true]
    by_cases candidate : f.isCandidate c = true
    · rw [if_pos candidate, Option.map_some, Option.filter_some]
      simp only [beq_iff_eq, reachability_unreferenced_iff, unknown, Option.bind_eq_bind,
        Option.bind_some, candidate, true_and, Bool.not_eq_true, and_assoc]
      split
      · rfl
      · rfl
    · simp [candidate]

/-- The findings about the declarations of some files, classified against a graph that knows what is
called, are the rule applied to the nodes of the files. -/
theorem deadCodeFindings_eq {p : Program} {markers : List String} {confidence : Number}
    {sources files : List Source} {g : CallGraph}
    (knows : ∀ name, g.contains name = true ↔ Called p sources name)
    (known : ∀ f ∈ files, ∃ m, p.module? f.path = some m) :
    deadCodeFindings confidence g (allDeclarations p markers files) =
      files.flatMap fun f => f.root.walk.filterMap (deadNode? p markers confidence sources f) := by
  unfold deadCodeFindings allDeclarations
  rw [List.filter_flatMap, List.map_flatMap]
  refine List.flatMap_congr fun f listed => ?_
  obtain ⟨m, hm⟩ := known f listed
  simp only [declarationsOf, hm]
  rw [List.filter_filterMap, List.map_filterMap]
  refine List.filterMap_congr fun c _ => ?_
  exact finding_of_declaration? knows hm c

/-- The report of dead code has, in the order of the files and then of the document, one finding for
each node that the rule for nodes finds dead, and it stays the same in whatever order the graphs of
the files are merged. -/
theorem deadCode_eq_deadNodes (markers : List String) (confidence : Number) (sources : List Source) :
    (∀ f ∈ sources, ∃ m, (Program.ofSources sources).module? f.path = some m) ∧
    deadCode markers confidence sources =
      (sources.flatMap fun f => f.root.walk.filterMap
        (deadNode? (Program.ofSources sources) markers confidence sources f)) ∧
    ∀ order : List Source, order.Perm sources →
      deadCodeFindings confidence (callGraph (Program.ofSources sources) order)
        (allDeclarations (Program.ofSources sources) markers sources) =
      deadCode markers confidence sources := by
  have known : ∀ f ∈ sources, ∃ m, (Program.ofSources sources).module? f.path = some m :=
    fun f listed => Program.exists_module?_of_mem listed
  have report : deadCode markers confidence sources =
      sources.flatMap fun f => f.root.walk.filterMap
        (deadNode? (Program.ofSources sources) markers confidence sources f) :=
    deadCodeFindings_eq (fun _ => contains_callGraph_iff) known
  refine ⟨known, report, ?_⟩
  intro order perm
  rw [report]
  exact deadCodeFindings_eq (fun _ => contains_callGraph_iff.trans (called_of_perm perm)) known

/-- Markers as they are given, if they can be used at all, mark the files that the texts among them mark. -/
theorem deadCodeGiven_eq_ok {markers : List Value} {confidence : Number} {sources : List Source}
    {found : List DeadCodeFinding} (h : deadCodeGiven markers confidence sources = .ok found) :
    found = deadCode (markerTexts markers) confidence sources ∧
      ∀ f ∈ sources, holdsMarker f.path markers = .ok (isTestFile f.path (markerTexts markers)) := by
  obtain ⟨texts, usable, reported⟩ := bind_eq_ok_iff.1 h
  cases reported
  unfold usableMarkers at usable
  cases tried : sources.mapM fun f => holdsMarker f.path markers with
  | error e =>
    rw [tried] at usable
    cases usable
  | ok answers =>
    rw [tried] at usable
    cases usable
    refine ⟨rfl, fun f listed => ?_⟩
    obtain ⟨answer, held⟩ := exists_mapM_iff.1 ⟨answers, tried⟩ f listed
    rw [held, holdsMarker_eq held]

end RepoAudit
