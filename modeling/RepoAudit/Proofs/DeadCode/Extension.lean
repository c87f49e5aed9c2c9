import RepoAudit.Proofs.DeadCode.Exact
import RepoAudit.Proofs.Symbol.ExportSurface
import RepoAudit.Proofs.Symbol.Extension

/-! # A further file

A file that no specifier of the others leads to can only make functions of the others used, by its
own calls.  All calls in the other files reach what they reached before.

* `fileEdges_of_extends`, `declarationsOf_of_extends` – a file has the same calls and declarations in
  a larger program;
* `deadCodeFindings_flatMap` – the report file by file;
* `extends_of_insert` – a file that is not imported makes a larger program;
* `deadCode_insert` – the report with the file is the one without it, less what the file calls.
-/

namespace RepoAudit

open Syntax

/-! ## Declarations in different languages -/

namespace Module

variable (m : Module) (language : String)

theorem inLanguage_exportedAlong (isStart : Bool) (way : List Cursor) :
    (m.inLanguage language).exportedAlong isStart way = m.exportedAlong isStart way := by
  induction way generalizing isStart with
  | nil => rfl
  | cons c above ih =>
    unfold exportedAlong
    rw [ih]
    rfl

theorem declaration?_inLanguage (markers : List String) (f : Source) (c : Cursor) :
    declaration? (m.inLanguage language) markers f c = declaration? m markers f c := by
  unfold declaration? isExported
  rw [inLanguage_exportedAlong]
  rfl

end Module

/-! ## Files in a larger program -/

section larger

variable {p p' : Program} {f : Source} {markers : List String} {confidence : Number}

/-- The module of a file in the smaller program and its counterpart in the larger one. -/
theorem exists_alike_of_extends (grounded : p.Grounded) (extended : p.Extends p') {m : Module}
    (known : p.module? f.path = some m) :
    p.module? m.path = some m ∧ ∃ language, p'.module? f.path = some (m.inLanguage language) := by
  obtain ⟨m', known', language, rfl⟩ := extended.modules _ m known
  exact ⟨grounded.module?_path known, language, known'⟩

theorem fileEdges_of_extends (grounded : p.Grounded) (extended : p.Extends p')
    (listed : ∃ m, p.module? f.path = some m) : fileEdges p' f = fileEdges p f := by
  obtain ⟨m, found⟩ := listed
  obtain ⟨known, language, found'⟩ := exists_alike_of_extends grounded extended found
  unfold fileEdges
  rw [found, found']
  refine List.filterMap_congr fun call _ => ?_
  rw [calleeOf_of_extends grounded extended known ⟨language, rfl⟩]
  rfl

theorem declarationsOf_of_extends (grounded : p.Grounded) (extended : p.Extends p')
    (listed : ∃ m, p.module? f.path = some m) :
    declarationsOf p' markers f = declarationsOf p markers f := by
  obtain ⟨m, found⟩ := listed
  obtain ⟨-, language, found'⟩ := exists_alike_of_extends grounded extended found
  unfold declarationsOf
  rw [found, found']
  exact List.filterMap_congr fun c _ => Module.declaration?_inLanguage m language markers f c

end larger

/-! ## The report file by file -/

section report

variable {p : Program} {f : Source} {markers : List String} {confidence : Number} {g g' : CallGraph}

theorem deadCodeFindings_flatMap (files : List Source) (declarations : Source → List Declaration) :
    deadCodeFindings confidence g (files.flatMap declarations) =
      files.flatMap fun f => deadCodeFindings confidence g (declarations f) := by
  unfold deadCodeFindings
  rw [List.filter_flatMap, List.map_flatMap]

/-- A finding about a declaration of a file names the file. -/
theorem path_of_mem_findings {d : DeadCodeFinding}
    (h : d ∈ deadCodeFindings confidence g (declarationsOf p markers f)) : d.path = f.path := by
  obtain ⟨declared, kept, rfl⟩ := List.mem_map.1 h
  have mem := (List.mem_filter.1 kept).1
  unfold declarationsOf at mem
  split at mem
  · obtain ⟨c, -, made⟩ := List.mem_filterMap.1 mem
    unfold declaration? at made
    split at made
    · obtain ⟨qualified, -, rfl⟩ := Option.map_eq_some_iff.1 made
      rfl
    · cases made
  · cases mem

/-- A graph that knows further functions leaves the findings about all others. -/
theorem deadCodeFindings_of_more {used : String → Bool}
    (knows : ∀ name, g'.contains name = (g.contains name || used name)) (ds : List Declaration) :
    deadCodeFindings confidence g' ds =
      (deadCodeFindings confidence g ds).filter fun d => !used d.qualifiedName := by
  unfold deadCodeFindings
  rw [List.filter_map, List.filter_filter]
  congr 1
  refine List.filter_congr fun d _ => ?_
  simp only [Reachability.of, knows, Function.comp, Declaration.finding]
  cases d.isRoot <;> cases g.contains d.qualifiedName <;> cases used d.qualifiedName <;> rfl

end report

/-! ## The further file -/

section insert

variable {before after : List Source} {extra : Source}

theorem module?_insert_self (fresh : ∀ f ∈ before ++ after, f.path ≠ extra.path) :
    (Program.ofSources (before ++ extra :: after)).module? extra.path = some (Module.index extra) := by
  obtain ⟨m, found⟩ := Program.exists_module?_of_mem
    (show extra ∈ before ++ extra :: after by simp)
  obtain ⟨f, listed, same, rfl⟩ := Program.exists_source_of_module? found
  have : f = extra := by
    by_contra other
    refine fresh f ?_ same
    simpa [other] using listed
  rw [found, this]

theorem module?_insert_of_ne {path : String} (other : path ≠ extra.path) :
    (Program.ofSources (before ++ extra :: after)).module? path =
      (Program.ofSources (before ++ after)).module? path := by
  rw [Program.module?_ofSources, Program.module?_ofSources]
  simp [List.find?_append, other.symm]

/-- A specifier leads where it led before if the path of the further file is none of those that it may
stand for. -/
theorem resolveModule_insert_of_notMem (before after : List Source) {importer specifier : String}
    (elsewhere : extra.path ∉ Program.candidates (Program.target importer specifier)) :
    (Program.ofSources (before ++ extra :: after)).resolveModule importer specifier =
      (Program.ofSources (before ++ after)).resolveModule importer specifier := by
  unfold Program.resolveModule
  have same : ∀ path ∈ Program.candidates (Program.target importer specifier),
      (Program.ofSources (before ++ extra :: after)).module? path =
        (Program.ofSources (before ++ after)).module? path := by
    intro path mem
    exact module?_insert_of_ne fun isExtra => elsewhere (isExtra ▸ mem)
  rw [← List.head?_filterMap, ← List.head?_filterMap, List.filterMap_congr same]

/-- A file that is not imported makes a larger program. -/
theorem extends_of_insert (fresh : ∀ f ∈ before ++ after, f.path ≠ extra.path)
    (unmoved : ∀ path m specifier, (Program.ofSources (before ++ after)).module? path = some m →
      m.Mentions specifier →
      (Program.ofSources (before ++ extra :: after)).resolveModule m.path specifier =
        (Program.ofSources (before ++ after)).resolveModule m.path specifier) :
    (Program.ofSources (before ++ after)).Extends (Program.ofSources (before ++ extra :: after)) where
  modules path m found := by
    obtain ⟨f, listed, rfl, -⟩ := Program.exists_source_of_module? found
    exact ⟨m, (module?_insert_of_ne (fresh f listed)).trans found, .refl m⟩
  imports path m specifier found mentioned := by
    rw [unmoved path m specifier found mentioned]
    exact .refl _

def calledFrom (p : Program) (extra : Source) (name : String) : Bool :=
  (callSites extra).any fun call => calleeOf p (Module.index extra) call == some name

theorem mem_insert_iff {f : Source} :
    f ∈ before ++ extra :: after ↔ f = extra ∨ f ∈ before ++ after := by
  rw [List.perm_middle.mem_iff, List.mem_cons]

variable {p p' : Program}

/-- The graph with the further file knows what the graph without it knows, and what the file calls. -/
theorem contains_callGraph_insert (grounded : p.Grounded) (extended : p.Extends p')
    (listed : ∀ f ∈ before ++ after, ∃ m, p.module? f.path = some m)
    (own : p'.module? extra.path = some (Module.index extra)) (name : String) :
    (callGraph p' (before ++ extra :: after)).contains name =
      ((callGraph p (before ++ after)).contains name || calledFrom p' extra name) := by
  have edges : ∀ f ∈ before ++ after, fileEdges p' f = fileEdges p f :=
    fun f mem => fileEdges_of_extends grounded extended (listed f mem)
  have ownEdges : ∀ caller, (name, caller) ∈ fileEdges p' extra ↔
      ∃ call ∈ callSites extra, calleeOf p' (Module.index extra) call = some name ∧
        enclosingCaller (Module.index extra).source call = caller := by
    simp [mem_fileEdges_iff, own]
  rw [Bool.eq_iff_iff, Bool.or_eq_true, calledFrom, List.any_eq_true, CallGraph.contains_iff,
    CallGraph.contains_iff]
  simp only [mem_callersOf_callGraph, beq_iff_eq]
  constructor
  -- a call is one of the further file or one that was there before
  · rintro ⟨caller, f, mem, edge⟩
    rcases mem_insert_iff.1 mem with rfl | mem
    · obtain ⟨call, visited, resolved, -⟩ := (ownEdges caller).1 edge
      exact .inr ⟨call, visited, resolved⟩
    · exact .inl ⟨caller, f, mem, edges f mem ▸ edge⟩
  · rintro (⟨caller, f, mem, edge⟩ | ⟨call, visited, resolved⟩)
    · exact ⟨caller, f, mem_insert_iff.2 (.inr mem), (edges f mem).symm ▸ edge⟩
    · exact ⟨_, extra, mem_insert_iff.2 (.inl rfl), (ownEdges _).2 ⟨call, visited, resolved, rfl⟩⟩

/-- Of the findings file by file, those located in files other than the further one. -/
theorem filter_flatMap_insert (fresh : ∀ f ∈ before ++ after, f.path ≠ extra.path)
    {findings : Source → List DeadCodeFinding} (located : ∀ f, ∀ d ∈ findings f, d.path = f.path) :
    ((before ++ extra :: after).flatMap findings).filter
        (fun d => d.path ∈ (before ++ after).map Source.path) =
      (before ++ after).flatMap findings := by
  have kept : ∀ f ∈ before ++ after, (findings f).filter
      (fun d => d.path ∈ (before ++ after).map Source.path) = findings f := by
    intro f mem
    refine List.filter_eq_self.2 fun d found => ?_
    rw [located f d found]
    exact decide_eq_true (List.mem_map_of_mem mem)
  have dropped : (findings extra).filter
      (fun d => d.path ∈ (before ++ after).map Source.path) = [] := by
    refine List.filter_eq_nil_iff.2 fun d found => ?_
    rw [located extra d found, decide_eq_true_eq]
    intro mem
    obtain ⟨f, mem, same⟩ := List.mem_map.1 mem
    exact fresh f mem same
  rw [List.filter_flatMap, List.flatMap_append, List.flatMap_cons, dropped, List.nil_append,
    ← List.flatMap_append]
  exact List.flatMap_congr kept

end insert

/-! ## The report -/

/-- Let a file be added whose path is new, such that the specifiers in the other files lead where they
led before.  Then every call in the other files reaches the same function, and the findings located in
them are the former ones, in the same order, less those about functions that the added file calls. -/
theorem deadCode_insert (markers : List String) (confidence : Number) (before after : List Source)
    (extra : Source) (fresh : ∀ f ∈ before ++ after, f.path ≠ extra.path)
    (unmoved : ∀ path m specifier, (Program.ofSources (before ++ after)).module? path = some m →
      m.Mentions specifier →
      (Program.ofSources (before ++ extra :: after)).resolveModule m.path specifier =
        (Program.ofSources (before ++ after)).resolveModule m.path specifier) :
    (∀ f ∈ before ++ after, ∃ m, (Program.ofSources (before ++ after)).module? f.path = some m ∧
      (Program.ofSources (before ++ extra :: after)).module? f.path = some m ∧
      ∀ call ∈ callSites f, calleeOf (Program.ofSources (before ++ extra :: after)) m call =
        calleeOf (Program.ofSources (before ++ after)) m call) ∧
    (Program.ofSources (before ++ extra :: after)).module? extra.path = some (Module.index extra) ∧
    (deadCode markers confidence (before ++ extra :: after)).filter
        (fun d => d.path ∈ (before ++ after).map Source.path) =
      (deadCode markers confidence (before ++ after)).filter fun d =>
        ∀ call ∈ callSites extra,
          calleeOf (Program.ofSources (before ++ extra :: after)) (Module.index extra) call ≠
            some d.qualifiedName := by
  have grounded := Program.ofSources_grounded (before ++ after)
  have extended := extends_of_insert fresh unmoved
  have listed : ∀ f ∈ before ++ after,
      ∃ m, (Program.ofSources (before ++ after)).module? f.path = some m :=
    fun f mem => Program.exists_module?_of_mem mem
  have own := module?_insert_self fresh
  refine ⟨?_, own, ?_⟩
  · intro f mem
    obtain ⟨m, found⟩ := listed f mem
    refine ⟨m, found, (module?_insert_of_ne (fresh f mem)).trans found, fun call _ => ?_⟩
    exact calleeOf_of_extends grounded extended (grounded.module?_path found) (.refl m) call
  · unfold deadCode allDeclarations
    dsimp only
    rw [deadCodeFindings_flatMap, deadCodeFindings_flatMap,
      filter_flatMap_insert fresh fun f d => path_of_mem_findings, List.filter_flatMap]
    refine List.flatMap_congr fun f mem => ?_
    rw [declarationsOf_of_extends grounded extended (listed f mem),
      deadCodeFindings_of_more (contains_callGraph_insert grounded extended listed own)]
    -- what is left is to read `calledFrom` as a statement about all calls
    refine List.filter_congr fun d _ => ?_
    rw [Bool.eq_iff_iff, Bool.not_eq_true', calledFrom, List.any_eq_false, decide_eq_true_iff]
    simp only [beq_iff_eq, ne_eq]

/-- The file `c.ts` with the text `import{run}from"./a";run()`. -/
def furtherFile : Source where
  path := "c.ts"
  language := "typescript"
  bytes := Text.Utf8.encode "import{run}from\"./a\";run()"
  tree := ⟨"program", true, none, 0, 26,
    [⟨"import_statement", true, none, 0, 21,
      [⟨"import_clause", true, none, 6, 11,
        [⟨"named_imports", true, none, 6, 11,
          [⟨"import_specifier", true, none, 7, 10,
            [⟨"identifier", true, some "name", 7, 10, []⟩]⟩]⟩]⟩,
       ⟨"string", true, some "source", 15, 20, []⟩]⟩,
     ⟨"expression_statement", true, none, 21, 26,
      [⟨"call_expression", true, none, 21, 26,
        [⟨"identifier", true, some "function", 21, 24, []⟩,
         ⟨"arguments", true, some "arguments", 24, 26, []⟩]⟩]⟩]⟩

/-- A file with a function that only the further file calls, and two files of which one calls what the
other exports. -/
def otherFiles : List Source :=
  [aliasingFile, exportingFile, { importingFile with path := "d.ts" }]

/-- The further file uses the function reported in the others, and their own calls stay. -/
theorem deadCode_insert_furtherFile :
    (deadCode defaultTestMarkers (.int 1) otherFiles).map (·.qualifiedName) = ["\"a.ts\".helper"] ∧
    (deadCode defaultTestMarkers (.int 1) (otherFiles ++ [furtherFile])).filter
        (fun d => d.path ∈ otherFiles.map Source.path) =
      (deadCode defaultTestMarkers (.int 1) otherFiles).filter fun d =>
        ∀ call ∈ callSites furtherFile,
          calleeOf (Program.ofSources (otherFiles ++ [furtherFile])) (Module.index furtherFile) call ≠
            some d.qualifiedName := by
  refine ⟨by decide +kernel, ?_⟩
  have inserted := (deadCode_insert defaultTestMarkers (.int 1) otherFiles [] furtherFile ?_ ?_).2.2
  · rwa [List.append_nil] at inserted
  · rw [List.append_nil]
    decide +kernel
  · rw [List.append_nil]
    intro path m specifier found mentioned
    obtain ⟨f, listed, -, rfl⟩ := Program.exists_source_of_module? found
    have elsewhere : ∀ f ∈ otherFiles, ∀ specifier ∈ (Module.index f).specifiers,
        furtherFile.path ∉ Program.candidates (Program.target (Module.index f).path specifier) := by
      decide +kernel
    have unmoved := resolveModule_insert_of_notMem otherFiles []
      (elsewhere f listed specifier mentioned.mem_specifiers)
    rwa [List.append_nil] at unmoved

end RepoAudit
