import Mathlib.Data.List.Nodup
import RepoAudit.Proofs.DeadCode.Extension

/-! # The order of the files

A program has the same modules in whatever order its files are listed, up to the language of a file,
if files with the same path are the same.  So each of the two programs has what the other one has, and
calls reach the same functions in both.

* `module?_of_perm`, `extends_of_perm` – the two programs;
* `nodup_callersOf_callGraph` – callers are listed once, so the same callers are a permutation;
* `flatMap_eq_of_perm` – blocks that may change places are put together in any order;
* `deadCode_of_perm` – the report in another order of the files.
-/

namespace RepoAudit

open Syntax

/-! ## Programs of the same files -/

/-- Files of a list that have the same path have the same text and tree. -/
def AgreeByPath (sources : List Source) : Prop :=
  ∀ f ∈ sources, ∀ g ∈ sources, f.path = g.path → f.bytes = g.bytes ∧ f.tree = g.tree

theorem AgreeByPath.eq_inLanguage {sources : List Source} (agree : AgreeByPath sources) {f g : Source}
    (hf : f ∈ sources) (hg : g ∈ sources) (path : f.path = g.path) :
    g = f.inLanguage g.language := by
  obtain ⟨bytes, tree⟩ := agree f hf g hg path
  exact Source.eq_inLanguage path bytes tree

/-- Files with different paths agree. -/
theorem agreeByPath_of_nodup {sources : List Source} (h : (sources.map Source.path).Nodup) :
    AgreeByPath sources := by
  intro f hf g hg path
  obtain rfl := List.inj_on_of_nodup_map h hf hg path
  exact ⟨rfl, rfl⟩

/-- A file may be listed once more, in another language. -/
theorem AgreeByPath.concat {sources : List Source} (agree : AgreeByPath sources) {f : Source}
    (hf : f ∈ sources) (language : String) : AgreeByPath (sources ++ [f.inLanguage language]) := by
  intro g hg g' hg' path
  rw [List.mem_append, List.mem_singleton] at hg hg'
  rcases hg with hg | rfl
  · rcases hg' with hg' | rfl
    · exact agree g hg g' hg' path
    · exact agree g hg f hf path
  · rcases hg' with hg' | rfl
    · exact agree f hf g' hg' path
    · exact ⟨rfl, rfl⟩

theorem SameTarget.findSome? {a b : String → Option Module} (same : ∀ path, SameTarget (a path) (b path))
    (paths : List String) : SameTarget (paths.findSome? a) (paths.findSome? b) := by
  induction paths with
  | nil => exact .refl none
  | cons path rest ih =>
    rw [List.findSome?_cons, List.findSome?_cons]
    rcases same path with ⟨missing, missing'⟩ | ⟨t, t', found, found', alike⟩
    · rw [missing, missing']
      exact ih
    · rw [found, found']
      exact .inr ⟨t, t', rfl, rfl, alike⟩

section order

variable {sources order : List Source}

theorem module?_of_perm (perm : order.Perm sources) (agree : AgreeByPath sources) (path : String) :
    SameTarget ((Program.ofSources sources).module? path) ((Program.ofSources order).module? path) := by
  cases found : (Program.ofSources sources).module? path with
  | none =>
    refine .inl ⟨rfl, Option.eq_none_iff_forall_ne_some.2 fun m' found' => ?_⟩
    obtain ⟨g, listed, rfl, -⟩ := Program.exists_source_of_module? found'
    obtain ⟨m, known⟩ := Program.exists_module?_of_mem (perm.mem_iff.1 listed)
    rw [found] at known
    cases known
  | some m =>
    obtain ⟨f, listed, rfl, rfl⟩ := Program.exists_source_of_module? found
    obtain ⟨m', found'⟩ := Program.exists_module?_of_mem (perm.mem_iff.2 listed)
    -- the last file of the path may be another one, which differs in its language only
    obtain ⟨g, listed', path, rfl⟩ := Program.exists_source_of_module? found'
    refine .inr ⟨_, _, rfl, found', g.language, ?_⟩
    rw [← Module.index_inLanguage, ← agree.eq_inLanguage listed (perm.mem_iff.1 listed') path.symm]

/-- The program has the same modules in another order of its files. -/
theorem extends_of_perm (perm : order.Perm sources) (agree : AgreeByPath sources) :
    (Program.ofSources sources).Extends (Program.ofSources order) where
  modules path m found := (module?_of_perm perm agree path).of_some found
  imports path m specifier _ _ := by
    unfold Program.resolveModule
    split
    · exact .findSome? (module?_of_perm perm agree) _
    · exact .refl none

end order

/-! ## Callers -/

theorem nodup_callersOf_callGraph (p : Program) (sources : List Source) (name : String) :
    ((callGraph p sources).callersOf name).Nodup := by
  have kept : ∀ g : CallGraph, (∀ callee, (g.callersOf callee).Nodup) →
      ∀ callee, ((sources.foldl (fun g f => g.merge (fileGraph p f)) g).callersOf callee).Nodup := by
    induction sources with
    | nil => exact fun g h => h
    | cons f rest ih => exact fun g h => ih _ (CallGraph.nodup_callersOf_merge h (fileGraph p f))
  exact kept .empty (fun _ => List.nodup_nil) name

section order

variable {sources order : List Source}

theorem callersOf_perm_of_perm (perm : order.Perm sources) (agree : AgreeByPath sources)
    (name : String) :
    ((callGraph (Program.ofSources order) order).callersOf name).Perm
      ((callGraph (Program.ofSources sources) sources).callersOf name) := by
  have edges : ∀ f ∈ sources,
      fileEdges (Program.ofSources order) f = fileEdges (Program.ofSources sources) f :=
    fun f listed => fileEdges_of_extends (Program.ofSources_grounded sources)
      (extends_of_perm perm agree) (Program.exists_module?_of_mem listed)
  refine (List.perm_ext_iff_of_nodup (nodup_callersOf_callGraph _ _ _)
    (nodup_callersOf_callGraph _ _ _)).2 fun caller => ?_
  rw [mem_callersOf_callGraph, mem_callersOf_callGraph]
  constructor
  · rintro ⟨f, listed, edge⟩
    exact ⟨f, perm.mem_iff.1 listed, edges f (perm.mem_iff.1 listed) ▸ edge⟩
  · rintro ⟨f, listed, edge⟩
    exact ⟨f, perm.mem_iff.2 listed, (edges f listed).symm ▸ edge⟩

theorem reachability_of_perm {g g' : CallGraph} (h : ∀ name, (g'.callersOf name).Perm (g.callersOf name))
    (d : Declaration) : Reachability.of g' d = Reachability.of g d := by
  unfold Reachability.of CallGraph.contains
  rw [(h d.qualifiedName).isEmpty_eq]

/-! ## The report -/

/-- Blocks of which any two may change places come out the same in any order. -/
theorem flatMap_eq_of_perm {α β : Type} {block : α → List β} {l l' : List α} (perm : l'.Perm l)
    (swap : ∀ a ∈ l, ∀ b ∈ l, block a ++ block b = block b ++ block a) :
    l'.flatMap block = l.flatMap block := by
  induction perm with
  | nil => rfl
  | cons a _ ih =>
    rw [List.flatMap_cons, List.flatMap_cons, ih]
    exact fun b hb c hc => swap b (List.mem_cons_of_mem a hb) c (List.mem_cons_of_mem a hc)
  | swap a b rest =>
    simp only [List.flatMap_cons, ← List.append_assoc]
    rw [swap b (by simp) a (by simp)]
  | trans _ second ih ih' =>
    refine (ih fun a ha b hb => ?_).trans (ih' swap)
    exact swap a (second.mem_iff.1 ha) b (second.mem_iff.1 hb)

/-- Of the findings about two files, those located at one path may change places: either one of the
files has another path, or the files have the same findings. -/
theorem filter_findings_swap {findings : Source → List DeadCodeFinding}
    (located : ∀ f, ∀ d ∈ findings f, d.path = f.path)
    (same : ∀ f language, findings (f.inLanguage language) = findings f)
    (agree : AgreeByPath sources) (path : String) {f f' : Source} (listed : f ∈ sources)
    (listed' : f' ∈ sources) :
    (findings f).filter (·.path = path) ++ (findings f').filter (·.path = path) =
      (findings f').filter (·.path = path) ++ (findings f).filter (·.path = path) := by
  have elsewhere : ∀ f, f.path ≠ path → (findings f).filter (·.path = path) = [] := by
    intro f other
    refine List.filter_eq_nil_iff.2 fun d found => ?_
    rw [located f d found, decide_eq_true_eq]
    exact other
  by_cases here : f.path = path
  · by_cases here' : f'.path = path
    · rw [agree.eq_inLanguage listed listed' (here.trans here'.symm), same]
    · rw [elsewhere f' here', List.append_nil, List.nil_append]
  · rw [elsewhere f here, List.append_nil, List.nil_append]

end order

/-- Let files with the same path have the same text and tree.  In another order of the files every
function has the same callers, every file the same declarations, and every declaration the same state.
The report is a permutation of the former one in which the findings located at each path stand in the
same order. -/
theorem deadCode_of_perm (markers : List String) (confidence : Number) (sources order : List Source)
    (agree : AgreeByPath sources) (perm : order.Perm sources) :
    (∀ name, ((callGraph (Program.ofSources order) order).callersOf name).Perm
      ((callGraph (Program.ofSources sources) sources).callersOf name)) ∧
    (∀ f ∈ sources, declarationsOf (Program.ofSources order) markers f =
      declarationsOf (Program.ofSources sources) markers f) ∧
    (∀ d, Reachability.of (callGraph (Program.ofSources order) order) d =
      Reachability.of (callGraph (Program.ofSources sources) sources) d) ∧
    (deadCode markers confidence order).Perm (deadCode markers confidence sources) ∧
    ∀ path, (deadCode markers confidence order).filter (·.path = path) =
      (deadCode markers confidence sources).filter (·.path = path) := by
  have callers := callersOf_perm_of_perm perm agree
  have declarations : ∀ f ∈ sources, declarationsOf (Program.ofSources order) markers f =
      declarationsOf (Program.ofSources sources) markers f :=
    fun f listed => declarationsOf_of_extends (Program.ofSources_grounded sources)
      (extends_of_perm perm agree) (Program.exists_module?_of_mem listed)
  have states := reachability_of_perm callers
  -- file by file, both reports are made against the former graph
  have report : deadCode markers confidence order = order.flatMap fun f =>
      deadCodeFindings confidence (callGraph (Program.ofSources sources) sources)
        (declarationsOf (Program.ofSources sources) markers f) := by
    unfold deadCode allDeclarations
    dsimp only
    rw [deadCodeFindings_flatMap]
    refine List.flatMap_congr fun f listed => ?_
    rw [declarations f (perm.mem_iff.1 listed)]
    simp only [deadCodeFindings, states]
  have former : deadCode markers confidence sources = sources.flatMap fun f =>
      deadCodeFindings confidence (callGraph (Program.ofSources sources) sources)
        (declarationsOf (Program.ofSources sources) markers f) :=
    deadCodeFindings_flatMap _ _
  refine ⟨callers, declarations, states, ?_, fun path => ?_⟩
  · rw [report, former]
    exact perm.flatMap_right _
  · rw [report, former, List.filter_flatMap, List.filter_flatMap]
    refine flatMap_eq_of_perm perm fun f listed f' listed' => ?_
    exact filter_findings_swap (fun _ _ => path_of_mem_findings) (fun _ _ => rfl) agree path listed
      listed'

/-- Three files, of which the first is listed once more at the end, in another language. -/
def repeatedFiles : List Source :=
  otherFiles ++ [aliasingFile.inLanguage "tsx"]

/-- The finding about the repeated file is there twice, from whichever end the files are read. -/
theorem deadCode_of_perm_reversed :
    (deadCode defaultTestMarkers (.int 1) repeatedFiles).map (·.qualifiedName) =
      ["\"a.ts\".helper", "\"a.ts\".helper"] ∧
    (deadCode defaultTestMarkers (.int 1) repeatedFiles.reverse).Perm
      (deadCode defaultTestMarkers (.int 1) repeatedFiles) ∧
    (deadCode defaultTestMarkers (.int 1) repeatedFiles.reverse).filter (·.path = "a.ts") =
      (deadCode defaultTestMarkers (.int 1) repeatedFiles).filter (·.path = "a.ts") := by
  have agree : AgreeByPath repeatedFiles :=
    (agreeByPath_of_nodup (show (otherFiles.map Source.path).Nodup by decide)).concat
      List.mem_cons_self "tsx"
  obtain ⟨-, -, -, permuted, byPath⟩ := deadCode_of_perm defaultTestMarkers (.int 1) repeatedFiles
    repeatedFiles.reverse agree (List.reverse_perm repeatedFiles)
  exact ⟨by decide +kernel, permuted, byPath "a.ts"⟩

end RepoAudit
