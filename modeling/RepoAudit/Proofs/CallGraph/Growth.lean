import Mathlib.Data.List.Basic
import Mathlib.Data.Set.Card
import RepoAudit.DeadCode
import RepoAudit.Proofs.CallGraph

/-! # Graphs that grow together

Several graphs start empty and grow by recorded calls and by taking over what another graph knows at
that moment.  Each of them is the graph of one list of calls: a recorded call is put at the end of it,
and a merge puts the list of the other graph there.  So whatever a graph shows after a run can be read
off such a list.

* `Growth`, `grow`, `run` – one step on several graphs, and a whole run;
* `ofCalls` – the graph of a list of calls;
* `merge_ofCalls` – merging the graph of a list is recording its calls one by one;
* `run_eq_ofCalls` – after a run each graph is that of the calls it received;
* `run_laws` – callers, membership, number and order after a run.
-/

namespace RepoAudit

namespace Text

/-- Texts that are added to a list in the order of a list without repetitions, one more at its end. -/
theorem foldl_insertText_insertText (texts added : List String) (s : String) :
    (insertText added s).foldl insertText texts = insertText (added.foldl insertText texts) s := by
  by_cases present : s ∈ added
  · have known : s ∈ added.foldl insertText texts := mem_foldl_insertText.2 (.inr present)
    simp [insertText, present, known]
  · have longer : insertText added s = added ++ [s] := by
      simp [insertText, present]
    rw [longer, List.foldl_append, List.foldl_cons, List.foldl_nil]

/-- Sorted texts stand in the order of their code points. -/
theorem pairwise_sorted (texts : List String) :
    (sorted texts).Pairwise fun s t => codePoints s ≤ codePoints t := by
  have ordered : (sorted texts).Pairwise fun s t => precedes s t = true := by
    refine List.pairwise_mergeSort (fun a b c ab bc => ?_) (fun a b => ?_) texts
    · simp only [precedes, Bool.not_eq_true', decide_eq_false_iff_not, List.not_lt] at ab bc ⊢
      exact List.le_trans ab bc
    · simp only [precedes, Bool.or_eq_true, Bool.not_eq_true', decide_eq_false_iff_not, List.not_lt]
      exact List.le_total _ _
  refine ordered.imp fun h => ?_
  simpa [precedes] using h

end Text

namespace CallGraph

variable {g other : CallGraph} {callee callee' caller caller' : String}

/-! ## The graph of a list of calls -/

def ofCalls (calls : List (String × String)) : CallGraph :=
  calls.foldl (fun g e => g.addEdge e.1 e.2) .empty

theorem ofCalls_append (calls : List (String × String)) (e : String × String) :
    ofCalls (calls ++ [e]) = (ofCalls calls).addEdge e.1 e.2 := by
  simp [ofCalls]

theorem mem_callersOf_ofCalls {calls : List (String × String)} :
    caller ∈ (ofCalls calls).callersOf callee ↔ (callee, caller) ∈ calls := by
  rw [ofCalls, mem_callersOf_foldl_addEdge]
  simp

theorem nodup_keys_ofCalls (calls : List (String × String)) :
    (ofCalls calls).callers.keys.Nodup :=
  nodup_keys_foldl_addEdge List.nodup_nil

theorem nodup_callersOf_addEdge (h : ∀ callee, (g.callersOf callee).Nodup)
    (callee caller callee' : String) : ((g.addEdge callee caller).callersOf callee').Nodup := by
  unfold addEdge callersOf
  rw [Table.find?_alter]
  split
  · exact Text.nodup_insertText (h callee) caller
  · exact h callee'

theorem nodup_callersOf_ofCalls (calls : List (String × String)) (callee : String) :
    ((ofCalls calls).callersOf callee).Nodup := by
  induction calls using List.reverseRecOn generalizing callee with
  | nil => exact List.nodup_nil
  | append_singleton calls e ih =>
    rw [ofCalls_append]
    exact nodup_callersOf_addEdge ih e.1 e.2 callee

theorem keys_addEdge : (g.addEdge callee caller).callers.keys =
    if callee ∈ g.callers.keys then g.callers.keys else g.callers.keys ++ [callee] :=
  Table.keys_alterIn _ _ _

/-- The functions of a graph are those that some call of its list reaches. -/
theorem mem_keys_ofCalls {calls : List (String × String)} :
    callee ∈ (ofCalls calls).callers.keys ↔ callee ∈ calls.map (·.1) := by
  induction calls using List.reverseRecOn with
  | nil => simp [ofCalls, empty, Table.keys]
  | append_singleton calls e ih =>
    rw [ofCalls_append, keys_addEdge]
    split
    · rename_i known
      constructor
      · intro mem
        simp [ih.1 mem]
      · intro mem
        simp only [List.map_append, List.mem_append] at mem
        rcases mem with mem | mem
        · exact ih.2 mem
        · obtain rfl : callee = e.1 := by simpa using mem
          exact known
    · simp [ih]

/-- They are listed in the order in which calls first reach them. -/
theorem pairwise_keys_ofCalls (calls : List (String × String)) :
    (ofCalls calls).callers.keys.Pairwise fun a b =>
      (calls.map (·.1)).idxOf a < (calls.map (·.1)).idxOf b := by
  induction calls using List.reverseRecOn with
  | nil => exact .nil
  | append_singleton calls e ih =>
    have place : ∀ a ∈ (ofCalls calls).callers.keys,
        ((calls ++ [e]).map (·.1)).idxOf a = (calls.map (·.1)).idxOf a := by
      intro a listed
      rw [List.map_append]
      exact List.idxOf_append_of_mem (mem_keys_ofCalls.1 listed)
    have former : (ofCalls calls).callers.keys.Pairwise fun a b =>
        ((calls ++ [e]).map (·.1)).idxOf a < ((calls ++ [e]).map (·.1)).idxOf b := by
      refine ih.imp_of_mem fun ha hb less => ?_
      rwa [place _ ha, place _ hb]
    rw [ofCalls_append, keys_addEdge]
    split
    · exact former
    · rename_i unknown
      refine List.pairwise_append.2 ⟨former, List.pairwise_singleton _ _, fun a listed b last => ?_⟩
      rw [List.mem_singleton] at last
      subst last
      have late : e.1 ∉ calls.map (·.1) := fun mem => unknown (mem_keys_ofCalls.2 mem)
      rw [place a listed, List.map_append, List.idxOf_append_of_notMem late]
      have early := List.idxOf_lt_length_of_mem (mem_keys_ofCalls.1 listed)
      omega

/-! ## Merging -/

/-- One more caller in an entry is recorded as a call. -/
theorem addCallers_insertText (callers : List String) :
    g.addCallers (callee, Text.insertText callers caller) =
      (g.addCallers (callee, callers)).addEdge callee caller := by
  unfold addCallers addEdge
  rw [Table.alter_alter_self]
  simp only [Text.foldl_insertText_insertText, Option.getD_some]

theorem mem_keys_addCallers (entry : String × List String) :
    entry.1 ∈ (g.addCallers entry).callers.keys := by
  rw [addCallers, Table.keys, Table.alter, Table.keys_alterIn]
  split
  · assumption
  · simp

/-- A call of a known function may be recorded before or after the callers of other functions are
added. -/
theorem foldl_addCallers_addEdge {entries : List (String × List String)}
    (known : callee ∈ g.callers.keys) (others : callee ∉ entries.map (·.1)) :
    entries.foldl addCallers (g.addEdge callee caller) =
      (entries.foldl addCallers g).addEdge callee caller := by
  induction entries generalizing g with
  | nil => rfl
  | cons entry rest ih =>
    simp only [List.map_cons, List.mem_cons, not_or] at others
    have swap : (g.addEdge callee caller).addCallers entry =
        (g.addCallers entry).addEdge callee caller :=
      congrArg CallGraph.mk (Table.alter_comm known (Ne.symm others.1) _ _)
    have still : callee ∈ (g.addCallers entry).callers.keys := by
      rw [addCallers, Table.keys, Table.alter, Table.keys_alterIn]
      split
      · exact known
      · exact List.mem_append_left _ known
    rw [List.foldl_cons, List.foldl_cons, swap, ih still others.2]

/-- A call that is recorded in a graph before it is merged may as well be recorded afterwards. -/
theorem merge_addEdge (h : other.callers.keys.Nodup) :
    g.merge (other.addEdge callee caller) = (g.merge other).addEdge callee caller := by
  have entries (es : List (String × List String)) (distinct : (es.map (·.1)).Nodup) (g : CallGraph) :
      (Table.alterIn callee (fun known => Text.insertText (known.getD []) caller) es).foldl
          addCallers g =
        (es.foldl addCallers g).addEdge callee caller := by
    induction es generalizing g with
    | nil => rfl
    | cons e rest ih =>
      simp only [List.map_cons, List.nodup_cons] at distinct
      by_cases same : e.1 = callee
      · subst same
        simp only [Table.alterIn, ↓reduceIte, List.foldl_cons, Option.getD_some]
        rw [addCallers_insertText]
        exact foldl_addCallers_addEdge (mem_keys_addCallers e) distinct.1
      · simp only [Table.alterIn, same, ↓reduceIte, List.foldl_cons]
        exact ih distinct.2 (g.addCallers e)
  exact entries other.callers.entries h g

/-- Merging the graph of a list of calls is recording its calls one by one. -/
theorem merge_ofCalls (g : CallGraph) (calls : List (String × String)) :
    g.merge (ofCalls calls) = calls.foldl (fun g e => g.addEdge e.1 e.2) g := by
  induction calls using List.reverseRecOn with
  | nil => rfl
  | append_singleton calls e ih =>
    rw [ofCalls_append, merge_addEdge (nodup_keys_ofCalls calls), ih, List.foldl_append]
    rfl

theorem merge_ofCalls_ofCalls (calls more : List (String × String)) :
    (ofCalls calls).merge (ofCalls more) = ofCalls (calls ++ more) := by
  rw [merge_ofCalls, ofCalls, ofCalls, List.foldl_append]

/-- A call that is known already changes nothing. -/
theorem addEdge_eq_self (known : caller ∈ g.callersOf callee) : g.addEdge callee caller = g := by
  unfold callersOf at known
  cases found : g.callers.find? callee with
  | none => simp [found] at known
  | some callers =>
    rw [found, Option.getD_some] at known
    have same : Text.insertText callers caller = callers := by
      simp [Text.insertText, known]
    exact congrArg CallGraph.mk (Table.alter_eq_self found same)

/-- A graph that is merged into itself stays as it is. -/
theorem ofCalls_merge_self (calls : List (String × String)) :
    (ofCalls calls).merge (ofCalls calls) = ofCalls calls := by
  rw [merge_ofCalls]
  have again (more : List (String × String)) (known : ∀ e ∈ more, e ∈ calls) :
      more.foldl (fun g e => g.addEdge e.1 e.2) (ofCalls calls) = ofCalls calls := by
    induction more with
    | nil => rfl
    | cons e rest ih =>
      rw [List.foldl_cons, addEdge_eq_self (mem_callersOf_ofCalls.2 (known e (by simp)))]
      exact ih fun e' mem => known e' (by simp [mem])
  exact again calls fun _ mem => mem

/-! ## The calls that a graph lists -/

/-- An entry of a graph without repeated functions holds the callers of its function. -/
theorem callersOf_of_mem_entries (h : g.callers.keys.Nodup) {entry : String × List String}
    (listed : entry ∈ g.callers.entries) : g.callersOf entry.1 = entry.2 := by
  rw [callersOf, (Table.mem_entries_iff h).1 listed, Option.getD_some]

theorem mem_edges_ofCalls {calls : List (String × String)} :
    (callee, caller) ∈ (ofCalls calls).edges ↔ caller ∈ (ofCalls calls).callersOf callee := by
  simp only [edges, Text.sorted, List.mem_flatMap, List.mem_map, List.mem_mergeSort, Prod.mk.injEq]
  constructor
  · rintro ⟨entry, listed, caller, mem, rfl, rfl⟩
    rwa [callersOf_of_mem_entries (nodup_keys_ofCalls calls) listed]
  · intro mem
    unfold callersOf at mem
    cases found : (ofCalls calls).callers.find? callee with
    | none => simp [found] at mem
    | some callers =>
      rw [found, Option.getD_some] at mem
      have listed := (Table.mem_entries_iff (nodup_keys_ofCalls calls)).2 found
      exact ⟨(callee, callers), listed, caller, mem, rfl, rfl⟩

/-- The listed calls are in order: first by the function that was reached first, then by the caller. -/
theorem pairwise_edges_ofCalls (calls : List (String × String)) :
    (ofCalls calls).edges.Pairwise fun e e' =>
      (calls.map (·.1)).idxOf e.1 < (calls.map (·.1)).idxOf e'.1 ∨
        e.1 = e'.1 ∧ Text.codePoints e.2 ≤ Text.codePoints e'.2 ∧ e.2 ≠ e'.2 := by
  rw [edges, List.pairwise_flatMap]
  constructor
  · intro entry listed
    have distinct : (Text.sorted entry.2).Nodup := by
      refine (List.mergeSort_perm _ _).nodup_iff.2 ?_
      rw [← callersOf_of_mem_entries (nodup_keys_ofCalls calls) listed]
      exact nodup_callersOf_ofCalls calls entry.1
    refine List.pairwise_map.2 ?_
    exact ((Text.pairwise_sorted entry.2).and distinct).imp fun h => .inr ⟨rfl, h⟩
  · refine (List.pairwise_map.1 (pairwise_keys_ofCalls calls)).imp fun earlier => ?_
    intro e he e' he'
    obtain ⟨caller, -, rfl⟩ := List.mem_map.1 he
    obtain ⟨caller', -, rfl⟩ := List.mem_map.1 he'
    exact .inl earlier

/-! ## Runs -/

/-- One step on several graphs: a call is recorded in one of them, or one of them takes over what
another one knows. -/
inductive Growth (ι : Type) where
  | add (graph : ι) (callee caller : String)
  | merge (graph other : ι)
  deriving Repr, DecidableEq

variable {ι : Type} [DecidableEq ι]

def grow (graphs : ι → CallGraph) : Growth ι → ι → CallGraph
  | .add i callee caller => Function.update graphs i ((graphs i).addEdge callee caller)
  | .merge i j => Function.update graphs i ((graphs i).merge (graphs j))

/-- The graphs after some steps; at first all of them are empty. -/
def run (steps : List (Growth ι)) : ι → CallGraph :=
  steps.foldl grow fun _ => .empty

/-- The calls that the graphs have received, with those of one more step: a merge brings all the calls
that the other graph has received so far. -/
def receive (calls : ι → List (String × String)) : Growth ι → ι → List (String × String)
  | .add i callee caller => Function.update calls i (calls i ++ [(callee, caller)])
  | .merge i j => Function.update calls i (calls i ++ calls j)

/-- The calls that each graph receives in a run, in the order in which they arrive. -/
def received (steps : List (Growth ι)) : ι → List (String × String) :=
  steps.foldl receive fun _ => []

theorem run_append (steps : List (Growth ι)) (step : Growth ι) :
    run (steps ++ [step]) = grow (run steps) step := by
  simp [run]

theorem received_append (steps : List (Growth ι)) (step : Growth ι) :
    received (steps ++ [step]) = receive (received steps) step := by
  simp [received]

/-- A step keeps each graph the graph of the calls that it has received. -/
theorem grow_ofCalls (calls : ι → List (String × String)) (step : Growth ι) :
    grow (fun i => ofCalls (calls i)) step = fun i => ofCalls (receive calls step i) := by
  funext k
  cases step with
  | add i callee caller =>
    by_cases here : k = i
    · subst here
      simp [grow, receive, ofCalls_append]
    · simp [grow, receive, here]
  | merge i j =>
    by_cases here : k = i
    · subst here
      simp [grow, receive, merge_ofCalls_ofCalls]
    · simp [grow, receive, here]

/-- After a run each graph is the graph of the calls that it has received. -/
theorem run_eq_ofCalls (steps : List (Growth ι)) (i : ι) :
    run steps i = ofCalls (received steps i) := by
  have all : run steps = fun i => ofCalls (received steps i) := by
    induction steps using List.reverseRecOn with
    | nil => rfl
    | append_singleton steps step ih => rw [run_append, received_append, ih, grow_ofCalls]
  rw [all]

/-- A caller came into a graph: its call was recorded there, or another graph that knew it at that
moment was merged. -/
def Arrived (steps : List (Growth ι)) (i : ι) (callee caller : String) : Prop :=
  ∃ before after,
    steps = before ++ .add i callee caller :: after ∨
      ∃ j, steps = before ++ .merge i j :: after ∧ caller ∈ (run before j).callersOf callee

theorem Arrived.append {steps : List (Growth ι)} {i : ι} (h : Arrived steps i callee caller)
    (step : Growth ι) : Arrived (steps ++ [step]) i callee caller := by
  obtain ⟨before, after, rfl | ⟨j, rfl, known⟩⟩ := h
  · exact ⟨before, after ++ [step], .inl (by simp)⟩
  · exact ⟨before, after ++ [step], .inr ⟨j, by simp, known⟩⟩

/-- What arrived in one more step is what arrived before or what the step itself brings. -/
theorem arrived_append_iff {steps : List (Growth ι)} {step : Growth ι} {i : ι} :
    Arrived (steps ++ [step]) i callee caller ↔
      Arrived steps i callee caller ∨ step = .add i callee caller ∨
        ∃ j, step = .merge i j ∧ caller ∈ (run steps j).callersOf callee := by
  constructor
  · rintro ⟨before, after, h⟩
    -- the step that brought the caller is the last one, or one of the former steps
    rcases List.eq_nil_or_concat after with rfl | ⟨former, last, rfl⟩
    · rcases h with h | ⟨j, h, known⟩
      · obtain ⟨rfl, single⟩ := List.append_inj' h rfl
        exact .inr (.inl (List.cons.inj single).1)
      · obtain ⟨rfl, single⟩ := List.append_inj' h rfl
        exact .inr (.inr ⟨j, (List.cons.inj single).1, known⟩)
    · left
      rcases h with h | ⟨j, h, known⟩
      · rw [List.concat_eq_append, ← List.cons_append, ← List.append_assoc] at h
        exact ⟨before, former, .inl (List.append_inj' h rfl).1⟩
      · rw [List.concat_eq_append, ← List.cons_append, ← List.append_assoc] at h
        exact ⟨before, former, .inr ⟨j, (List.append_inj' h rfl).1, known⟩⟩
  · rintro (h | rfl | ⟨j, rfl, known⟩)
    · exact h.append step
    · exact ⟨steps, [], .inl rfl⟩
    · exact ⟨steps, [], .inr ⟨j, rfl, known⟩⟩

/-- The callers that a graph knows after a run are those that arrived in it. -/
theorem mem_callersOf_run {steps : List (Growth ι)} {i : ι} :
    caller ∈ (run steps i).callersOf callee ↔ Arrived steps i callee caller := by
  induction steps using List.reverseRecOn with
  | nil =>
    simp only [run, List.foldl_nil, callersOf_empty, List.not_mem_nil, false_iff]
    rintro ⟨before, after, h | ⟨j, h, -⟩⟩ <;> simp at h
  | append_singleton steps step ih =>
    rw [run_append, arrived_append_iff, ← ih]
    cases step with
    | add k callee' caller' =>
      by_cases here : i = k
      · subst here
        simp [grow, mem_callersOf_addEdge, eq_comm]
      · simp [grow, here, Ne.symm here]
    | merge k j =>
      have distinct : (run steps j).callers.keys.Nodup := by
        rw [run_eq_ofCalls]
        exact nodup_keys_ofCalls _
      by_cases here : i = k
      · subst here
        simp [grow, mem_callersOf_merge distinct]
      · simp [grow, here, Ne.symm here]

/-- A function is listed when it has a caller, so nothing is listed for one without. -/
theorem mem_keys_run {steps : List (Growth ι)} {i : ι} :
    callee ∈ (run steps i).callers.keys ↔ (run steps i).callersOf callee ≠ [] := by
  rw [run_eq_ofCalls, mem_keys_ofCalls, ← List.isEmpty_eq_false_iff,
    List.isEmpty_eq_false_iff_exists_mem]
  simp only [mem_callersOf_ofCalls, List.mem_map, Prod.exists, exists_and_right, exists_eq_right]

theorem size_run (steps : List (Growth ι)) (i : ι) :
    (run steps i).size = {callee | (run steps i).callersOf callee ≠ []}.ncard := by
  have distinct : (run steps i).callers.keys.Nodup := by
    rw [run_eq_ofCalls]
    exact nodup_keys_ofCalls _
  have listed : {callee | (run steps i).callersOf callee ≠ []} =
      ((run steps i).callers.keys.toFinset : Set String) := by
    ext callee
    simp [← mem_keys_run]
  rw [listed, Set.ncard_coe_finset, List.toFinset_card_of_nodup distinct]
  simp [size, Table.size, Table.keys]

/-- A merge changes no graph but the one that grows, and that one only if it merges another. -/
theorem run_append_merge (steps : List (Growth ι)) (i j : ι) :
    run (steps ++ [.merge i j]) j = run steps j := by
  rw [run_append]
  by_cases same : j = i
  · subst same
    simp only [grow, Function.update_self]
    rw [run_eq_ofCalls, ofCalls_merge_self]
  · simp [grow, same]

/-- The graphs of the files, merged one after the other, make the graph of all their calls. -/
theorem callGraph_eq_ofCalls (p : Program) (sources : List Source) :
    callGraph p sources = ofCalls (sources.flatMap (fileEdges p)) := by
  unfold callGraph
  induction sources using List.reverseRecOn with
  | nil => rfl
  | append_singleton sources f ih =>
    have last : fileGraph p f = ofCalls (fileEdges p f) := rfl
    rw [List.foldl_append, ih, List.foldl_cons, List.foldl_nil, last, merge_ofCalls_ofCalls]
    simp

/-- What each of several graphs shows after any run of recorded calls and merges.  It knows the callers
that arrived in it, lists a function exactly when it knows a caller of it, and counts these functions.
It lists every known call once, ordered by the first arrival of the function and then by the code points
of the caller.  A merge leaves the graph that is merged as it is.  So the graphs of the files of a
program, merged one after the other, list the same calls in the same order as one graph in which all
calls are recorded, file by file. -/
theorem run_laws (steps : List (Growth ι)) (i : ι) :
    (∀ callee caller,
      caller ∈ (run steps i).callersOf callee ↔ Arrived steps i callee caller) ∧
    (∀ callee, callee ∈ (run steps i).callers.keys ↔ (run steps i).callersOf callee ≠ []) ∧
    (∀ callee, (run steps i).contains callee = true ↔ (run steps i).callersOf callee ≠ []) ∧
    (run steps i).size = {callee | (run steps i).callersOf callee ≠ []}.ncard ∧
    (∀ callee caller,
      (callee, caller) ∈ (run steps i).edges ↔ caller ∈ (run steps i).callersOf callee) ∧
    (run steps i).edges.Nodup ∧
    ((run steps i).edges.Pairwise fun e e' =>
      ((received steps i).map (·.1)).idxOf e.1 < ((received steps i).map (·.1)).idxOf e'.1 ∨
        e.1 = e'.1 ∧ Text.codePoints e.2 ≤ Text.codePoints e'.2) ∧
    (∀ j, run (steps ++ [.merge i j]) j = run steps j) ∧
    ∀ (p : Program) (sources : List Source),
      (callGraph p sources).edges = (ofCalls (sources.flatMap (fileEdges p))).edges := by
  have ordered := pairwise_edges_ofCalls (received steps i)
  rw [← run_eq_ofCalls] at ordered
  refine ⟨fun callee caller => mem_callersOf_run, fun callee => mem_keys_run, fun callee => ?_,
    size_run steps i, fun callee caller => ?_, ?_, ?_, run_append_merge steps i, fun p sources => ?_⟩
  · rw [contains_iff, ← List.isEmpty_eq_false_iff, List.isEmpty_eq_false_iff_exists_mem]
  · rw [run_eq_ofCalls, mem_edges_ofCalls]
  · refine ordered.imp fun {e e'} h same => ?_
    subst same
    rcases h with earlier | ⟨-, -, differs⟩
    · exact Nat.lt_irrefl _ earlier
    · exact differs rfl
  · refine ordered.imp fun h => ?_
    exact h.imp_right fun ⟨same, le, _⟩ => ⟨same, le⟩
  · rw [callGraph_eq_ofCalls]

end CallGraph

end RepoAudit
