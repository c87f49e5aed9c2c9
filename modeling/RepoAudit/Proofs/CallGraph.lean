import RepoAudit.CallGraph
import RepoAudit.Proofs.Table

/-! # What call graphs know

The callers of a function after each way of growing, said by membership, so that neither the order
in which calls arrive nor the order in which graphs are merged shows.

* `mem_callersOf_addEdge`, `mem_callersOf_foldl_addEdge` – recording calls;
* `mem_callersOf_merge` – adding another graph;
* `nodup_callersOf_merge` – no caller is listed twice;
* `contains_iff` – a function is known when some caller is.
-/

namespace RepoAudit

namespace Text

theorem mem_insertText {texts : List String} {s t : String} :
    t ∈ insertText texts s ↔ t ∈ texts ∨ t = s := by
  unfold insertText
  split
  · rename_i present
    rw [List.contains_iff_mem] at present
    constructor
    · exact .inl
    · rintro (mem | rfl)
      · exact mem
      · exact present
  · simp

theorem mem_foldl_insertText {texts added : List String} {t : String} :
    t ∈ added.foldl insertText texts ↔ t ∈ texts ∨ t ∈ added := by
  induction added generalizing texts with
  | nil => simp
  | cons s rest ih => simp [ih, mem_insertText, or_assoc]

theorem nodup_insertText {texts : List String} (h : texts.Nodup) (s : String) :
    (insertText texts s).Nodup := by
  unfold insertText
  split
  · exact h
  · rename_i absent
    rw [List.contains_iff_mem] at absent
    refine List.nodup_append.2 ⟨h, by simp, fun t mem t' isNew same => ?_⟩
    rw [List.mem_singleton] at isNew
    exact absent (isNew ▸ same ▸ mem)

theorem nodup_foldl_insertText {texts : List String} (h : texts.Nodup) (added : List String) :
    (added.foldl insertText texts).Nodup := by
  induction added generalizing texts with
  | nil => exact h
  | cons s rest ih => exact ih (nodup_insertText h s)

end Text

namespace CallGraph

variable {g other : CallGraph} {callee callee' caller caller' : String}

@[simp] theorem callersOf_empty : empty.callersOf callee = [] := rfl

theorem mem_callersOf_addEdge :
    caller ∈ (g.addEdge callee' caller').callersOf callee ↔
      caller ∈ g.callersOf callee ∨ (callee = callee' ∧ caller = caller') := by
  unfold addEdge callersOf
  rw [Table.find?_alter]
  split
  · rename_i same
    subst same
    simp [Text.mem_insertText]
  · simp [*]

theorem mem_callersOf_addCallers {callers : List String} :
    caller ∈ (g.addCallers (callee', callers)).callersOf callee ↔
      caller ∈ g.callersOf callee ∨ (callee = callee' ∧ caller ∈ callers) := by
  unfold addCallers callersOf
  rw [Table.find?_alter]
  split
  · rename_i same
    subst same
    simp [Text.mem_foldl_insertText]
  · simp [*]

/-! ## Many calls -/

theorem mem_callersOf_foldl_addEdge {edges : List (String × String)} :
    caller ∈ (edges.foldl (fun g e => g.addEdge e.1 e.2) g).callersOf callee ↔
      caller ∈ g.callersOf callee ∨ (callee, caller) ∈ edges := by
  induction edges generalizing g with
  | nil => simp
  | cons e rest ih =>
    rw [List.foldl_cons, ih, mem_callersOf_addEdge, or_assoc]
    simp [Prod.ext_iff]

theorem mem_callersOf_foldl_addCallers {entries : List (String × List String)} :
    caller ∈ (entries.foldl addCallers g).callersOf callee ↔
      caller ∈ g.callersOf callee ∨ ∃ callers, (callee, callers) ∈ entries ∧ caller ∈ callers := by
  induction entries generalizing g with
  | nil => simp
  | cons e rest ih =>
    rw [List.foldl_cons, ih, mem_callersOf_addCallers, or_assoc]
    simp only [List.mem_cons]
    constructor
    · rintro (known | ⟨rfl, mem⟩ | ⟨callers, listed, mem⟩)
      · exact .inl known
      · exact .inr ⟨e.2, .inl rfl, mem⟩
      · exact .inr ⟨callers, .inr listed, mem⟩
    · rintro (known | ⟨callers, rfl | listed, mem⟩)
      · exact .inl known
      · exact .inr (.inl ⟨rfl, mem⟩)
      · exact .inr (.inr ⟨callers, listed, mem⟩)

/-- Recording calls lists no function twice. -/
theorem nodup_keys_foldl_addEdge {edges : List (String × String)} (h : g.callers.keys.Nodup) :
    (edges.foldl (fun g e => g.addEdge e.1 e.2) g).callers.keys.Nodup := by
  induction edges generalizing g with
  | nil => exact h
  | cons e rest ih => exact ih (Table.nodup_keys_alter h _ _)

/-- After adding a graph, the callers are those of either graph. -/
theorem mem_callersOf_merge (h : other.callers.keys.Nodup) :
    caller ∈ (g.merge other).callersOf callee ↔
      caller ∈ g.callersOf callee ∨ caller ∈ other.callersOf callee := by
  rw [merge, mem_callersOf_foldl_addCallers]
  simp only [Table.mem_entries_iff h]
  refine or_congr_right ?_
  unfold callersOf
  cases other.callers.find? callee <;> simp

theorem nodup_callersOf_addCallers (h : ∀ callee, (g.callersOf callee).Nodup)
    (entry : String × List String) (callee : String) :
    ((g.addCallers entry).callersOf callee).Nodup := by
  unfold addCallers callersOf
  rw [Table.find?_alter]
  split
  · exact Text.nodup_foldl_insertText (h entry.1) entry.2
  · exact h callee

/-- Adding a graph lists no caller twice, whatever the added graph lists. -/
theorem nodup_callersOf_merge (h : ∀ callee, (g.callersOf callee).Nodup) (other : CallGraph)
    (callee : String) : ((g.merge other).callersOf callee).Nodup := by
  unfold merge
  induction other.callers.entries generalizing g with
  | nil => exact h callee
  | cons entry rest ih => exact ih (nodup_callersOf_addCallers h entry)

theorem contains_iff : g.contains callee = true ↔ ∃ caller, caller ∈ g.callersOf callee := by
  rw [contains, Bool.not_eq_true', List.isEmpty_eq_false_iff_exists_mem]

end CallGraph

end RepoAudit
