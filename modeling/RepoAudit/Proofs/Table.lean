import RepoAudit.Table

/-! # Tables filled in a row

What a table holds after a list of entries went in one by one, and what its entries are when no key
stands in it twice.

* `find?_foldl_insert`, `find?_ofList` – the last entry of a key wins;
* `find?_foldl_insertNew` – the first one wins, and what was there before wins over both;
* `nodup_keys_alter` – no operation lists a key twice;
* `mem_entries_iff`, `entries_eq_map_keys` – then the entries are what `find?` says;
* `keys_foldl_insert` – new keys come behind the former ones, in the order of arrival;
* `alter_alter_self`, `alter_comm`, `alter_eq_self` – changes that may be joined, swapped or left out.
-/

namespace RepoAudit.Table

variable {κ ν : Type} [DecidableEq κ]

theorem find?_insert (t : Table κ ν) (k k' : κ) (v : ν) :
    (t.insert k v).find? k' = if k' = k then some v else t.find? k' := by
  simp [insert, find?_alter]

theorem find?_insertNew (t : Table κ ν) (k k' : κ) (v : ν) :
    (t.insertNew k v).find? k' = if k' = k then some ((t.find? k).getD v) else t.find? k' := by
  simp [insertNew, find?_alter]

theorem of_find?_insert {t : Table κ ν} {k k' : κ} {v v' : ν}
    (h : (t.insert k v).find? k' = some v') : (k' = k ∧ v' = v) ∨ t.find? k' = some v' := by
  rw [find?_insert] at h
  split at h
  · rename_i same
    exact .inl ⟨same, (Option.some.inj h).symm⟩
  · exact .inr h

theorem of_find?_insertNew {t : Table κ ν} {k k' : κ} {v v' : ν}
    (h : (t.insertNew k v).find? k' = some v') : (k' = k ∧ v' = v) ∨ t.find? k' = some v' := by
  rw [find?_insertNew] at h
  split at h
  · rename_i same
    subst same
    cases known : t.find? k' with
    | none => simp_all
    | some former => simp_all
  · exact .inr h

/-! ## Several entries -/

theorem find?_foldl_insert (es : List (κ × ν)) (t : Table κ ν) (k : κ) :
    (es.foldl (fun t e => t.insert e.1 e.2) t).find? k =
      ((es.reverse.find? (·.1 = k)).map (·.2)).or (t.find? k) := by
  induction es generalizing t with
  | nil => simp
  | cons e rest ih =>
    rw [List.foldl_cons, ih, find?_insert, List.reverse_cons, List.find?_append]
    cases rest.reverse.find? (·.1 = k) with
    | some later => simp
    | none =>
      by_cases same : k = e.1
      · simp [same]
      · simp [same, Ne.symm same]

/-- Of two entries with one key the last counts. -/
theorem find?_ofList (es : List (κ × ν)) (k : κ) :
    (ofList es).find? k = (es.reverse.find? (·.1 = k)).map (·.2) := by
  rw [ofList, find?_foldl_insert, find?_empty, Option.or_none]

/-- Of two entries with one key the first counts, unless the table had the key before. -/
theorem find?_foldl_insertNew (es : List (κ × ν)) (t : Table κ ν) (k : κ) :
    (es.foldl (fun t e => t.insertNew e.1 e.2) t).find? k =
      (t.find? k).or ((es.find? (·.1 = k)).map (·.2)) := by
  induction es generalizing t with
  | nil => simp
  | cons e rest ih =>
    rw [List.foldl_cons, ih, find?_insertNew]
    by_cases same : k = e.1
    · subst same
      cases t.find? e.1 <;> simp
    · simp [same, Ne.symm same]

theorem mem_of_findIn {es : List (κ × ν)} {k : κ} {v : ν} (h : findIn k es = some v) : (k, v) ∈ es := by
  induction es with
  | nil => cases h
  | cons e rest ih =>
    rw [findIn] at h
    split at h
    · rename_i same
      cases h
      simp [← same]
    · exact List.mem_cons_of_mem _ (ih h)

/-- What can be found stands under a key that is listed. -/
theorem mem_keys_of_find? {t : Table κ ν} {k : κ} {v : ν} (h : t.find? k = some v) : k ∈ t.keys :=
  List.mem_map_of_mem (mem_of_findIn h)

theorem exists_find?_of_mem_keys {t : Table κ ν} {k : κ} (h : k ∈ t.keys) : ∃ v, t.find? k = some v := by
  have entries (es : List (κ × ν)) (listed : k ∈ es.map (·.1)) : ∃ v, findIn k es = some v := by
    induction es with
    | nil => simp at listed
    | cons e rest ih =>
      by_cases same : e.1 = k
      · exact ⟨e.2, by simp [findIn, same]⟩
      · have later : k ∈ rest.map (·.1) := by
          simpa [Ne.symm same] using listed
        simpa [findIn, same] using ih later
  exact entries t.entries h

theorem mem_values_of_find? {t : Table κ ν} {k : κ} {v : ν} (h : t.find? k = some v) :
    v ∈ t.values :=
  List.mem_map_of_mem (mem_of_findIn h)

/-! ## Tables that list every key once -/

theorem keys_alterIn (k : κ) (f : Option ν → ν) (es : List (κ × ν)) :
    (alterIn k f es).map (·.1) =
      if k ∈ es.map (·.1) then es.map (·.1) else es.map (·.1) ++ [k] := by
  induction es with
  | nil => simp [alterIn]
  | cons e rest ih =>
    by_cases same : e.1 = k
    · simp [alterIn, same]
    · simp only [alterIn, same, ↓reduceIte, List.map_cons, ih, List.mem_cons, Ne.symm same, false_or]
      split <;> simp

/-- Changing the value of a key lists no key twice. -/
theorem nodup_keys_alter {t : Table κ ν} (h : t.keys.Nodup) (k : κ) (f : Option ν → ν) :
    (t.alter k f).keys.Nodup := by
  rw [keys, alter, keys_alterIn]
  split
  · exact h
  · rename_i absent
    refine List.nodup_append.2 ⟨h, by simp, ?_⟩
    intro a mem b single equal
    rw [List.mem_singleton] at single
    subst single equal
    exact absent mem

/-- A table in which a value was changed has an entry. -/
theorem entries_alter_ne_nil (t : Table κ ν) (k : κ) (f : Option ν → ν) : (t.alter k f).entries ≠ [] := by
  rw [alter]
  cases t.entries with
  | nil => simp [alterIn]
  | cons e rest =>
    simp only [alterIn]
    split <;> simp

theorem mem_iff_findIn {es : List (κ × ν)} (h : (es.map (·.1)).Nodup) {k : κ} {v : ν} :
    (k, v) ∈ es ↔ findIn k es = some v := by
  induction es with
  | nil => simp [findIn]
  | cons e rest ih =>
    obtain ⟨k', v'⟩ := e
    simp only [List.map_cons, List.nodup_cons] at h
    by_cases same : k' = k
    · subst same
      have absent : (k', v) ∉ rest := fun mem => h.1 (List.mem_map_of_mem mem)
      simp [findIn, absent, eq_comm]
    · simp [findIn, same, Ne.symm same, ih h.2]

/-- In a table that lists every key once the entries are exactly what can be found. -/
theorem mem_entries_iff {t : Table κ ν} (h : t.keys.Nodup) {k : κ} {v : ν} :
    (k, v) ∈ t.entries ↔ t.find? k = some v :=
  mem_iff_findIn h

theorem entries_eq_map_keys {t : Table κ ν} (h : t.keys.Nodup) {f : κ → ν}
    (values : ∀ k v, t.find? k = some v → f k = v) : t.entries = t.keys.map fun k => (k, f k) := by
  have each : t.entries.map (fun e => (e.1, f e.1)) = t.entries.map id :=
    List.map_congr_left fun e mem => Prod.ext rfl (values e.1 e.2 ((mem_entries_iff h).1 mem))
  rw [List.map_id] at each
  rw [keys, List.map_map]
  exact each.symm

/-! ## Entries with different keys -/

/-- Among entries with different keys the last one of a key is the only one. -/
theorem find?_reverse_eq_findIn {es : List (κ × ν)} (h : (es.map (·.1)).Nodup) (k : κ) :
    (es.reverse.find? (·.1 = k)).map (·.2) = findIn k es := by
  induction es with
  | nil => rfl
  | cons e rest ih =>
    simp only [List.map_cons, List.nodup_cons] at h
    rw [List.reverse_cons, List.find?_append, findIn]
    by_cases same : e.1 = k
    · have later : rest.reverse.find? (·.1 = k) = none := by
        rw [List.find?_eq_none]
        intro e' mem equal
        have key : e'.1 = k := by simpa using equal
        exact h.1 (List.mem_map.2 ⟨e', List.mem_reverse.1 mem, key.trans same.symm⟩)
      simp [later, same]
    · simp [same, ih h.2]

theorem keys_insert (t : Table κ ν) (k : κ) (v : ν) :
    (t.insert k v).keys = if k ∈ t.keys then t.keys else t.keys ++ [k] :=
  keys_alterIn k _ t.entries

/-- New keys come behind the former ones, in the order of arrival. -/
theorem keys_foldl_insert {es : List (κ × ν)} (h : (es.map (·.1)).Nodup) (t : Table κ ν) :
    (es.foldl (fun t e => t.insert e.1 e.2) t).keys =
      t.keys ++ (es.map (·.1)).filter fun k => k ∉ t.keys := by
  induction es generalizing t with
  | nil => simp
  | cons e rest ih =>
    simp only [List.map_cons, List.nodup_cons] at h
    rw [List.foldl_cons, ih h.2, keys_insert, List.map_cons, List.filter_cons]
    by_cases known : e.1 ∈ t.keys
    · simp [known]
    · -- the new key is not among the later ones, so these are new or known as before
      have others : (rest.map (·.1)).filter (fun k => k ∉ t.keys ++ [e.1]) =
          (rest.map (·.1)).filter fun k => k ∉ t.keys := by
        refine List.filter_congr fun k mem => ?_
        have other : k ≠ e.1 := fun same => h.1 (same ▸ mem)
        simp [other]
      rw [if_neg known, others]
      simp [known]

theorem nodup_keys_ofList (es : List (κ × ν)) : (ofList es).keys.Nodup := by
  have filled (t : Table κ ν) (h : t.keys.Nodup) :
      (es.foldl (fun t e => t.insert e.1 e.2) t).keys.Nodup := by
    induction es generalizing t with
    | nil => exact h
    | cons e rest ih => exact ih _ (nodup_keys_alter h e.1 _)
  exact filled empty List.nodup_nil

/-! ## Changing values in another order -/

/-- Changing the value of a key twice. -/
theorem alter_alter_self (t : Table κ ν) (k : κ) (f f' : Option ν → ν) :
    (t.alter k f).alter k f' = t.alter k fun former => f' (some (f former)) := by
  have entries (es : List (κ × ν)) :
      alterIn k f' (alterIn k f es) = alterIn k (fun former => f' (some (f former))) es := by
    induction es with
    | nil => simp [alterIn]
    | cons e rest ih =>
      by_cases same : e.1 = k
      · simp [alterIn, same]
      · simp [alterIn, same, ih]
  exact congrArg Table.mk (entries t.entries)

/-- A key that is there already keeps its place, so another key may be changed before it or after
it. -/
theorem alter_comm {t : Table κ ν} {k k' : κ} (present : k ∈ t.keys) (other : k' ≠ k)
    (f f' : Option ν → ν) : (t.alter k f).alter k' f' = (t.alter k' f').alter k f := by
  have entries (es : List (κ × ν)) (listed : k ∈ es.map (·.1)) :
      alterIn k' f' (alterIn k f es) = alterIn k f (alterIn k' f' es) := by
    induction es with
    | nil => simp at listed
    | cons e rest ih =>
      by_cases same : e.1 = k
      · simp [alterIn, same, Ne.symm other]
      · have later : k ∈ rest.map (·.1) := by
          simpa [Ne.symm same] using listed
        by_cases same' : e.1 = k'
        · simp [alterIn, same', other]
        · simp [alterIn, same, same', ih later]
  exact congrArg Table.mk (entries t.entries present)

/-- A value that stays as it is changes nothing. -/
theorem alter_eq_self {t : Table κ ν} {k : κ} {v : ν} {f : Option ν → ν} (found : t.find? k = some v)
    (same : f (some v) = v) : t.alter k f = t := by
  have entries (es : List (κ × ν)) (h : findIn k es = some v) : alterIn k f es = es := by
    induction es with
    | nil => cases h
    | cons e rest ih =>
      by_cases here : e.1 = k
      · simp only [findIn, here, ↓reduceIte, Option.some.injEq] at h
        simp [alterIn, here, h, same, Prod.ext_iff]
      · simp only [findIn, here, ↓reduceIte] at h
        simp [alterIn, here, ih h]
  exact congrArg Table.mk (entries t.entries found)

end RepoAudit.Table
