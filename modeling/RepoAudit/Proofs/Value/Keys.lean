import RepoAudit.Proofs.Table
import RepoAudit.Proofs.Value.Reader

/-! # Objects with each key once

The fields of an object go into a table one by one: a key keeps the place of its first field and gets the
value of its last.  So in a value that was read, every object has each key once, however deep it lies.

* `collectFields_eq`, `lookup_eq_findIn` – fields as the entries of a table;
* `KeyedOnce` – every object in a value has each key once;
* `keyedOnce_of_parse` – what is read is such a value, by induction on the fuel of the readers.
-/

namespace RepoAudit.Value

/-! ## Fields as entries -/

theorem lookup_eq_findIn (key : String) (fields : List (String × Value)) :
    lookup key fields = Table.findIn key fields := by
  induction fields with
  | nil => rfl
  | cons f rest ih => rw [lookup, Table.findIn, ih]

theorem setField_eq_alterIn (key : String) (v : Value) (fields : List (String × Value)) :
    setField key v fields = Table.alterIn key (fun _ => v) fields := by
  induction fields with
  | nil => rfl
  | cons f rest ih => rw [setField, Table.alterIn, ih]

/-- Fields are collected like the entries of a table. -/
theorem collectFields_eq (fields : List (String × Value)) :
    collectFields fields = (Table.ofList fields).entries := by
  -- from any table on, not only from the empty one
  have filled (t : Table String Value) :
      fields.foldl (fun acc f => setField f.1 f.2 acc) t.entries =
        (fields.foldl (fun t f => t.insert f.1 f.2) t).entries := by
    induction fields generalizing t with
    | nil => rfl
    | cons f rest ih =>
      rw [List.foldl_cons, List.foldl_cons, setField_eq_alterIn]
      exact ih (t.insert f.1 f.2)
  exact filled .empty

theorem nodup_keys_collectFields (fields : List (String × Value)) :
    ((collectFields fields).map (·.1)).Nodup := by
  rw [collectFields_eq]
  exact Table.nodup_keys_ofList fields

/-- Collecting brings no new values. -/
theorem exists_mem_of_mem_collectFields {fields : List (String × Value)} {f : String × Value}
    (h : f ∈ collectFields fields) : ∃ f' ∈ fields, f'.2 = f.2 := by
  have found : (Table.ofList fields).find? f.1 = some f.2 := by
    rw [collectFields_eq] at h
    exact (Table.mem_entries_iff (Table.nodup_keys_ofList fields)).1 h
  rw [Table.find?_ofList, Option.map_eq_some_iff] at found
  obtain ⟨f', last, same⟩ := found
  exact ⟨f', List.mem_reverse.1 (List.mem_of_find?_eq_some last), same⟩

/-! ## Values that were read -/

/-- Every object in a value has each key once. -/
inductive KeyedOnce : Value → Prop
  | scalar {v : Value} : (∀ items, v ≠ .list items) → (∀ fields, v ≠ .object fields) → KeyedOnce v
  | list {items : List Value} : (∀ v ∈ items, KeyedOnce v) → KeyedOnce (.list items)
  | object {fields : List (String × Value)} : (fields.map (·.1)).Nodup →
      (∀ f ∈ fields, KeyedOnce f.2) → KeyedOnce (.object fields)

theorem KeyedOnce.nodup {fields : List (String × Value)} (h : KeyedOnce (.object fields)) :
    (fields.map (·.1)).Nodup := by
  cases h with
  | scalar _ notObject => exact absurd rfl (notObject fields)
  | object once _ => exact once

theorem KeyedOnce.of_lookup {fields : List (String × Value)} {key : String} {v : Value}
    (h : KeyedOnce (.object fields)) (found : lookup key fields = some v) : KeyedOnce v := by
  cases h with
  | scalar _ notObject => exact absurd rfl (notObject fields)
  | object _ each =>
    rw [lookup_eq_findIn] at found
    exact each _ (Table.mem_of_findIn found)

theorem keyedOnce_of_readNumber {negative : Bool} {cs rest : List Char} {v : Value}
    (h : readNumber negative cs = .ok (v, rest)) : KeyedOnce v := by
  rw [readNumber_eq] at h
  unfold ofParts at h
  split at h
  · cases h
  · split at h
    · split at h
      · cases h
      · cases h
        exact .scalar (by simp) (by simp)
    · cases h
      exact .scalar (by simp) (by simp)

/-- What the readers make of a text, with so much fuel. -/
structure ReadsKeyed (fuel : Nat) : Prop where
  value : ∀ {room cs v rest}, readValue fuel room cs = .ok (v, rest) → KeyedOnce v
  items : ∀ {room cs vs rest}, readItems fuel room cs = .ok (vs, rest) → ∀ v ∈ vs, KeyedOnce v
  fields : ∀ {room cs fs rest}, readFields fuel room cs = .ok (fs, rest) → ∀ f ∈ fs, KeyedOnce f.2

theorem keyedOnce_of_readCase {fuel room : Nat} {cs rest : List Char} {v : Value}
    (ih : ReadsKeyed fuel) (h : ReadCase fuel room cs v rest) : KeyedOnce v := by
  cases h with
  | text => exact .scalar (by simp) (by simp)
  | noFields => exact .object (by simp) (by simp)
  | fields read =>
    -- the text may repeat a key, the table does not
    refine .object (nodup_keys_collectFields _) fun f mem => ?_
    obtain ⟨f', mem', same⟩ := exists_mem_of_mem_collectFields mem
    exact same ▸ ih.fields read f' mem'
  | noItems => exact .list (by simp)
  | items read => exact .list (ih.items read)
  | word listed =>
    refine .scalar ?_ ?_ <;> rintro _ rfl <;> simp at listed
  | negative read => exact keyedOnce_of_readNumber read
  | number read => exact keyedOnce_of_readNumber read

theorem readsKeyed (fuel : Nat) : ReadsKeyed fuel := by
  induction fuel with
  | zero =>
    constructor
    · intro room cs v rest h
      simp [readValue] at h
    · intro room cs vs rest h
      simp [readItems] at h
    · intro room cs fs rest h
      simp [readFields] at h
  | succ fuel ih =>
    constructor
    · intro room cs v rest h
      exact keyedOnce_of_readCase ih (readCase_of_readValue h)
    · intro room cs vs rest h v mem
      obtain ⟨first, left, read, next⟩ := readItems_iff.1 h
      rcases next with ⟨-, rfl⟩ | ⟨tail, others, -, readOthers, rfl⟩
      · rw [List.mem_singleton.1 mem]
        exact ih.value read
      · rcases List.mem_cons.1 mem with rfl | later
        · exact ih.value read
        · exact ih.items readOthers v later
    · intro room cs fs rest h f mem
      obtain ⟨_, key, _, _, first, _, rfl, -, -, read, next⟩ := readFields_iff.1 h
      rcases next with ⟨-, rfl⟩ | ⟨tail, others, -, readOthers, rfl⟩
      · rw [List.mem_singleton.1 mem]
        exact ih.value read
      · rcases List.mem_cons.1 mem with rfl | later
        · exact ih.value read
        · exact ih.fields readOthers f later

/-- In a document that was read, every object has each key once. -/
theorem keyedOnce_of_parse {s : String} {v : Value} (h : parse s = .ok v) : KeyedOnce v := by
  obtain ⟨rest, read, -⟩ := parse_eq_ok_iff.1 h
  exact (readsKeyed _).value read

end RepoAudit.Value
