/-! # Tables in insertion order

A table maps keys to values and remembers the order in which its keys first arrived.  Replacing a
value keeps the key where it is, so listing a table shows the keys in the order of first arrival.

* `Table.alter` – the one way in which a table changes: the value of one key is computed from its
  former value;
* `Table.insert` – the last value wins;
* `Table.insertNew` – the first value wins;
* `Table.find?` – the value of a key.
-/

namespace RepoAudit

/-- A finite map that lists its keys in the order of first arrival. -/
structure Table (κ ν : Type) where
  entries : List (κ × ν) := []
  deriving Repr

namespace Table

variable {κ ν : Type}

def empty : Table κ ν := {}

instance : Inhabited (Table κ ν) := ⟨empty⟩

def keys (t : Table κ ν) : List κ :=
  t.entries.map (·.1)

def values (t : Table κ ν) : List ν :=
  t.entries.map (·.2)

def size (t : Table κ ν) : Nat :=
  t.entries.length

def isEmpty (t : Table κ ν) : Bool :=
  t.entries.isEmpty

variable [DecidableEq κ]

def findIn (k : κ) : List (κ × ν) → Option ν
  | [] => none
  | (k', v) :: rest => if k' = k then some v else findIn k rest

def find? (t : Table κ ν) (k : κ) : Option ν :=
  findIn k t.entries

def contains (t : Table κ ν) (k : κ) : Bool :=
  (t.find? k).isSome

/-- Gives `k` the value `f` computes from its former value; a new key goes to the end. -/
def alterIn (k : κ) (f : Option ν → ν) : List (κ × ν) → List (κ × ν)
  | [] => [(k, f none)]
  | (k', v) :: rest => if k' = k then (k', f (some v)) :: rest else (k', v) :: alterIn k f rest

def alter (t : Table κ ν) (k : κ) (f : Option ν → ν) : Table κ ν :=
  ⟨alterIn k f t.entries⟩

def insert (t : Table κ ν) (k : κ) (v : ν) : Table κ ν :=
  t.alter k fun _ => v

/-- Stores a value unless the key has one already. -/
def insertNew (t : Table κ ν) (k : κ) (v : ν) : Table κ ν :=
  t.alter k fun former => former.getD v

/-- The table of a list of entries; of two entries with one key the last gives the value and the
first the place. -/
def ofList (entries : List (κ × ν)) : Table κ ν :=
  entries.foldl (fun t e => t.insert e.1 e.2) empty

/-! ## What the operations do to `find?` -/

@[simp] theorem find?_empty (k : κ) : (empty : Table κ ν).find? k = none := rfl

theorem findIn_alterIn (k k' : κ) (f : Option ν → ν) (es : List (κ × ν)) :
    findIn k' (alterIn k f es) = if k' = k then some (f (findIn k es)) else findIn k' es := by
  induction es with
  | nil => grind [alterIn, findIn]
  | cons e rest ih => grind [alterIn, findIn]

theorem find?_alter (t : Table κ ν) (k k' : κ) (f : Option ν → ν) :
    (t.alter k f).find? k' = if k' = k then some (f (t.find? k)) else t.find? k' :=
  findIn_alterIn k k' f t.entries

@[simp] theorem find?_insert_self (t : Table κ ν) (k : κ) (v : ν) :
    (t.insert k v).find? k = some v := by
  simp [insert, find?_alter]

@[simp] theorem find?_insert_of_ne {t : Table κ ν} {k k' : κ} {v : ν} (h : k' ≠ k) :
    (t.insert k v).find? k' = t.find? k' := by
  simp [insert, find?_alter, h]

@[simp] theorem find?_insertNew_self (t : Table κ ν) (k : κ) (v : ν) :
    (t.insertNew k v).find? k = some ((t.find? k).getD v) := by
  simp [insertNew, find?_alter]

@[simp] theorem find?_insertNew_of_ne {t : Table κ ν} {k k' : κ} {v : ν} (h : k' ≠ k) :
    (t.insertNew k v).find? k' = t.find? k' := by
  simp [insertNew, find?_alter, h]

end Table

end RepoAudit
