import RepoAudit.Proofs.Table
import RepoAudit.Proofs.Text.Ends
import RepoAudit.Volume

/-! # What can be reached in a volume

In a volume whose names and paths are such as a file system allows, every occupied place can be reached
from any directory above it.

* `Path.IsName`, `Volume.Sound`, `Volume.Proper` – what a file system allows;
* `isDirectory_of_above`, `exists_key_of_occupied` – directories exist because something lies in them;
* `Step`, `locate_cons_iff`, `locate_append_iff` – ways, step by step;
* `Sound.locate`, `Sound.locateFrom` – the way to an occupied place leads there;
* `mem_names_iff`, `mem_directoriesBelow_iff` – what lies in a directory and below it.
-/

namespace RepoAudit

structure Path.IsName (name : String) : Prop where
  nonempty : name ≠ ""
  noDot : name ≠ "."
  noDots : name ≠ ".."
  noSlash : '/' ∉ name.toList
  short : Path.byteCount name ≤ Path.maxNameBytes

instance (name : String) : Decidable (Path.IsName name) :=
  decidable_of_iff (name ≠ "" ∧ name ≠ "." ∧ name ≠ ".." ∧ '/' ∉ name.toList ∧
      Path.byteCount name ≤ Path.maxNameBytes)
    ⟨fun ⟨a, b, c, d, e⟩ => ⟨a, b, c, d, e⟩, fun ⟨a, b, c, d, e⟩ => ⟨a, b, c, d, e⟩⟩

namespace Volume

/-- A volume as a file system has it: every name is one, and no path is too long. -/
structure Sound (v : Volume) : Prop where
  isName : ∀ p ∈ v.entries.keys, ∀ n ∈ p, Path.IsName n
  base : Path.byteCount v.base ≤ Path.maxPathBytes
  fits : ∀ p ∈ v.entries.keys, Path.byteCount (v.absolute p) ≤ Path.maxPathBytes

/-- What else holds in a volume that comes from a file system: a name is spelled in the one way that texts
from outside have, no file lacks a name that can be asked for, and nothing lies in a file. -/
structure Proper (v : Volume) : Prop extends v.Sound where
  spelled : ∀ p ∈ v.entries.keys, ∀ n ∈ p, Text.ofPoints (Text.codePoints n) = n
  nameable : ∀ p ∈ v.entries.keys, ∀ n ∈ p, Path.nameError? n = none
  apart : ∀ p ∈ v.entries.keys, v.isFile p = true → v.isDirectory p = false

variable {v : Volume} {p q : Place}

/-! ## Occupied places -/

theorem above_iff : above p q = true ↔ p <+: q ∧ p.length < q.length := by
  simp [above]

theorem above_append_cons (p : Place) (n : String) (rest : Place) :
    above p (p ++ n :: rest) = true := by
  simp [above_iff]

theorem exists_of_above (h : above p q = true) : ∃ n rest, q = p ++ n :: rest := by
  obtain ⟨⟨rest, rfl⟩, longer⟩ := above_iff.1 h
  cases rest with
  | nil => simp at longer
  | cons n rest => exact ⟨n, rest, rfl⟩

theorem isDirectory_of_above (listed : q ∈ v.entries.keys) (h : above p q = true) :
    v.isDirectory p = true := by
  obtain ⟨⟨q, entry⟩, mem, rfl⟩ := List.mem_map.1 listed
  have inside := (above_iff.1 h).1
  rw [isDirectory, Bool.or_eq_true, List.any_eq_true]
  refine .inr ⟨(q, entry), mem, ?_⟩
  cases entry with
  | file f => exact h
  | directory => simpa using inside

theorem mem_keys_of_isFile (h : v.isFile p = true) : p ∈ v.entries.keys := by
  unfold isFile fileAt? at h
  cases found : v.entries.find? p with
  | none => simp [found] at h
  | some e => exact Table.mem_keys_of_find? found

/-- Something is at a place because it is listed, or something below it. -/
theorem exists_key_of_occupied (h : v.occupied p = true) : p = [] ∨ ∃ q ∈ v.entries.keys, p <+: q := by
  rw [occupied, Bool.or_eq_true] at h
  rcases h with file | directory
  · exact .inr ⟨p, mem_keys_of_isFile file, List.prefix_refl p⟩
  · rw [isDirectory, Bool.or_eq_true, List.any_eq_true] at directory
    rcases directory with empty | ⟨⟨q, entry⟩, mem, below⟩
    · exact .inl (by simpa using empty)
    · refine .inr ⟨q, List.mem_map_of_mem mem, ?_⟩
      cases entry with
      | file f => exact (above_iff.1 below).1
      | directory => simpa using below

theorem occupied_of_prefix (listed : q ∈ v.entries.keys) (h : p <+: q) : v.occupied p = true := by
  obtain ⟨rest, rfl⟩ := h
  cases rest with
  | cons n rest => simp [occupied, isDirectory_of_above listed (above_append_cons p n rest)]
  | nil =>
    -- the place itself is listed, as a file or as a directory
    rw [List.append_nil] at listed
    obtain ⟨entry, found⟩ := Table.exists_find?_of_mem_keys listed
    rw [occupied, Bool.or_eq_true]
    cases entry with
    | file f => exact .inl (by simp [isFile, fileAt?, found])
    | directory =>
      right
      rw [isDirectory, Bool.or_eq_true, List.any_eq_true]
      exact .inr ⟨(p, .directory), Table.mem_of_findIn found, by simp⟩

/-- Everything above an occupied place is a directory. -/
theorem isDirectory_of_occupied {n : String} {rest : Place} (h : v.occupied (p ++ n :: rest) = true) :
    v.isDirectory p = true := by
  rcases exists_key_of_occupied h with empty | ⟨q, listed, more, rfl⟩
  · simp at empty
  · refine isDirectory_of_above listed ?_
    rw [List.append_assoc, List.cons_append]
    exact above_append_cons p n _

/-! ## Ways -/

/-- One step on a way: up from a directory other than the base, or down by a name that is not too long. -/
inductive Step (v : Volume) : Place → String → Place → Prop
  | up {p : Place} {name : String} : v.isDirectory (p ++ [name]) = true → Step v (p ++ [name]) ".." p
  | down {p : Place} {name : String} : v.isDirectory p = true → name ≠ ".." →
      Path.byteCount name ≤ Path.maxNameBytes → Step v p name (p ++ [name])

theorem Step.isDirectory {name : String} (h : v.Step p name q) : v.isDirectory p = true := by
  cases h <;> assumption

theorem Step.eq_of_ne {name : String} (h : v.Step p name q) (other : name ≠ "..") : q = p ++ [name] := by
  cases h with
  | up => exact absurd rfl other
  | down => rfl

theorem locate_nil_iff : v.locate p [] = .ok q ↔ v.occupied p = true ∧ q = p := by
  cases occ : v.occupied p with
  | false => simp [Volume.locate, occ]
  | true =>
    simp only [Volume.locate, occ, ↓reduceIte, Except.ok.injEq, true_and]
    exact eq_comm

/-- A way of several steps leads somewhere when the first step does and the others go on from there. -/
theorem locate_cons_iff {name : String} {way : Place} :
    v.locate p (name :: way) = .ok q ↔ ∃ next, v.Step p name next ∧ v.locate next way = .ok q := by
  constructor
  · intro led
    rw [Volume.locate] at led
    split at led
    · rename_i directory
      split at led
      · rename_i isUp
        subst isUp
        rcases List.eq_nil_or_concat p with rfl | ⟨above, last, rfl⟩
        · -- nothing is known above the base
          cases led
        · simp only [List.concat_eq_append, List.getLast?_concat, List.dropLast_concat] at led directory ⊢
          exact ⟨above, .up directory, led⟩
      · rename_i isDown
        split at led
        · cases led
        · rename_i short
          exact ⟨_, .down directory isDown (Nat.not_lt.1 short), led⟩
    · split at led <;> cases led
  · rintro ⟨next, step, led⟩
    cases step with
    | up directory => simp [Volume.locate, directory, led]
    | down directory isDown short => simp [Volume.locate, directory, isDown, Nat.not_lt.2 short, led]

/-- A way starts where something is. -/
theorem occupied_of_locate {way : Place} (h : v.locate p way = .ok q) : v.occupied p = true := by
  cases way with
  | nil => exact (locate_nil_iff.1 h).1
  | cons name way =>
    obtain ⟨next, step, -⟩ := locate_cons_iff.1 h
    simp [occupied, step.isDirectory]

theorem locate_append_iff {a b : Place} :
    v.locate p (a ++ b) = .ok q ↔ ∃ r, v.locate p a = .ok r ∧ v.locate r b = .ok q := by
  induction a generalizing p with
  | nil =>
    -- a way that leads on from here shows that something is here
    simp only [List.nil_append, locate_nil_iff]
    constructor
    · exact fun led => ⟨p, ⟨occupied_of_locate led, rfl⟩, led⟩
    · rintro ⟨_, ⟨-, rfl⟩, led⟩
      exact led
  | cons name a ih =>
    simp only [List.cons_append, locate_cons_iff, ih]
    constructor
    · rintro ⟨next, step, r, first, second⟩
      exact ⟨r, ⟨next, step, first⟩, second⟩
    · rintro ⟨r, ⟨next, step, first⟩, second⟩
      exact ⟨next, step, r, first, second⟩

/-- A way ends where something is. -/
theorem occupied_of_locate_eq {way : Place} (h : v.locate p way = .ok q) : v.occupied q = true := by
  rw [← List.append_nil way, locate_append_iff] at h
  obtain ⟨r, -, stays⟩ := h
  obtain ⟨occ, rfl⟩ := locate_nil_iff.1 stays
  exact occ

/-- Only a directory has something beyond it. -/
theorem isDirectory_of_locate {way : Place} (h : v.locate p way = .ok q) (further : way ≠ []) :
    v.isDirectory p = true := by
  cases way with
  | nil => exact absurd rfl further
  | cons name way =>
    obtain ⟨next, step, -⟩ := locate_cons_iff.1 h
    exact step.isDirectory

/-- A way that never goes up leads to the place that its names spell out. -/
theorem eq_append_of_locate {way : Place} (h : v.locate p way = .ok q) (noUp : ".." ∉ way) :
    q = p ++ way := by
  induction way generalizing p with
  | nil => simpa using (locate_nil_iff.1 h).2
  | cons name way ih =>
    obtain ⟨isDown, noUp⟩ := not_or.1 (List.mem_cons.not.1 noUp)
    obtain ⟨next, step, onward⟩ := locate_cons_iff.1 h
    cases step.eq_of_ne (Ne.symm isDown)
    simpa using ih onward noUp

/-- Each name on a way that leads somewhere goes up, or it is the name of something. -/
theorem up_or_occupied_of_locate {way : Place} (h : v.locate p way = .ok q) :
    ∀ n ∈ way, n = ".." ∨ ∃ r, v.occupied (r ++ [n]) = true := by
  induction way generalizing p with
  | nil => simp
  | cons name way ih =>
    obtain ⟨next, step, onward⟩ := locate_cons_iff.1 h
    refine List.forall_mem_cons.2 ⟨?_, ih onward⟩
    cases step with
    | up => exact .inl rfl
    | down => exact .inr ⟨p, occupied_of_locate onward⟩

namespace Sound

theorem isName_of_occupied (h : v.Sound) (occ : v.occupied p = true) : ∀ n ∈ p, Path.IsName n := by
  rcases exists_key_of_occupied occ with rfl | ⟨q, listed, inside⟩
  · simp
  · exact fun n mem => h.isName q listed n (inside.subset mem)

theorem byteCount_of_occupied (h : v.Sound) (occ : v.occupied p = true) :
    Path.byteCount (v.absolute p) ≤ Path.maxPathBytes := by
  rcases exists_key_of_occupied occ with rfl | ⟨q, listed, rest, rfl⟩
  · rw [absolute, Text.joinWith_singleton]
    exact h.base
  · refine Nat.le_trans ?_ (h.fits _ listed)
    rw [absolute, absolute, ← List.cons_append]
    exact Path.byteCount_joinWith_le (by simp) rest

/-- The way to an occupied place leads there. -/
theorem locate (h : v.Sound) {start way : Place} (occ : v.occupied (start ++ way) = true) :
    v.locate start way = .ok (start ++ way) := by
  induction way generalizing start with
  | nil =>
    rw [List.append_nil] at occ ⊢
    simp [Volume.locate, occ]
  | cons part parts ih =>
    have name : Path.IsName part := h.isName_of_occupied occ part (by simp)
    have directory := isDirectory_of_occupied occ
    have onward : v.occupied ((start ++ [part]) ++ parts) = true := by simpa using occ
    simp [Volume.locate, directory, name.noDots, Nat.not_lt.2 name.short, ih onward]

theorem locateFrom (h : v.Sound) {start way : Place} (occ : v.occupied (start ++ way) = true) :
    v.locateFrom start way = .ok (start ++ way) := by
  simp [Volume.locateFrom, Nat.not_lt.2 (h.byteCount_of_occupied occ), h.locate occ]

/-- A way that never goes up leads to an occupied place exactly when it spells one out. -/
theorem locate_iff (h : v.Sound) {start way : Place} (noUp : ".." ∉ way) :
    v.locate start way = .ok q ↔ q = start ++ way ∧ v.occupied q = true := by
  constructor
  · exact fun led => ⟨eq_append_of_locate led noUp, occupied_of_locate_eq led⟩
  · rintro ⟨rfl, occ⟩
    exact h.locate occ

end Sound

namespace Proper

theorem spelled_of_occupied (h : v.Proper) (occ : v.occupied p = true) :
    ∀ n ∈ p, Text.ofPoints (Text.codePoints n) = n := by
  rcases exists_key_of_occupied occ with rfl | ⟨q, listed, inside⟩
  · simp
  · exact fun n mem => h.spelled q listed n (inside.subset mem)

theorem nameable_of_occupied (h : v.Proper) (occ : v.occupied p = true) :
    ∀ n ∈ p, Path.nameError? n = none := by
  rcases exists_key_of_occupied occ with rfl | ⟨q, listed, inside⟩
  · simp
  · exact fun n mem => h.nameable q listed n (inside.subset mem)

theorem spelled_of_locate (h : v.Proper) {way : Place} (led : v.locate p way = .ok q) :
    ∀ n ∈ way, Text.ofPoints (Text.codePoints n) = n := by
  intro n mem
  rcases up_or_occupied_of_locate led n mem with rfl | ⟨r, occ⟩
  · decide
  · exact h.spelled_of_occupied occ n (by simp)

theorem nameable_of_locate (h : v.Proper) {way : Place} (led : v.locate p way = .ok q) :
    ∀ n ∈ way, Path.nameError? n = none := by
  intro n mem
  rcases up_or_occupied_of_locate led n mem with rfl | ⟨r, occ⟩
  · decide
  · exact h.nameable_of_occupied occ n (by simp)

theorem not_isDirectory (h : v.Proper) (file : v.isFile p = true) : ¬ v.isDirectory p = true := by
  simp [h.apart p (mem_keys_of_isFile file) file]

end Proper

/-! ## What lies in a directory -/

/-- The names in a directory are those that lead on towards something that is listed. -/
theorem mem_names_iff {n : String} :
    n ∈ v.names p ↔ ∃ q ∈ v.entries.keys, p ++ [n] <+: q := by
  simp only [names, List.mem_eraseDups, List.mem_filterMap, List.mem_filter]
  constructor
  · rintro ⟨q, ⟨listed, below⟩, next⟩
    obtain ⟨m, rest, rfl⟩ := exists_of_above below
    simp only [List.drop_left, List.head?_cons, Option.some.injEq] at next
    subst next
    exact ⟨_, listed, rest, by simp⟩
  · rintro ⟨q, listed, rest, rfl⟩
    rw [List.append_assoc, List.singleton_append] at listed
    exact ⟨_, ⟨listed, above_append_cons p n rest⟩, by simp⟩

theorem mem_names_of_occupied {n : String} (h : v.occupied (p ++ [n]) = true) : n ∈ v.names p := by
  rcases exists_key_of_occupied h with empty | listed
  · simp at empty
  · exact mem_names_iff.2 listed

theorem occupied_of_mem_names {n : String} (h : n ∈ v.names p) : v.occupied (p ++ [n]) = true := by
  obtain ⟨q, listed, inside⟩ := mem_names_iff.1 h
  exact occupied_of_prefix listed inside

theorem mem_placesTo_iff : q ∈ placesTo p ↔ q <+: p := by
  induction p generalizing q with
  | nil => simp [placesTo]
  | cons n rest ih =>
    cases q with
    | nil => simp [placesTo]
    | cons m q => simp [placesTo, ih, List.cons_prefix_cons, eq_comm, and_comm]

/-- The ways down from a directory lead to the directories below it. -/
theorem mem_directoriesBelow_iff (h : v.isDirectory p = true) {down : Place} :
    down ∈ v.directoriesBelow p ↔ v.isDirectory (p ++ down) = true := by
  simp only [directoriesBelow, h, ↓reduceIte, List.mem_cons, List.mem_map, List.mem_filter,
    List.mem_eraseDups, List.mem_flatMap, mem_placesTo_iff, Bool.and_eq_true]
  constructor
  · rintro (rfl | ⟨q, ⟨-, below, directory⟩, rfl⟩)
    · simpa using h
    · obtain ⟨rest, rfl⟩ := (above_iff.1 below).1
      simpa using directory
  · intro directory
    cases down with
    | nil => exact .inl rfl
    | cons n rest =>
      right
      refine ⟨p ++ n :: rest, ⟨?_, above_append_cons p n rest, directory⟩, by simp⟩
      have occ : v.occupied (p ++ n :: rest) = true := by simp [occupied, directory]
      rcases exists_key_of_occupied occ with empty | ⟨q, listed, inside⟩
      · simp at empty
      · exact ⟨q, listed, inside⟩

end Volume

end RepoAudit
