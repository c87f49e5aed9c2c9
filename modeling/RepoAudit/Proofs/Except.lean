import Mathlib.Data.List.Forall2

/-! # Steps that may fail

A row of steps succeeds when each of them does, and a list is worked through item by item in the same way:
it has a result when each item has one.

* `bind_eq_ok_iff` – two steps in a row;
* `mapM_eq_ok_iff`, `exists_mapM_iff`, `exists_of_mapM_eq_error` – a step for each item of a list;
* `mem_flatten_of_mapM` – what the items give together;
* `exists_filterM_iff`, `mem_of_filterM`, `exists_of_filterM_eq_error` – a question for each item.
-/

namespace RepoAudit

variable {α β ε : Type}

/-- A row of steps succeeds if the first one does and the others do with its result. -/
theorem bind_eq_ok_iff {x : Except ε α} {f : α → Except ε β} {b : β} :
    x >>= f = .ok b ↔ ∃ a, x = .ok a ∧ f a = .ok b := by
  cases x with
  | error e => simp [bind, Except.bind]
  | ok a => simp [bind, Except.bind]

theorem bind_eq_error_iff {x : Except ε α} {f : α → Except ε β} {e : ε} :
    x >>= f = .error e ↔ x = .error e ∨ ∃ a, x = .ok a ∧ f a = .error e := by
  cases x with
  | error e => simp [bind, Except.bind]
  | ok a => simp [bind, Except.bind]

/-! ## A step for each item -/

section mapM

variable {f : α → Except ε β} {as : List α}

theorem mapM_eq_ok {g : α → β} (h : ∀ a ∈ as, f a = .ok (g a)) : as.mapM f = .ok (as.map g) := by
  induction as with
  | nil => rfl
  | cons a rest ih =>
    rw [List.mapM_cons, h a (by simp), ih fun b mem => h b (by simp [mem])]
    rfl

/-- A list is mapped to a list of results exactly when each item has its result. -/
theorem mapM_eq_ok_iff {bs : List β} :
    as.mapM f = .ok bs ↔ List.Forall₂ (fun a b => f a = .ok b) as bs := by
  induction as generalizing bs with
  | nil => cases bs <;> simp [pure, Except.pure]
  | cons a rest ih =>
    rw [List.mapM_cons]
    cases first : f a with
    | error e => cases bs <;> simp [bind, Except.bind, first]
    | ok b =>
      cases others : rest.mapM f with
      | error e => cases bs <;> simp [bind, Except.bind, ← ih, others]
      | ok cs => cases bs <;> simp [bind, Except.bind, pure, Except.pure, ← ih, others, first]

theorem exists_mapM_iff : (∃ bs, as.mapM f = .ok bs) ↔ ∀ a ∈ as, ∃ b, f a = .ok b := by
  simp only [mapM_eq_ok_iff]
  induction as with
  | nil => simp
  | cons a rest ih =>
    rw [List.forall_mem_cons, ← ih]
    constructor
    · rintro ⟨_, results⟩
      cases results with
      | cons first others => exact ⟨⟨_, first⟩, _, others⟩
    · rintro ⟨⟨b, first⟩, bs, others⟩
      exact ⟨b :: bs, .cons first others⟩

theorem exists_of_mapM_eq_error {e : ε} (h : as.mapM f = .error e) : ∃ a ∈ as, f a = .error e := by
  induction as with
  | nil => cases h
  | cons a rest ih =>
    rw [List.mapM_cons, bind_eq_error_iff] at h
    rcases h with first | ⟨b, -, others⟩
    · exact ⟨a, by simp, first⟩
    · rcases bind_eq_error_iff.1 others with later | ⟨bs, -, impossible⟩
      · obtain ⟨c, mem, failed⟩ := ih later
        exact ⟨c, by simp [mem], failed⟩
      · cases impossible

/-- What the items give together is what one of them gives. -/
theorem mem_flatten_of_mapM {f : α → Except ε (List β)} {found : List (List β)}
    (h : as.mapM f = .ok found) {b : β} : b ∈ found.flatten ↔ ∃ a ∈ as, ∃ bs, f a = .ok bs ∧ b ∈ bs := by
  induction mapM_eq_ok_iff.1 h with
  | nil => simp
  | cons first others ih =>
    simp [ih (mapM_eq_ok_iff.2 others), first]

end mapM

/-! ## A question for each item -/

section filterM

variable {f : α → Except ε Bool} {as : List α}

theorem filterM_eq_ok {g : α → Bool} (h : ∀ a ∈ as, f a = .ok (g a)) :
    as.filterM f = .ok (as.filter g) := by
  have kept (acc : List α) : as.filterAuxM f acc = .ok ((as.filter g).reverse ++ acc) := by
    induction as generalizing acc with
    | nil => rfl
    | cons a rest ih =>
      have step : (a :: rest).filterAuxM f acc =
          rest.filterAuxM f (bif g a then a :: acc else acc) := by
        rw [List.filterAuxM, h a (by simp)]
        rfl
      rw [step, ih fun b mem => h b (by simp [mem])]
      cases accepted : g a <;> simp [accepted]
  rw [List.filterM, kept]
  simp

theorem exists_of_filterM_eq_error {e : ε} (h : as.filterM f = .error e) : ∃ a ∈ as, f a = .error e := by
  rcases bind_eq_error_iff.1 h with failed | ⟨kept, -, impossible⟩
  · -- which items have been kept so far does not matter
    clear h
    generalize [] = acc at failed
    induction as generalizing acc with
    | nil => cases failed
    | cons a rest ih =>
      rw [List.filterAuxM, bind_eq_error_iff] at failed
      rcases failed with first | ⟨b, -, others⟩
      · exact ⟨a, by simp, first⟩
      · obtain ⟨c, mem, later⟩ := ih _ others
        exact ⟨c, by simp [mem], later⟩
  · cases impossible

theorem exists_filterM_iff : (∃ kept, as.filterM f = .ok kept) ↔ ∀ a ∈ as, ∃ b, f a = .ok b := by
  constructor
  · rintro ⟨kept, done⟩
    obtain ⟨all, followed, -⟩ := bind_eq_ok_iff.1 done
    clear done
    generalize [] = acc at followed
    induction as generalizing acc with
    | nil => simp
    | cons a rest ih =>
      obtain ⟨b, first, others⟩ := bind_eq_ok_iff.1 followed
      exact List.forall_mem_cons.2 ⟨⟨b, first⟩, ih _ others⟩
  · intro each
    choose! g answers using each
    exact ⟨_, filterM_eq_ok answers⟩

theorem mem_of_filterM {kept : List α} (h : as.filterM f = .ok kept) {a : α} :
    a ∈ kept ↔ a ∈ as ∧ f a = .ok true := by
  have each := exists_filterM_iff.1 ⟨kept, h⟩
  choose! g answers using each
  cases h.symm.trans (filterM_eq_ok answers)
  rw [List.mem_filter]
  refine and_congr_right fun mem => ?_
  simp [answers a mem]

end filterM

end RepoAudit
