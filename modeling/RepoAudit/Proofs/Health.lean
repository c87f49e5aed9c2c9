import Mathlib.Data.List.Forall2
import Mathlib.Data.List.Perm.Basic
import RepoAudit.Health

/-! # What the health score depends on

The score takes three numbers from a list of issues: how many lines are dead, how many issues are about
duplicates and how many about packages.  The last two count up to a point only, where they have cost all the
points that they can cost.  Whatever leaves the three numbers alone leaves the score alone.

* `CountAlike` – two lists of issues with the same three numbers;
* `countScore_min`, `Tally.score_eq` – where a number stops counting, and the score of equal numbers;
* `countAlike_of_spans` – it is enough that the issues of each sort span the same lines, in any order;
* `healthScore_by_counts` – the score depends on the three numbers, and what does not change it.
-/

namespace RepoAudit

def scoredKinds : List String := ["dead_code", "duplicate", "dependency"]

/-- As many dead lines, and as many duplicates and packages as far as these count. -/
structure CountAlike (xs ys : List Issue) : Prop where
  lines : totalLines (ofKind "dead_code" xs) = totalLines (ofKind "dead_code" ys)
  duplicates : min 12 (ofKind "duplicate" xs).length = min 12 (ofKind "duplicate" ys).length
  dependencies : min 14 (ofKind "dependency" xs).length = min 14 (ofKind "dependency" ys).length

/-! ## Numbers that stop counting -/

/-- Behind a limit at which all points are lost, further issues cost nothing. -/
theorem countScore_min {each most : Nat} (limit : Nat) (lost : most ≤ limit * each) (count : Nat) :
    countScore each most (min limit count) = countScore each most count := by
  have points : min (min limit count * each) most = min (count * each) most := by
    rcases Nat.le_total count limit with below | beyond
    · rw [Nat.min_eq_right below]
    · have more : limit * each ≤ count * each := Nat.mul_le_mul_right each beyond
      rw [Nat.min_eq_left beyond]
      omega
  rw [countScore, countScore, points]

theorem countScore_eq {each most m n : Nat} (limit : Nat) (lost : most ≤ limit * each)
    (same : min limit m = min limit n) : countScore each most m = countScore each most n := by
  rw [← countScore_min limit lost m, same, countScore_min limit lost n]

theorem Tally.score_eq {t t' : Tally} (lines : t.lines = t'.lines)
    (duplicates : min 12 t.duplicates = min 12 t'.duplicates)
    (dependencies : min 14 t.dependencies = min 14 t'.dependencies) : t.score = t'.score := by
  have forDuplicates : countScore 5 60 t.duplicates = countScore 5 60 t'.duplicates :=
    countScore_eq 12 (by decide) duplicates
  -- thirteen issues cost 39 of the 40 points, so the fourteenth still costs one
  have forDependencies : countScore 3 40 t.dependencies = countScore 3 40 t'.dependencies :=
    countScore_eq 14 (by decide) dependencies
  rw [score, score, lines, forDuplicates, forDependencies]

/-! ## Lists that count alike -/

variable {xs ys others : List Issue}

theorem total_perm {ms ns : List Nat} (h : ms.Perm ns) : total ms = total ns :=
  h.foldr_eq 0

/-- It is enough that the issues of each sort span the same lines. -/
theorem countAlike_of_spans (same : ∀ kind ∈ scoredKinds,
    ((ofKind kind xs).map deadLines).Perm ((ofKind kind ys).map deadLines)) : CountAlike xs ys := by
  have many : ∀ kind ∈ scoredKinds, (ofKind kind xs).length = (ofKind kind ys).length := by
    intro kind scored
    simpa using (same kind scored).length_eq
  refine ⟨total_perm (same "dead_code" (by decide)), ?_, ?_⟩
  · rw [many "duplicate" (by decide)]
  · rw [many "dependency" (by decide)]

theorem countAlike_of_perm (h : xs.Perm ys) : CountAlike xs ys :=
  countAlike_of_spans fun _ _ => (h.filter _).map _

theorem ofKind_append_of_unscored {kind : String} (scored : kind ∈ scoredKinds)
    (unscored : ∀ i ∈ others, normalizeKind i.kind ∉ scoredKinds) :
    ofKind kind (xs ++ others) = ofKind kind xs := by
  have none : others.filter (fun i => normalizeKind i.kind == kind) = [] := by
    rw [List.filter_eq_nil_iff]
    intro i mem same
    rw [beq_iff_eq] at same
    exact unscored i mem (same ▸ scored)
  rw [ofKind, List.filter_append, none, List.append_nil, ofKind]

theorem countAlike_append (unscored : ∀ i ∈ others, normalizeKind i.kind ∉ scoredKinds) :
    CountAlike (xs ++ others) xs :=
  countAlike_of_spans fun _ scored => by rw [ofKind_append_of_unscored scored unscored]

theorem map_deadLines_ofKind (kind : String)
    (h : List.Forall₂ (fun i j : Issue =>
      normalizeKind i.kind = normalizeKind j.kind ∧ i.firstLine = j.firstLine ∧
        i.lastLine = j.lastLine) xs ys) :
    (ofKind kind xs).map deadLines = (ofKind kind ys).map deadLines := by
  induction h with
  | nil => rfl
  | @cons i j xs ys same _ ih =>
    have lines : deadLines i = deadLines j := by
      rw [deadLines, deadLines, same.2.1, same.2.2]
    simp only [ofKind, List.filter_cons, same.1] at ih ⊢
    split
    · rw [List.map_cons, List.map_cons, lines, ih]
    · exact ih

/-! ## The score -/

/-- The score depends on the number of dead lines and on the numbers of duplicates and of packages up to
twelve and fourteen.  So issues may come in any order, issues of other sorts may come in anywhere, and of an
issue only the sort and the lines matter. -/
theorem healthScore_by_counts :
    (∀ xs ys, CountAlike xs ys → healthScore xs = healthScore ys) ∧
      (∀ xs ys : List Issue, xs.Perm ys → healthScore xs = healthScore ys) ∧
      (∀ xs others ys : List Issue, (∀ i ∈ others, normalizeKind i.kind ∉ scoredKinds) →
        ys.Perm (xs ++ others) → healthScore ys = healthScore xs) ∧
      ∀ xs ys, List.Forall₂ (fun i j : Issue =>
          normalizeKind i.kind = normalizeKind j.kind ∧ i.firstLine = j.firstLine ∧
            i.lastLine = j.lastLine) xs ys →
        healthScore xs = healthScore ys := by
  have counts : ∀ xs ys, CountAlike xs ys → healthScore xs = healthScore ys := by
    intro xs ys alike
    exact Tally.score_eq alike.lines alike.duplicates alike.dependencies
  refine ⟨counts, ?_, ?_, ?_⟩
  · intro xs ys perm
    exact counts _ _ (countAlike_of_perm perm)
  · intro xs others ys unscored perm
    exact (counts _ _ (countAlike_of_perm perm)).trans (counts _ _ (countAlike_append unscored))
  · intro xs ys same
    exact counts _ _ (countAlike_of_spans fun kind _ => .of_eq (map_deadLines_ofKind kind same))

/-- Twelve duplicates cost as much as forty that are spelled in another way, and one span of nine lines as
much as a span of eight with an issue that spans none. -/
theorem healthScore_by_counts_respelled :
    let xs : List Issue := List.replicate 12 { kind := some "duplicate" } ++
      [{ kind := some "dead_code", firstLine := some 1, lastLine := some 10 }]
    let ys : List Issue := List.replicate 40 { kind := some " Duplicates" } ++
      [{ kind := some "Dead Code", firstLine := some 7, lastLine := some 15 },
       { kind := some "dead_code", firstLine := some 9, lastLine := some 9 }]
    CountAlike xs ys ∧ healthScore xs = healthScore ys := by
  intro xs ys
  have alike : CountAlike xs ys := ⟨by decide +kernel, by decide +kernel, by decide +kernel⟩
  exact ⟨alike, healthScore_by_counts.1 xs ys alike⟩

end RepoAudit
