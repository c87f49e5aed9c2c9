import Mathlib.Data.Bool.AllAny
import Mathlib.Data.List.Basic
import RepoAudit.Path

/-! # Ends of texts

Patterns look at the code points of a text, and languages at its characters.  For plain characters this
is the same.  The last name of a path with slashes is found at its end either way.

* `points_append_cons` – code points of two texts one after the other;
* `suffix_points_iff` – an end of plain characters is an end of code points;
* `suffix_joinWith_iff` – a path ends in whatever its last name ends in, if that holds no slash;
* `suffix_eq_iff` – when a name has a certain extension;
* `name_joinWith` – the last name of a path;
* `byteCount_joinWith_le` – a path is no shorter than the path of a directory above it.
-/

namespace RepoAudit

namespace Text

/-! ## Code points and plain characters -/

/-- Code points of two texts one after the other, when the second does not start with a trail. -/
theorem points_append_cons (cs : List Char) {d : Char} (ds : List Char) (h : isTrail d = false) :
    points (cs ++ d :: ds) = points cs ++ points (d :: ds) := by
  fun_induction points cs with
  | case1 => rfl
  | case2 c => simp [points, pairPoint?, h]
  | case3 c e cs n paired ih => simp [points, paired, ih]
  | case4 c e cs unpaired ih => simp_all [points]

def IsPlain (c : Char) : Prop := c.toNat < 0x80

instance (c : Char) : Decidable (IsPlain c) := inferInstanceAs (Decidable (_ < _))

theorem IsPlain.isTrail {c : Char} (h : IsPlain c) : isTrail c = false := by
  have far : 0x80 ≤ firstTrail := by decide
  unfold IsPlain at h
  simp only [Text.isTrail, Bool.and_eq_false_iff, decide_eq_false_iff_not]
  omega

theorem le_of_pairPoint? {c d : Char} {n : Nat} (h : pairPoint? c d = some n) : 0x80 ≤ n := by
  have far : 0x80 ≤ firstTrail ∧ 0x80 ≤ firstLead := by decide
  unfold pairPoint? at h
  split at h
  · cases h
  · rename_i trailed
    simp only [isTrail, Bool.not_eq_true', Bool.and_eq_false_iff, decide_eq_false_iff_not, not_or,
      Decidable.not_not] at trailed
    split at h
    · have value := Option.some.inj h
      omega
    · split at h
      · have value := Option.some.inj h
        omega
      · split at h
        · have value := Option.some.inj h
          omega
        · cases h

theorem points_plain {cs : List Char} (h : ∀ c ∈ cs, IsPlain c) : points cs = cs.map Char.toNat := by
  induction cs with
  | nil => rfl
  | cons c rest ih =>
    cases rest with
    | nil => rfl
    | cons d rest =>
      have single : pairPoint? c d = none := by
        simp [pairPoint?, (h d (by simp)).isTrail]
      simp only [points, single, List.map_cons]
      rw [ih fun e mem => h e (by simp_all)]
      rfl

theorem eq_of_points_eq {cs tail : List Char} (h : ∀ c ∈ tail, IsPlain c)
    (same : points cs = tail.map Char.toNat) : cs = tail := by
  fun_induction points cs generalizing tail with
  | case1 => simpa using same.symm
  | case2 c =>
    obtain ⟨d, rest⟩ : ∃ d, tail = [d] := by
      rcases tail with _ | ⟨d, _ | ⟨e, rest⟩⟩ <;> simp_all
    simp_all [Char.toNat_inj]
  | case3 c d cs n paired ih =>
    cases tail with
    | nil => simp at same
    | cons e rest =>
      have low := h e (by simp)
      have high := le_of_pairPoint? paired
      simp only [List.map_cons, List.cons.injEq] at same
      unfold IsPlain at low
      omega
  | case4 c d cs unpaired ih =>
    cases tail with
    | nil => simp at same
    | cons e rest =>
      simp only [List.map_cons, List.cons.injEq, Char.toNat_inj] at same
      rw [same.1, ih (fun f mem => h f (by simp [mem])) same.2]

/-- A text ends in plain characters exactly when its code points end in theirs. -/
theorem suffix_points_iff {cs tail : List Char} (h : ∀ c ∈ tail, IsPlain c) :
    tail.map Char.toNat <:+ points cs ↔ tail <:+ cs := by
  constructor
  · intro ends
    fun_induction points cs with
    | case1 => simpa using ends
    | case2 c =>
      rcases List.suffix_cons_iff.1 ends with whole | inner
      · have same : points [c] = tail.map Char.toNat := by
          simp [points, whole]
        exact (eq_of_points_eq h same).symm ▸ List.suffix_refl _
      · have : tail = [] := by simpa using inner
        simp [this]
    | case3 c d cs n paired ih =>
      rcases List.suffix_cons_iff.1 ends with whole | inner
      · have same : points (c :: d :: cs) = tail.map Char.toNat := by
          simp [points, paired, whole]
        exact (eq_of_points_eq h same).symm ▸ List.suffix_refl _
      · exact ((ih inner).trans (List.suffix_cons d cs)).trans (List.suffix_cons c _)
    | case4 c d cs unpaired ih =>
      rcases List.suffix_cons_iff.1 ends with whole | inner
      · have same : points (c :: d :: cs) = tail.map Char.toNat := by
          simp [points, unpaired, whole]
        exact (eq_of_points_eq h same).symm ▸ List.suffix_refl _
      · exact (ih inner).trans (List.suffix_cons c _)
  · rintro ⟨front, rfl⟩
    cases tail with
    | nil => simp
    | cons d rest =>
      rw [points_append_cons front rest (h d (by simp)).isTrail, points_plain h]
      exact List.suffix_append _ _

/-! ## Joined and cut texts -/

theorem toList_joinWith_append {parts more : List String} (sep : Char) (h : parts ≠ [])
    (h' : more ≠ []) :
    (joinWith sep (parts ++ more)).toList =
      (joinWith sep parts).toList ++ sep :: (joinWith sep more).toList := by
  rw [joinWith, String.intercalate_append_of_ne_nil h h']
  simp [joinWith, String.toList_append]

theorem joinWith_singleton (sep : Char) (s : String) : joinWith sep [s] = s :=
  String.intercalate_singleton

/-- A path ends in whatever its last name ends in, as long as no slash is asked for. -/
theorem suffix_joinWith_iff {sep : Char} {parts : List String} {last : String} {tail : List Char}
    (h : sep ∉ tail) :
    tail <:+ (joinWith sep (parts ++ [last])).toList ↔ tail <:+ last.toList := by
  by_cases alone : parts = []
  · subst alone
    rw [List.nil_append, joinWith_singleton]
  · rw [toList_joinWith_append sep alone (by simp), joinWith_singleton]
    constructor
    · intro ends
      by_cases short : tail.length ≤ last.toList.length
      · refine List.suffix_of_suffix_length_le ends ?_ short
        exact (List.suffix_cons sep _).trans (List.suffix_append _ _)
      · -- a longer end would reach over the separator
        have inner : sep :: last.toList <:+ tail := by
          refine List.suffix_of_suffix_length_le (List.suffix_append _ _) ends ?_
          simp only [List.length_cons]
          omega
        exact absurd (inner.subset (by simp)) h
    · intro ends
      exact (ends.trans (List.suffix_cons sep _)).trans (List.suffix_append _ _)

theorem splitChars_ne_nil (sep : Char) (cs : List Char) : splitChars sep cs ≠ [] := by
  cases cs with
  | nil => simp [splitChars]
  | cons c rest =>
    rw [splitChars]
    split
    · simp
    · split <;> simp

/-- A separator ends one part and starts the next. -/
theorem splitChars_append_cons (sep : Char) (cs ds : List Char) :
    splitChars sep (cs ++ sep :: ds) = splitChars sep cs ++ splitChars sep ds := by
  induction cs with
  | nil => simp [splitChars]
  | cons c rest ih =>
    by_cases same : c = sep
    · simp [splitChars, same, ih]
    · simp only [List.cons_append, splitChars, same, ↓reduceIte, ih]
      cases cut : splitChars sep rest with
      | nil => exact absurd cut (splitChars_ne_nil sep rest)
      | cons part parts => simp

theorem splitChars_of_notMem {sep : Char} {cs : List Char} (h : sep ∉ cs) : splitChars sep cs = [cs] := by
  induction cs with
  | nil => rfl
  | cons c rest ih =>
    simp only [List.mem_cons, not_or] at h
    simp [splitChars, Ne.symm h.1, ih h.2]

end Text

namespace Path

open Text

/-! ## Names at the end of paths -/

/-- The last name of a path. -/
theorem name_joinWith {parts : List String} {last : String} (noSlash : '/' ∉ last.toList)
    (nonempty : last ≠ "") (noDot : last ≠ ".") : name (joinWith '/' (parts ++ [last])) = last := by
  have single : splitOn '/' last = [last] := by
    simp [splitOn, splitChars_of_notMem noSlash]
  have ends : ∃ front, splitOn '/' (joinWith '/' (parts ++ [last])) = front ++ [last] := by
    by_cases alone : parts = []
    · exact ⟨[], by rw [alone, List.nil_append, joinWith_singleton, single]⟩
    · refine ⟨splitOn '/' (joinWith '/' parts), ?_⟩
      rw [splitOn, toList_joinWith_append '/' alone (by simp), splitChars_append_cons, List.map_append,
        joinWith_singleton, ← splitOn, ← splitOn, single]
  obtain ⟨front, cut⟩ := ends
  simp [name, plainParts, cut, List.filter_append, nonempty, noDot]

/-- A name has an extension of plain letters exactly when it ends in it and is longer. -/
theorem suffix_eq_iff {s : String} {letters : List Char} (some_letter : letters ≠ [])
    (noDot : '.' ∉ letters) :
    suffix s = String.ofList ('.' :: letters) ↔
      '.' :: letters <:+ s.toList ∧ s ≠ String.ofList ('.' :: letters) := by
  have cutting : ∀ front, ((front ++ '.' :: letters).reverse.takeWhile (· != '.')).reverse = letters := by
    intro front
    have passed : ∀ c ∈ letters.reverse, (c != '.') = true := by
      intro c mem
      rw [List.mem_reverse] at mem
      simpa using fun same : c = '.' => noDot (same ▸ mem)
    simp [List.takeWhile_append_of_pos passed]
  unfold suffix
  dsimp only
  constructor
  · intro h
    split at h
    · rename_i longer
      simp only [Bool.and_eq_true, decide_eq_true_eq] at longer
      have chars := congrArg String.toList h
      have tail : (s.toList.reverse.takeWhile (· != '.')).reverse = letters := by
        simpa using chars
      have parts := List.takeWhile_append_dropWhile (p := (· != '.')) (l := s.toList.reverse)
      have stopped := List.head?_dropWhile_not (· != '.') s.toList.reverse
      cases rest : s.toList.reverse.dropWhile (· != '.') with
      | nil =>
        have lengths := congrArg List.length parts
        simp only [rest, List.append_nil, List.length_reverse] at lengths longer
        omega
      | cons d front =>
        obtain rfl : d = '.' := by simpa [rest] using stopped
        have backward : s.toList.reverse = letters.reverse ++ '.' :: front := by
          rw [← tail, List.reverse_reverse, ← rest, parts]
        have whole : s.toList = front.reverse ++ '.' :: letters := by
          rw [← List.reverse_inj, backward]
          simp
        refine ⟨⟨front.reverse, whole.symm⟩, ?_⟩
        rintro rfl
        rw [tail] at longer
        simp at longer
    · have chars := congrArg String.toList h
      simp at chars
  · rintro ⟨⟨front, whole⟩, longer⟩
    have tail := cutting front
    rw [whole] at tail
    have some_front : front ≠ [] := by
      rintro rfl
      exact longer (String.toList_inj.1 (by simpa using whole.symm))
    have length : letters.length + 1 < s.toList.length := by
      have := List.length_pos_of_ne_nil some_front
      rw [← whole, List.length_append, List.length_cons]
      omega
    rw [tail]
    simp [length, some_letter]

/-- A path is no shorter than that of a directory above it. -/
theorem byteCount_joinWith_le {parts : List String} (h : parts ≠ []) (more : List String) :
    byteCount (joinWith '/' parts) ≤ byteCount (joinWith '/' (parts ++ more)) := by
  have additive : ∀ ns ms : List Nat, total (ns ++ ms) = total ns + total ms := by
    intro ns ms
    induction ns with
    | nil => simp [total]
    | cons n rest ih => simp_all [total, Nat.add_assoc]
  by_cases none_more : more = []
  · simp [none_more]
  · have slash : isTrail '/' = false := by decide
    rw [byteCount, byteCount, codePoints, codePoints, toList_joinWith_append '/' h none_more,
      points_append_cons _ _ slash, List.map_append, additive]
    exact Nat.le_add_right _ _

end Path

end RepoAudit
