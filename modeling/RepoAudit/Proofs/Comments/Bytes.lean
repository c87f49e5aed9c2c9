import RepoAudit.Proofs.Text.Ends
import RepoAudit.Source

/-! # Comments in place of white space

When comments take the place of white space, every byte that is not white space stays where it is, and
so does every line end.  A text that starts with certain visible characters still does, unless a comment
comes first: a comment starts with a slash.

* `Source.fills` – bytes in which comments take the place of white space;
* `row_eq_of_fills`, `column_eq_of_fills` – places have the same line and column;
* `Utf8.toList_decodeLossy_eq_append_iff` – visible characters of ASCII are read from their own bytes;
* `startsWith_of_fills`, `decodeLossy_eq_iff_of_fills` – texts start alike before and after.
-/

namespace RepoAudit

/-! ## Reading visible characters -/

namespace Text

def IsGraphic (c : Char) : Prop := 0x20 < c.toNat ∧ c.toNat < 0x7f

instance (c : Char) : Decidable (IsGraphic c) := inferInstanceAs (Decidable (_ ∧ _))

theorem IsGraphic.isPlain {c : Char} (h : IsGraphic c) : IsPlain c := by
  have := h.2
  unfold IsPlain
  omega

theorem spell_of_isPlain {c : Char} (h : IsPlain c) : spell c.toNat = [c] := by
  have far : 0x80 ≤ firstTrail ∧ 0x80 ≤ firstLead := by decide
  have small : c.toNat < 0x80 := h
  have noHalf : isHalf c.toNat = false := by
    simp only [isHalf, Bool.and_eq_false_iff, decide_eq_false_iff_not]
    omega
  have noTrail : (firstTrail ≤ c.toNat && c.toNat < firstTrail + 0x800) = false := by
    simp only [Bool.and_eq_false_iff, decide_eq_false_iff_not]
    omega
  have noLead : (firstLead ≤ c.toNat && c.toNat < firstLead + 3) = false := by
    simp only [Bool.and_eq_false_iff, decide_eq_false_iff_not]
    omega
  simp [spell, noHalf, noTrail, noLead, Char.ofNat_toNat]

/-- What cannot be seen is not spelled with something that can be seen first. -/
theorem spell_of_not_isGraphic {c : Char} (h : ¬ IsGraphic c) :
    ∃ d ds, spell c.toNat = d :: ds ∧ ¬ IsGraphic d := by
  have far : ∀ kind < 3, ¬ IsGraphic (lead kind) := by
    intro kind small visible
    have high : 0x80 ≤ firstLead := by decide
    have := visible.2
    rw [toNat_lead small] at this
    omega
  unfold spell
  split
  · exact ⟨_, _, rfl, far 0 (by decide)⟩
  · split
    · exact ⟨_, _, rfl, far 1 (by decide)⟩
    · split
      · exact ⟨_, _, rfl, far 2 (by decide)⟩
      · exact ⟨_, _, rfl, by rwa [Char.ofNat_toNat]⟩

namespace Utf8

theorem run_cons (st : State) (b : UInt8) (bs : List UInt8) :
    run st (b :: bs) = (step st b).1 ++ run (step st b).2 bs := by
  cases st <;> rfl

/-- A number beyond ASCII is not read as something that can be seen. -/
theorem not_isGraphic_ofNat {n : Nat} (h : 0x80 ≤ n) : ¬ IsGraphic (Char.ofNat n) := by
  rintro ⟨low, high⟩
  by_cases valid : n.isValidChar
  · have same : (Char.ofNat n).toNat = n := by
      rw [Char.ofNat, dif_pos valid]
      rfl
    omega
  · rw [Char.ofNat, dif_neg valid] at low
    exact absurd low (by decide)

/-- The number that is being read will be beyond ASCII. -/
def BeyondAscii (owed : Nat) (low high : UInt8) (value : Nat) : Prop :=
  2 ≤ value ∨ 2 ≤ owed ∧ (1 ≤ value ∨ 0x90 ≤ low.toNat ∧ high.toNat ≤ 0xbf)

/-- Inside a character the next piece cannot be seen. -/
theorem run_inside {owed : Nat} {low high : UInt8} {value : Nat}
    (beyond : BeyondAscii owed low high value) (bs : List UInt8) :
    ∃ x rest, run (.inside owed low high value) bs = x :: rest ∧
      ∀ c, x = some c → ¬ IsGraphic c := by
  induction bs generalizing owed low high value with
  | nil => exact ⟨none, [], rfl, by simp⟩
  | cons b rest ih =>
    rw [run_cons]
    by_cases bounded : (low ≤ b && b ≤ high) = true
    · rw [step, if_pos bounded]
      simp only [Bool.and_eq_true, decide_eq_true_eq, UInt8.le_iff_toNat_le] at bounded
      -- one more byte brings a number that was promised to be beyond ASCII to at least two
      have large : 2 ≤ value * 64 + b.toNat % 64 := by
        rcases beyond with _ | ⟨_, _ | ⟨_, _⟩⟩ <;> omega
      by_cases done : owed = 1
      · rw [if_pos done]
        refine ⟨_, _, rfl, fun c same => ?_⟩
        cases same
        rcases beyond with _ | ⟨_, -⟩
        · exact not_isGraphic_ofNat (by omega)
        · omega
      · rw [if_neg done]
        exact ih (.inl large)
    · rw [step, if_neg bounded]
      exact ⟨none, _, rfl, by simp⟩

/-- A byte beyond ASCII is not read as something that can be seen. -/
theorem run_beyond {b : UInt8} (h : ¬ b < 0x80) (bs : List UInt8) :
    ∃ x rest, run .between (b :: bs) = x :: rest ∧ ∀ c, x = some c → ¬ IsGraphic c := by
  rw [run_cons, step, start, if_neg h]
  -- after `0xe0` and `0xf0` the number is still zero, and the bounds of the next byte count
  split_ifs with two firstThree surrogate three firstFour four lastFour
  · simp only [Bool.and_eq_true, decide_eq_true_eq, UInt8.le_iff_toNat_le, UInt8.reduceToNat] at two
    exact run_inside (.inl (by omega)) bs
  · exact run_inside (.inr ⟨by decide, .inr (by decide)⟩) bs
  · exact run_inside (.inl (by decide)) bs
  · simp only [Bool.and_eq_true, decide_eq_true_eq, UInt8.le_iff_toNat_le, UInt8.reduceToNat] at three
    exact run_inside (.inr ⟨by decide, .inl (by omega)⟩) bs
  · exact run_inside (.inr ⟨by decide, .inr (by decide)⟩) bs
  · simp only [Bool.and_eq_true, decide_eq_true_eq, UInt8.le_iff_toNat_le, UInt8.reduceToNat] at four
    exact run_inside (.inr ⟨by decide, .inl (by omega)⟩) bs
  · exact run_inside (.inl (by decide)) bs
  · exact ⟨none, _, rfl, by simp⟩

def byteOf (c : Char) : UInt8 := UInt8.ofNat c.toNat

theorem toNat_byteOf {c : Char} (h : IsPlain c) : (byteOf c).toNat = c.toNat := by
  have small : c.toNat < 0x80 := h
  simp only [byteOf, UInt8.toNat_ofNat']
  omega

theorem toNat_ofNat_toNat (b : UInt8) : (Char.ofNat b.toNat).toNat = b.toNat := by
  have := b.toNat_lt
  have noHalf : isHalf b.toNat = false := by
    simp only [isHalf, Bool.and_eq_false_iff, decide_eq_false_iff_not]
    omega
  exact toNat_ofNat (by omega) noHalf

theorem ofNat_toNat_eq_iff {b : UInt8} {c : Char} (h : IsPlain c) :
    Char.ofNat b.toNat = c ↔ b = byteOf c := by
  constructor
  · rintro rfl
    rw [← UInt8.toNat_inj, toNat_byteOf h, toNat_ofNat_toNat]
  · rintro rfl
    rw [toNat_byteOf h, Char.ofNat_toNat]

theorem decodeLossy_cons {b : UInt8} (h : b < 0x80) (bs : List UInt8) :
    (decodeLossy (b :: bs)).toList = Char.ofNat b.toNat :: (decodeLossy bs).toList := by
  have plain : IsPlain (Char.ofNat b.toNat) := by
    rw [IsPlain, toNat_ofNat_toNat]
    exact UInt8.lt_iff_toNat_lt.1 h
  simp [decodeLossy, pieces, run_cons, step, start, h, spellChars, spell_of_isPlain plain]

theorem decodeLossy_beyond {b : UInt8} (h : ¬ b < 0x80) (bs : List UInt8) :
    ∃ d ds, (decodeLossy (b :: bs)).toList = d :: ds ∧ ¬ IsGraphic d := by
  obtain ⟨x, rest, read, unseen⟩ := run_beyond h bs
  have hidden : ¬ IsGraphic (x.getD replacement) := by
    cases x with
    | none => decide
    | some c => exact unseen c rfl
  obtain ⟨d, ds, spelled, unseen⟩ := spell_of_not_isGraphic hidden
  refine ⟨d, ds ++ spellChars (rest.map (·.getD replacement)), ?_, unseen⟩
  simp [decodeLossy, pieces, read, spellChars, spelled]

/-- Visible characters at the start of a text are read from their own bytes. -/
theorem toList_decodeLossy_eq_append_iff {start rest : List Char} (h : ∀ c ∈ start, IsGraphic c)
    {bs : List UInt8} :
    (decodeLossy bs).toList = start ++ rest ↔
      ∃ more, bs = start.map byteOf ++ more ∧ (decodeLossy more).toList = rest := by
  induction start generalizing bs with
  | nil => simp
  | cons c start ih =>
    have visible : IsGraphic c := h c (by simp)
    have onward := @ih fun d mem => h d (by simp [mem])
    cases bs with
    | nil => simp [decodeLossy, pieces, run, spellChars]
    | cons b bs =>
      simp only [List.cons_append, List.map_cons, List.cons.injEq]
      by_cases ascii : b < 0x80
      · rw [decodeLossy_cons ascii, List.cons.injEq, ofNat_toNat_eq_iff visible.isPlain, onward]
        simp only [and_assoc, exists_and_left]
      · -- neither side holds: a byte beyond ASCII is read as something else than `c`
        obtain ⟨d, ds, read, unseen⟩ := decodeLossy_beyond ascii bs
        have other : d ≠ c := fun same => unseen (same ▸ visible)
        have otherByte : b ≠ byteOf c := by
          rintro rfl
          refine ascii (UInt8.lt_iff_toNat_lt.2 ?_)
          rw [toNat_byteOf visible.isPlain]
          exact visible.isPlain
        simp [read, other, otherByte]

theorem decodeLossy_eq_empty_iff {bs : List UInt8} : (decodeLossy bs).toList = [] ↔ bs = [] := by
  cases bs with
  | nil => simp [decodeLossy, pieces, run, spellChars]
  | cons b bs =>
    by_cases ascii : b < 0x80
    · simp [decodeLossy_cons ascii]
    · obtain ⟨d, ds, read, -⟩ := decodeLossy_beyond ascii bs
      simp [read]

theorem startsWith_decodeLossy_iff {bs : List UInt8} {s : String} (h : ∀ c ∈ s.toList, IsGraphic c) :
    startsWith (decodeLossy bs) s = true ↔ ∃ more, bs = s.toList.map byteOf ++ more := by
  rw [startsWith, List.isPrefixOf_iff_prefix]
  constructor
  · rintro ⟨rest, read⟩
    obtain ⟨more, bytes, -⟩ := (toList_decodeLossy_eq_append_iff h).1 read.symm
    exact ⟨more, bytes⟩
  · rintro ⟨more, rfl⟩
    exact ⟨_, ((toList_decodeLossy_eq_append_iff h).2 ⟨more, rfl, rfl⟩).symm⟩

theorem decodeLossy_eq_iff {bs : List UInt8} {s : String} (h : ∀ c ∈ s.toList, IsGraphic c) :
    decodeLossy bs = s ↔ bs = s.toList.map byteOf := by
  rw [← String.toList_inj, ← List.append_nil s.toList, toList_decodeLossy_eq_append_iff h]
  simp only [decodeLossy_eq_empty_iff, exists_eq_right, List.append_nil]

end Utf8

end Text

/-! ## White space and comments -/

namespace Source

def isGraphic (b : UInt8) : Bool := 0x20 < b && b < 0x7f

/-- The byte with which a comment starts. -/
def slash : UInt8 := 47

/-- Whether bytes come out of others by putting comments in the place of white space; `inside` says that
a comment has begun.  Nothing that could be seen changes, and line ends stay where they are. -/
def fills (inside : Bool) : List UInt8 → List UInt8 → Bool
  | [], [] => true
  | b :: old, b' :: new =>
    (b == b' && fills false old new) ||
      (!isGraphic b && (b == lineEnd) == (b' == lineEnd) && (inside || b' == slash) &&
        fills true old new)
  | _, _ => false

/-! ### Lines -/

theorem map_lineEnd_of_fills {inside : Bool} {old new : List UInt8} (h : fills inside old new = true) :
    new.map (· == lineEnd) = old.map (· == lineEnd) := by
  induction old generalizing inside new with
  | nil =>
    cases new with
    | nil => rfl
    | cons b' new => simp [fills] at h
  | cons b old ih =>
    cases new with
    | nil => simp [fills] at h
    | cons b' new =>
      simp only [fills, Bool.or_eq_true, Bool.and_eq_true, beq_iff_eq] at h
      rcases h with ⟨rfl, rest⟩ | ⟨⟨⟨-, ends⟩, -⟩, rest⟩
      · rw [List.map_cons, List.map_cons, ih rest]
      · rw [List.map_cons, List.map_cons, ih rest, ends]

variable {f f' : Source}

theorem row_eq_of_fills (h : fills false f.bytes f'.bytes = true) (offset : Nat) :
    f'.row offset = f.row offset := by
  have counted : ∀ g : Source,
      g.row offset = ((g.bytes.map (· == lineEnd)).take offset).count true := by
    intro g
    rw [row, ← List.map_take, List.count_eq_countP, List.count_eq_countP, List.countP_map]
    congr 1
    funext b
    simp
  rw [counted, counted, map_lineEnd_of_fills h]

theorem column_eq_of_fills (h : fills false f.bytes f'.bytes = true) (offset : Nat) :
    f'.column offset = f.column offset := by
  have counted : ∀ g : Source, g.column offset =
      (((g.bytes.map (· == lineEnd)).take offset).reverse.takeWhile (! ·)).length := by
    intro g
    rw [column, ← List.map_take, ← List.map_reverse, List.takeWhile_map, List.length_map]
    rfl
  rw [counted, counted, map_lineEnd_of_fills h]

/-! ### The start of a text -/

/-- What could be seen at the start is there still. -/
theorem exists_of_fills_append {start old new : List UInt8} (visible : ∀ b ∈ start, isGraphic b = true)
    (h : fills false (start ++ old) new = true) :
    ∃ more, new = start ++ more ∧ fills false old more = true := by
  induction start generalizing new with
  | nil => exact ⟨new, rfl, h⟩
  | cons b start ih =>
    cases new with
    | nil => simp [fills] at h
    | cons b' new =>
      -- nothing is put in the place of what can be seen
      simp only [List.cons_append, fills, visible b (by simp), Bool.not_true, Bool.false_and,
        Bool.or_false, Bool.and_eq_true, beq_iff_eq] at h
      obtain ⟨rfl, rest⟩ := h
      obtain ⟨more, rfl, filled⟩ := ih (fun c mem => visible c (by simp [mem])) rest
      exact ⟨more, rfl, filled⟩

/-- What can be seen at the start, before the first slash, was there already. -/
theorem exists_of_fills_eq_append {start old new : List UInt8} (noSlash : slash ∉ start)
    (h : fills false old (start ++ new) = true) :
    ∃ more, old = start ++ more ∧ fills false more new = true := by
  induction start generalizing old with
  | nil => exact ⟨old, rfl, h⟩
  | cons b' start ih =>
    cases old with
    | nil => simp [fills] at h
    | cons b old =>
      -- no comment starts here
      have other : (b' == slash) = false := by
        rw [beq_eq_false_iff_ne]
        rintro rfl
        simp at noSlash
      simp only [List.cons_append, fills, other, Bool.or_self, Bool.and_false, Bool.false_and,
        Bool.or_false, Bool.and_eq_true, beq_iff_eq] at h
      obtain ⟨rfl, rest⟩ := h
      obtain ⟨more, rfl, filled⟩ := ih (fun mem => noSlash (by simp [mem])) rest
      exact ⟨more, rfl, filled⟩

theorem eq_nil_iff_of_fills {old new : List UInt8} (h : fills false old new = true) :
    new = [] ↔ old = [] := by
  cases old <;> cases new <;> simp_all [fills]

theorem isGraphic_byteOf {c : Char} (h : Text.IsGraphic c) :
    isGraphic (Text.Utf8.byteOf c) = true := by
  obtain ⟨low, high⟩ := id h
  have same := Text.Utf8.toNat_byteOf h.isPlain
  simp only [isGraphic, Bool.and_eq_true, decide_eq_true_eq, UInt8.lt_iff_toNat_lt, same]
  exact ⟨low, high⟩

theorem slash_notMem_map_byteOf {cs : List Char} (visible : ∀ c ∈ cs, Text.IsGraphic c)
    (noSlash : '/' ∉ cs) : slash ∉ cs.map Text.Utf8.byteOf := by
  intro mem
  obtain ⟨c, inside, same⟩ := List.mem_map.1 mem
  have number : c.toNat = 47 := by
    rw [← Text.Utf8.toNat_byteOf (visible c inside).isPlain, same]
    rfl
  have isSlash : c = '/' := Char.toNat_inj.1 number
  exact noSlash (isSlash ▸ inside)

section start

variable {old new : List UInt8} {s : String}

/-- Texts before and after start with the same visible characters. -/
theorem startsWith_of_fills (h : fills false old new = true)
    (visible : ∀ c ∈ s.toList, Text.IsGraphic c) (noSlash : '/' ∉ s.toList) :
    Text.startsWith (Text.Utf8.decodeLossy new) s = Text.startsWith (Text.Utf8.decodeLossy old) s := by
  have bytes : ∀ b ∈ s.toList.map Text.Utf8.byteOf, isGraphic b = true :=
    List.forall_mem_map.2 fun c mem => isGraphic_byteOf (visible c mem)
  rw [Bool.eq_iff_iff, Text.Utf8.startsWith_decodeLossy_iff visible,
    Text.Utf8.startsWith_decodeLossy_iff visible]
  constructor
  · rintro ⟨more, rfl⟩
    obtain ⟨rest, rfl, -⟩ := exists_of_fills_eq_append (slash_notMem_map_byteOf visible noSlash) h
    exact ⟨rest, rfl⟩
  · rintro ⟨more, rfl⟩
    obtain ⟨rest, rfl, -⟩ := exists_of_fills_append bytes h
    exact ⟨rest, rfl⟩

/-- A text of visible characters is the same before and after. -/
theorem decodeLossy_eq_iff_of_fills (h : fills false old new = true)
    (visible : ∀ c ∈ s.toList, Text.IsGraphic c) (noSlash : '/' ∉ s.toList) :
    Text.Utf8.decodeLossy new = s ↔ Text.Utf8.decodeLossy old = s := by
  have bytes : ∀ b ∈ s.toList.map Text.Utf8.byteOf, isGraphic b = true :=
    List.forall_mem_map.2 fun c mem => isGraphic_byteOf (visible c mem)
  rw [Text.Utf8.decodeLossy_eq_iff visible, Text.Utf8.decodeLossy_eq_iff visible]
  constructor
  · rintro rfl
    rw [← List.append_nil (s.toList.map _)] at h
    obtain ⟨rest, rfl, filled⟩ :=
      exists_of_fills_eq_append (slash_notMem_map_byteOf visible noSlash) h
    rw [(eq_nil_iff_of_fills filled).1 rfl, List.append_nil]
  · rintro rfl
    rw [← List.append_nil (s.toList.map _)] at h
    obtain ⟨rest, rfl, filled⟩ := exists_of_fills_append bytes h
    rw [(eq_nil_iff_of_fills filled).2 rfl, List.append_nil]

end start

end Source

end RepoAudit
