/-! # Code points

A document may spell one half of a surrogate pair without the other.  Such a half is no character, yet
texts that hold it are compared, counted and written again, so none may be lost.  Texts are therefore
*spelled*: a half by a lead and a trail, which are characters for private use; a character that serves as
a lead or a trail in the same way, with a lead of its own; and any other character by itself.  A trail
stands behind a lead only, so a spelling is found in a spelled text exactly where its code points are.

* `spell` – the characters that spell a code point;
* `points` – the code points that characters spell;
* `ofPlain`, `shownForm` – a text of characters spelled, and a spelled text shown.
-/

namespace RepoAudit.Text

/-- Whether a number is one half of a surrogate pair. -/
def isHalf (n : Nat) : Bool :=
  0xd800 ≤ n && n ≤ 0xdfff

def firstTrail : Nat := 0x10d800

/-- The first of the three leads: before a half, before a trail, and before a lead. -/
def firstLead : Nat := 0x10e000

def lead (kind : Nat) : Char := Char.ofNat (firstLead + kind)

def trail (i : Nat) : Char := Char.ofNat (firstTrail + i)

/-- Whether a character is a trail, which belongs to the lead before it. -/
def isTrail (c : Char) : Bool :=
  firstTrail ≤ c.toNat && c.toNat < firstTrail + 0x800

def spell (n : Nat) : List Char :=
  if isHalf n then [lead 0, trail (n - 0xd800)]
  else if firstTrail ≤ n && n < firstTrail + 0x800 then [lead 1, trail (n - firstTrail)]
  else if firstLead ≤ n && n < firstLead + 3 then [lead 2, trail (n - firstLead)]
  else [Char.ofNat n]

def pairPoint? (c d : Char) : Option Nat :=
  if !isTrail d then none
  else if c = lead 0 then some (0xd800 + (d.toNat - firstTrail))
  else if c = lead 1 then some d.toNat
  else if c = lead 2 then some (firstLead + (d.toNat - firstTrail))
  else none

def points : List Char → List Nat
  | [] => []
  | [c] => [c.toNat]
  | c :: d :: cs =>
    match pairPoint? c d with
    | some n => n :: points cs
    | none => c.toNat :: points (d :: cs)

/-! ## Leads -/

theorem toNat_ofNat {n : Nat} (h : n < 0x110000) (half : isHalf n = false) :
    (Char.ofNat n).toNat = n := by
  have valid : n.isValidChar := by
    simp only [isHalf, Bool.and_eq_false_iff, decide_eq_false_iff_not] at half
    simp only [Nat.isValidChar]
    omega
  rw [Char.ofNat, dif_pos valid]
  rfl

theorem isHalf_of_lt {n : Nat} (h : 0xdfff < n) : isHalf n = false := by
  simp only [isHalf, Bool.and_eq_false_iff, decide_eq_false_iff_not]
  omega

theorem toNat_lead {kind : Nat} (h : kind < 3) : (lead kind).toNat = firstLead + kind :=
  toNat_ofNat (by simp only [firstLead]; omega) (isHalf_of_lt (by simp only [firstLead]; omega))

/-! ## Texts -/

def codePoints (s : String) : List Nat :=
  points s.toList

def ofPoints (ns : List Nat) : String :=
  String.ofList (ns.flatMap spell)

def spellChars (cs : List Char) : List Char :=
  cs.flatMap fun c => spell c.toNat

/-- The spelled form of a text of characters. -/
def ofPlain (s : String) : String :=
  String.ofList (spellChars s.toList)

/-- A spelled text as it is shown, where a half has no form of its own. -/
def shownForm (s : String) : String :=
  String.ofList ((codePoints s).map fun n => if isHalf n then Char.ofNat 0xfffd else Char.ofNat n)

/-- Whether a text holds a lone half, so that it cannot be encoded. -/
def holdsHalf (s : String) : Bool :=
  (codePoints s).any isHalf

def countPoints (cs : List Char) : Nat :=
  (points cs).length

def eachPoint (s : String) : List String :=
  (codePoints s).map fun n => String.ofList (spell n)

end RepoAudit.Text
