import RepoAudit.Text.CodePoint

/-! # Wildcards

Patterns for names: `*` stands for any text, `?` for any code point, and brackets for one code point
of a set.

* `PointSet.parse` – the set between brackets;
* `Wildcard.parse` – a pattern;
* `Wildcard.acceptsPoints` – which texts a pattern means;
* `Wildcard.accepts` – whether a pattern accepts a text, found in time that grows with the product of
  their lengths.
-/

namespace RepoAudit

/-- A set of code points: single ones and ranges, or everything else. -/
structure PointSet where
  negated : Bool
  singles : List Nat
  ranges : List (Nat × Nat)
  deriving Repr, DecidableEq

namespace PointSet

def bang : Nat := '!'.toNat

def hyphen : Nat := '-'.toNat

def contains (s : PointSet) (n : Nat) : Bool :=
  (s.singles.contains n || s.ranges.any fun r => r.1 ≤ n && n ≤ r.2) != s.negated

/-- Cuts what stands between brackets at the hyphens that make ranges.  A hyphen makes none at the
front, right after the end of a range, or at the end; `skip` counts the code points before the next
hyphen that can make one, and `chunk` holds the current piece, the last code point first. -/
def cut (skip : Nat) (chunk : List Nat) : List Nat → List (List Nat)
  | [] => [chunk.reverse]
  | n :: ns =>
    match skip with
    | 0 => if n = hyphen then chunk.reverse :: cut 2 [] ns else cut 0 (n :: chunk) ns
    | skip + 1 => cut skip (n :: chunk) ns

/-- A hyphen at the very end belongs to the piece before it. -/
def closeCut : List (List Nat) → List (List Nat)
  | [] => []
  | [a, []] => [a ++ [hyphen]]
  | a :: rest => a :: closeCut rest

/-- Drops ranges that run backwards, from the last to the first: both ends vanish, and the pieces
around the hyphen become one. -/
def dropBackward : List (List Nat) → List (List Nat)
  | [] => []
  | a :: rest =>
    match dropBackward rest with
    | [] => [a]
    | b :: rest' =>
      match a.getLast?, b.head? with
      | some lo, some hi =>
        if hi < lo then (a.dropLast ++ b.drop 1) :: rest' else a :: b :: rest'
      | _, _ => a :: b :: rest'

def rangesOf : List (List Nat) → List (Nat × Nat)
  | a :: b :: rest =>
    match a.getLast?, b.head? with
    | some lo, some hi => (lo, hi) :: rangesOf (b :: rest)
    | _, _ => rangesOf (b :: rest)
  | _ => []

def ofPieces (negated : Bool) (pieces : List (List Nat)) : PointSet :=
  ⟨negated, pieces.flatten, rangesOf pieces⟩

/-- The set between brackets.  An exclamation mark at the front negates it.  A set of backward
ranges only is empty. -/
def parse (inside : List Nat) : PointSet :=
  let pieces :=
    if inside.contains hyphen then
      let lead := if inside.head? = some bang then 2 else 1
      dropBackward (closeCut (cut lead [] inside))
    else [inside]
  match pieces with
  | (n :: first) :: rest =>
    if n = bang then ofPieces true (first :: rest) else ofPieces false ((n :: first) :: rest)
  | pieces => ofPieces false pieces

end PointSet

inductive Wild where
  | point (n : Nat)
  | any
  | many
  | oneOf (s : PointSet)
  deriving Repr, DecidableEq

abbrev Wildcard := List Wild

namespace Wildcard

def opening : Nat := '['.toNat

def closing : Nat := ']'.toNat

def splitFront (n : Nat) (ns : List Nat) : List Nat × List Nat :=
  if ns.head? = some n then ([n], ns.tail) else ([], ns)

/-- Splits what stands after an opening bracket at the bracket that closes it.  A closing bracket at
the front, also after an exclamation mark, belongs to the set. -/
def splitSet? (ns : List Nat) : Option (List Nat × List Nat) :=
  let (mark, afterMark) := splitFront PointSet.bang ns
  let (lead, body) := splitFront closing afterMark
  match body.dropWhile (· != closing) with
  | _ :: rest => some (mark ++ lead ++ body.takeWhile (· != closing), rest)
  | [] => none

/-- Reads a pattern; `fuel` is at least the number of code points.  A bracket that is never closed
stands for itself. -/
def parseFrom : Nat → List Nat → Wildcard
  | 0, _ => []
  | _, [] => []
  | fuel + 1, n :: ns =>
    if n = '*'.toNat then .many :: parseFrom fuel ns
    else if n = '?'.toNat then .any :: parseFrom fuel ns
    else if n = opening then
      match splitSet? ns with
      | some (inside, rest) => .oneOf (PointSet.parse inside) :: parseFrom fuel rest
      | none => .point n :: parseFrom fuel ns
    else .point n :: parseFrom fuel ns

def parse (s : String) : Wildcard :=
  parseFrom s.length (Text.codePoints s)

/-! ## Acceptance -/

def tails : List Nat → List (List Nat)
  | [] => [[]]
  | n :: ns => (n :: ns) :: tails ns

/-- Whether a part of a pattern may stand for a single code point. -/
def admits : Wild → Nat → Bool
  | .point w, n => w == n
  | .oneOf s, n => s.contains n
  | .any, _ | .many, _ => true

/-- Whether a pattern accepts a list of code points: what a pattern means, part by part. -/
def acceptsPoints : Wildcard → List Nat → Bool
  | [], ns => ns.isEmpty
  | .many :: ws, ns => (tails ns).any (acceptsPoints ws)
  | w :: ws, n :: ns => admits w n && acceptsPoints ws ns
  | _ :: _, [] => false

/-- For each position whether there is a hit there or later. -/
def fromHere : List Bool → List Bool
  | [] => []
  | hit :: hits =>
    match fromHere hits with
    | [] => [hit]
    | later :: rest => (hit || later) :: later :: rest

/-- For each end of a text, the longest first, whether a pattern accepts it.  The answers for one
part come from those for the parts after it, so a text is read once for each part. -/
def acceptedEnds : Wildcard → List Nat → List Bool
  | [], ns => (tails ns).map List.isEmpty
  | .many :: ws, ns => fromHere (acceptedEnds ws ns)
  | w :: ws, ns =>
    List.zipWith (fun n accepted => admits w n && accepted) ns (acceptedEnds ws ns).tail ++ [false]

def accepts (w : Wildcard) (s : String) : Bool :=
  (acceptedEnds w (Text.codePoints s)).headD false

theorem headD_map_tails (f : List Nat → Bool) (ns : List Nat) (b : Bool) :
    ((tails ns).map f).headD b = f ns := by
  cases ns <;> rfl

theorem fromHere_map_tails (f : List Nat → Bool) (ns : List Nat) :
    fromHere ((tails ns).map f) = (tails ns).map fun t => (tails t).any f := by
  induction ns with
  | nil => simp [tails, fromHere]
  | cons c ns ih =>
    cases ns with
    | nil => simp [tails, fromHere]
    | cons d ns => simp_all [tails, fromHere]

/-- The answers for a part that stands for one code point, from the answers for the parts after
it. -/
theorem zipWith_tail_map_tails (p : Nat → Bool) (f g : List Nat → Bool) (empty : g [] = false)
    (step : ∀ n ns, g (n :: ns) = (p n && f ns)) (ns : List Nat) :
    List.zipWith (fun n accepted => p n && accepted) ns ((tails ns).map f).tail ++ [false] =
      (tails ns).map g := by
  induction ns with
  | nil => simp [tails, empty]
  | cons c ns ih =>
    cases ns with
    | nil => simp [tails, empty, step]
    | cons d ns => simp_all [tails]

theorem acceptedEnds_eq_map_tails (w : Wildcard) (ns : List Nat) :
    acceptedEnds w ns = (tails ns).map (acceptsPoints w) := by
  induction w with
  | nil =>
    simp only [acceptedEnds]
    exact List.map_congr_left fun t _ => by simp [acceptsPoints]
  | cons part ws ih =>
    cases part with
    | many =>
      simp only [acceptedEnds, ih, fromHere_map_tails]
      exact List.map_congr_left fun t _ => by simp [acceptsPoints]
    | any | point _ | oneOf _ =>
      simp only [acceptedEnds, ih]
      exact zipWith_tail_map_tails _ _ _ rfl (fun _ _ => rfl) ns

/-- The quick answer is the one that the parts of the pattern mean. -/
theorem accepts_eq_acceptsPoints (w : Wildcard) (s : String) :
    w.accepts s = w.acceptsPoints (Text.codePoints s) := by
  rw [accepts, acceptedEnds_eq_map_tails, headD_map_tails]

end Wildcard

end RepoAudit
