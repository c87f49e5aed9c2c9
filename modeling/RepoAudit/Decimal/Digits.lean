import RepoAudit.Decimal.Binary

/-! # Choosing decimal digits

Two ways to choose the digits that stand for a floating-point number: the fewest digits that read
back as the same number, and a fixed count of digits.

* `Digits` – a whole number times a power of ten;
* `shortest` – the fewest digits that read back, the nearest of those;
* `significant` – the nearest decimal with a given number of digits.
-/

namespace RepoAudit.Decimal

/-- The decimal `significand · 10 ^ exponent`. -/
structure Digits where
  significand : Nat
  exponent : Int
  deriving Repr, DecidableEq

/-- Drops the zeros at the end of the significand; `fuel` bounds their number. -/
def Digits.stripZeros (d : Digits) : Nat → Digits
  | 0 => d
  | fuel + 1 =>
    if d.significand ≠ 0 ∧ d.significand % 10 = 0 then
      stripZeros ⟨d.significand / 10, d.exponent + 1⟩ fuel
    else d

/-- The interval of the reals that read as `mantissa · 2 ^ exponent`, in quarters of the last place:
half a place up, and half a place down or a quarter at the lower end of a binade. -/
structure Reach where
  low : Fraction
  high : Fraction
  closed : Bool

/-- The reals nearer to a number than to its neighbours; the ends belong to it when its mantissa is
even. -/
def Reach.of (mantissa : Nat) (exponent : Int) : Reach :=
  let quarter := exponent - 2
  let below := if mantissa = Nat.pow 2 52 ∧ leastExponent < exponent then 1 else 2
  { low := .ofBinary (4 * mantissa - below) quarter
    high := .ofBinary (4 * mantissa + 2) quarter
    closed := mantissa % 2 = 0 }

/-- Whether `n · 10 ^ e` reads as the number. -/
def Reach.contains (r : Reach) (n : Nat) (e : Int) : Bool :=
  let d := Fraction.shift ⟨n, 1⟩ e
  let above := if r.closed then r.low.num * d.den ≤ d.num * r.low.den
    else r.low.num * d.den < d.num * r.low.den
  let under := if r.closed then d.num * r.high.den ≤ r.high.num * d.den
    else d.num * r.high.den < r.high.num * d.den
  above && under

/-- The better of the two neighbours of the number on the grid of multiples of `10 ^ e`, if one of
them reads back. -/
def onGrid? (value : Fraction) (reach : Reach) (e : Int) : Option Nat :=
  let scaled := value.shift (-e)
  let n := scaled.floor
  match reach.contains n e, reach.contains (n + 1) e with
  | true, true => some scaled.round
  | true, false => some n
  | false, true => some (n + 1)
  | false, false => none

/-- Tries finer and finer grids, up to seventeen digits. -/
def shortestFrom (value : Fraction) (reach : Reach) (point : Int) (count : Nat) : Nat → Digits
  | 0 => ⟨value.shift (17 - point) |>.round, point - 17⟩
  | fuel + 1 =>
    match onGrid? value reach (point - count) with
    | some n => ⟨n, point - count⟩
    | none => shortestFrom value reach point (count + 1) fuel

/-- The fewest digits that read back as `mantissa · 2 ^ exponent`, and of those the nearest. -/
def shortest (mantissa : Nat) (exponent : Int) : Digits :=
  if mantissa = 0 then ⟨0, 0⟩
  else
    let value := Fraction.ofBinary mantissa exponent
    (shortestFrom value (.of mantissa exponent) value.point 1 17).stripZeros 400

/-- The nearest decimal with `count` digits, without zeros at its end. -/
def significant (count : Nat) (mantissa : Nat) (exponent : Int) : Digits :=
  if mantissa = 0 then ⟨0, 0⟩
  else
    let value := Fraction.ofBinary mantissa exponent
    let e := value.point - count
    Digits.stripZeros ⟨(value.shift (-e)).round, e⟩ 400

end RepoAudit.Decimal
