/-! # Floating-point numbers as exact fractions

A finite floating-point number is a whole number times a power of two.  Everything that is printed
about such a number is computed from this exact form.

* `Binary` – the exact form of a number, or the reason why it has none;
* `Binary.ofFloat` – reads it off the bits;
* `Fraction` – a non-negative quotient of whole numbers.
-/

namespace RepoAudit.Decimal

/-- What a floating-point number is: not a number, an infinity, or `± mantissa · 2 ^ exponent`. -/
inductive Binary where
  | nan
  | infinite (negative : Bool)
  | finite (negative : Bool) (mantissa : Nat) (exponent : Int)
  deriving Repr, DecidableEq

/-- The exponent of the smallest positive numbers. -/
def leastExponent : Int := -1074

/-- Reads the exact form off sign, exponent field and fraction field. -/
def Binary.ofFields (negative : Bool) (exponentField fraction : Nat) : Binary :=
  if exponentField = 2047 then
    if fraction = 0 then .infinite negative else .nan
  else if exponentField = 0 then .finite negative fraction leastExponent
  else .finite negative (Nat.pow 2 52 + fraction) (exponentField - 1075)

def Binary.ofFloat (x : Float) : Binary :=
  let bits := x.toBits.toNat
  .ofFields (bits / Nat.pow 2 63 == 1) (bits / Nat.pow 2 52 % 2048) (bits % Nat.pow 2 52)

/-- A non-negative quotient; the denominator is positive wherever one is built here. -/
structure Fraction where
  num : Nat
  den : Nat
  deriving Repr, DecidableEq

/-- `n · 2 ^ e` as a fraction. -/
def Fraction.ofBinary (n : Nat) (e : Int) : Fraction :=
  if 0 ≤ e then ⟨n * Nat.pow 2 e.toNat, 1⟩ else ⟨n, Nat.pow 2 (-e).toNat⟩

/-- The fraction times `10 ^ e`. -/
def Fraction.shift (f : Fraction) (e : Int) : Fraction :=
  if 0 ≤ e then ⟨f.num * Nat.pow 10 e.toNat, f.den⟩ else ⟨f.num, f.den * Nat.pow 10 (-e).toNat⟩

def Fraction.floor (f : Fraction) : Nat :=
  f.num / f.den

/-- The nearest whole number; a half goes to the even neighbour. -/
def Fraction.round (f : Fraction) : Nat :=
  let q := f.num / f.den
  let r := f.num % f.den
  if 2 * r < f.den then q
  else if f.den < 2 * r then q + 1
  else if q % 2 = 0 then q else q + 1

/-- Counts how often a positive fraction below one tenth has to be multiplied by ten to reach one
tenth; `fuel` bounds the count. -/
def Fraction.leadingZeros (f : Fraction) : Nat → Nat
  | 0 => 0
  | fuel + 1 => if f.den ≤ f.num * 10 then 0 else 1 + leadingZeros ⟨f.num * 10, f.den⟩ fuel

/-- Where the decimal point stands: the number of digits before it when the fraction is at least
one, else minus the number of zeros after it.  So `10 ^ (p - 1) ≤ f < 10 ^ p` for a positive
fraction.  No positive number here is below `10 ^ (-400)`. -/
def Fraction.point (f : Fraction) : Int :=
  if f.den ≤ f.num then (Nat.toDigits 10 f.floor).length else - f.leadingZeros 400

/-- The whole part of a finite number, cut off toward zero. -/
def wholePart (negative : Bool) (mantissa : Nat) (exponent : Int) : Int :=
  let n : Int := (Fraction.ofBinary mantissa exponent).floor
  if negative then -n else n

end RepoAudit.Decimal
