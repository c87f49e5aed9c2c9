import RepoAudit.Decimal.Digits

/-! # Writing numbers

How chosen digits are laid out: positionally, or with an exponent when the number is very large or
very small.

* `Layout` – the decisions of a format;
* `Layout.write` – the text of a finite number;
* `exact` – the format that reads back;
* `general` – six digits, for people;
* `percent` – a share in whole percent.
-/

namespace RepoAudit.Decimal

/-- The decisions of a number format: the first exponent written as such, and whether a whole number
keeps a point and a zero. -/
structure Layout where
  exponentFrom : Int
  keepPoint : Bool

/-- The exponents below which numbers are written with an exponent, in every format here. -/
def Layout.leastPositional : Int := -4

def digitsOf (n : Nat) : List Char :=
  Nat.toDigits 10 n

/-- The exponent part: a sign and at least two digits. -/
def exponentText (e : Int) : List Char :=
  let ds := digitsOf e.natAbs
  'e' :: (if e < 0 then '-' else '+') :: (if ds.length < 2 then '0' :: ds else ds)

def Layout.write (layout : Layout) (d : Digits) : List Char :=
  let ds := digitsOf d.significand
  let point : Int := ds.length + d.exponent
  if d.significand ≠ 0 ∧ (point - 1 < leastPositional ∨ layout.exponentFrom ≤ point - 1) then
    match ds with
    | [] => []
    | lead :: rest =>
      lead :: (if rest.isEmpty then [] else '.' :: rest) ++ exponentText (point - 1)
  else if 0 ≤ d.exponent then
    ds ++ List.replicate d.exponent.toNat '0' ++ (if layout.keepPoint then ['.', '0'] else [])
  else if 0 < point then
    ds.take point.toNat ++ '.' :: ds.drop point.toNat
  else
    '0' :: '.' :: List.replicate (-point).toNat '0' ++ ds

/-- Numbers that read back: positional up to sixteen digits, and a whole number keeps its point. -/
def exactLayout : Layout := ⟨16, true⟩

/-- Numbers for people: positional up to six digits, and a whole number has no point. -/
def generalLayout : Layout := ⟨6, false⟩

def signed (negative : Bool) (text : List Char) : List Char :=
  if negative then '-' :: text else text

/-- The text of a number that reads back: the fewest digits that do. -/
def exact (x : Float) : String :=
  match Binary.ofFloat x with
  | .nan => "nan"
  | .infinite negative => String.ofList (signed negative "inf".toList)
  | .finite negative m e => String.ofList (signed negative (exactLayout.write (shortest m e)))

/-- The text of a number for people: at most six digits. -/
def general (x : Float) : String :=
  match Binary.ofFloat x with
  | .nan => "nan"
  | .infinite negative => String.ofList (signed negative "inf".toList)
  | .finite negative m e => String.ofList (signed negative (generalLayout.write (significant 6 m e)))

/-- A share in whole percent; a half goes to the even neighbour. -/
def percent (x : Float) : String :=
  match Binary.ofFloat (x * 100) with
  | .nan => "nan%"
  | .infinite negative => String.ofList (signed negative "inf%".toList)
  | .finite negative m e =>
    String.ofList (signed negative (digitsOf (Fraction.ofBinary m e).round) ++ ['%'])

end RepoAudit.Decimal
