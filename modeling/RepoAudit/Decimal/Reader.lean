import RepoAudit.Decimal.Binary
import RepoAudit.Text.Blank
import RepoAudit.Text.Digit

/-! # Reading numbers

Whole numbers and decimals as people write them: blanks around, a sign, digits of any script, and
single underscores between digits.

* `wholeNumber?` – a whole number;
* `decimal?` – a decimal, an infinity or "nan";
* `nearest` – the floating-point number nearest to a decimal.
-/

namespace RepoAudit.Decimal

open RepoAudit.Text

def maxDigits : Nat := 4300

/-- The floating-point number nearest to `mantissa · 10 ^ exponent`.  A number of at least `10 ^ 400`
is infinite and one below `10 ^ (-400)` is zero, which spares computing huge powers. -/
def nearest (mantissa : Nat) (exponent : Int) : Float :=
  let point : Int := (Nat.toDigits 10 mantissa).length + exponent
  if mantissa = 0 ∨ point < -400 then 0.0
  else if 400 < point then 1.0 / 0.0
  else if exponent < 0 then Float.ofScientific mantissa true (-exponent).toNat
  else Float.ofScientific mantissa false exponent.toNat

/-- The floating-point number nearest to a whole number. -/
def ofWhole (n : Int) : Float :=
  if n < 0 then -nearest n.natAbs 0 else nearest n.natAbs 0

/-- Replaces the digits of other scripts by ASCII digits and the blanks beyond ASCII by spaces; ASCII
characters are left as they are. -/
def plainDigits (cs : List Char) : List Char :=
  cs.map fun c =>
    if c.toNat < 0x80 then c
    else match digitValue? c with
      | some d => Char.ofNat (0x30 + d)
      | none => if isBlank c then ' ' else c

/-- The blanks allowed around a number once digits are plain. -/
def isPlainBlank (c : Char) : Bool :=
  c == ' ' || (0x9 ≤ c.toNat && c.toNat ≤ 0xd)

/-- The characters of a number: digits made plain, blanks around it dropped. -/
def numberText (s : String) : List Char :=
  trimList isPlainBlank (plainDigits s.toList)

/-- Splits off a sign; the flag tells whether it is a minus. -/
def splitSign : List Char → Bool × List Char
  | '-' :: cs => (true, cs)
  | '+' :: cs => (false, cs)
  | cs => (false, cs)

def digitsValue (ds : List Char) : Nat :=
  ds.foldl (fun n d => 10 * n + (d.toNat - 0x30)) 0

/-- Drops single underscores between digits; nothing when one stands elsewhere. -/
def dropUnderscores (afterDigit : Bool) : List Char → Option (List Char)
  | [] => some []
  | '_' :: d :: cs =>
    if afterDigit && d.isDigit then (dropUnderscores true cs).map (d :: ·) else none
  | '_' :: [] => none
  | c :: cs => (dropUnderscores c.isDigit cs).map (c :: ·)

/-- A whole number, or nothing when the text is none or has too many digits. -/
def wholeNumber? (s : String) : Option Int := do
  let (negative, body) := splitSign (numberText s)
  let ds ← dropUnderscores false body
  if ds.isEmpty || !ds.all Char.isDigit || maxDigits < ds.length then none
  else some (if negative then -(digitsValue ds : Int) else digitsValue ds)

def spanDigits (cs : List Char) : List Char × List Char :=
  (cs.takeWhile Char.isDigit, cs.dropWhile Char.isDigit)

/-- The exponent at the front, when there is a complete one, and the rest. -/
def exponentPart (cs : List Char) : Int × List Char :=
  match cs with
  | e :: rest =>
    if e == 'e' || e == 'E' then
      let (negative, body) := splitSign rest
      let (ds, rest') := spanDigits body
      if ds.isEmpty then (0, cs)
      else ((if negative then -(digitsValue ds : Int) else digitsValue ds), rest')
    else (0, cs)
  | [] => (0, [])

/-- An unsigned decimal: digits, perhaps a point and digits, perhaps an exponent. -/
def unsignedDecimal? (cs : List Char) : Option Float :=
  let (whole, rest) := spanDigits cs
  let (fraction, rest') :=
    match rest with
    | '.' :: r => spanDigits r
    | r => ([], r)
  if whole.isEmpty && fraction.isEmpty then none
  else
    let (e, rest'') := exponentPart rest'
    if rest''.isEmpty then some (nearest (digitsValue (whole ++ fraction)) (e - fraction.length))
    else none

/-- A decimal, an infinity or "nan"; nothing when the text is none of them. -/
def decimal? (s : String) : Option Float := do
  let (negative, body) := splitSign (numberText s)
  let word := String.ofList (body.map Char.toLower)
  let x ←
    if word == "inf" || word == "infinity" then some (1.0 / 0.0)
    else if word == "nan" then some (0.0 / 0.0)
    else (dropUnderscores false body).bind unsignedDecimal?
  some (if negative then -x else x)

end RepoAudit.Decimal
