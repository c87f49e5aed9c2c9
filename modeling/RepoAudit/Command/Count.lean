import RepoAudit.Decimal.Reader

/-! # Counts

Counts as they are given on the command line: ASCII digits with single underscores between them,
white space around, perhaps a plus in front, zeros in front, and a fraction of zeros only.

* `Count.parse?` – the number that a text gives.
-/

namespace RepoAudit.Count

open RepoAudit.Text

/-- White space of any script; the separators U+001C to U+001F are none. -/
def isSpace (c : Char) : Bool :=
  isBlank c && !(0x1c ≤ c.toNat && c.toNat ≤ 0x1f)

def dropPlus : List Char → List Char
  | '+' :: cs => cs
  | cs => cs

/-- Drops the zeros in front and the underscores among them.  What is left of zero alone is its last
character, and a point keeps the character before it. -/
def dropZeros (cs : List Char) : List Char :=
  let fill (c : Char) : Bool := c == '0' || c == '_'
  match cs with
  | '0' :: _ =>
    let last := (cs.takeWhile fill).getLast?.toList
    match cs.dropWhile fill with
    | [] => last
    | '.' :: rest => last ++ '.' :: rest
    | rest => rest
  | _ => cs

/-- Drops a fraction of zeros; nothing when a point is followed by anything else. -/
def dropFraction? (cs : List Char) : Option (List Char) :=
  match cs.dropWhile (· != '.') with
  | [] => some cs
  | _ :: fraction =>
    if !fraction.isEmpty && fraction.all (· == '0') then some (cs.takeWhile (· != '.')) else none

/-- The number that a text gives; nothing when it is none or has too many digits. -/
def parse? (s : String) : Option Nat := do
  let body := dropPlus (trimList isSpace s.toList)
  let whole ← dropFraction? (dropZeros body)
  let digits ← Decimal.dropUnderscores false whole
  if digits.isEmpty || !digits.all Char.isDigit || Decimal.maxDigits < digits.length then none
  else some (Decimal.digitsValue digits)

end RepoAudit.Count
