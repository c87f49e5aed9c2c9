import RepoAudit.Decimal.Reader
import RepoAudit.Settings.Toml.Basic
import RepoAudit.Value.Basic
import RepoAudit.Value.Convert

/-! # Words of configuration text

Values that stand without quotes or brackets: truth values, dates, times and numbers.

* `Toml.strictNumber` – whether zeros and underscores of a number stand where they may;
* `Toml.moment?`, `Toml.clock?` – a date with or without a time, and a time alone;
* `Toml.scalar` – the value of a word.
-/

namespace RepoAudit.Toml

open Text Decimal

/-! ## Dates and times -/

def slice (cs : List Char) (first last : Nat) : List Char :=
  (cs.take last).drop first

def number? (cs : List Char) : Option Int :=
  wholeNumber? (String.ofList cs)

/-- The numbers of a time at the front: three pairs of digits, and perhaps three to six digits of a
fraction, which count as microseconds as they stand. -/
def clockDigits? : List Char → Option (Nat × Nat × Nat × Nat)
  | a :: b :: ':' :: c :: d :: ':' :: e :: f :: rest =>
    if [a, b, c, d, e, f].all Char.isDigit then
      let fraction := match rest with
        | '.' :: r => (r.takeWhile Char.isDigit).take 6
        | _ => []
      some (digitsValue [a, b], digitsValue [c, d], digitsValue [e, f],
        if fraction.length < 3 then 0 else digitsValue fraction)
    else none
  | _ => none

/-- Minutes of an offset: a sign, two digits, any character, two digits; or the letter of universal
time. -/
def offset? (cs : List Char) : Option Int := do
  if cs == ['Z'] then return 0
  let hours ← number? (slice cs 1 3)
  let minutes ← number? (slice cs 4 6)
  let total := 60 * hours + minutes
  return if cs.head? == some '-' then -total else total

/-- Microseconds of the digits behind a point. -/
def fraction (ds : List Char) : Except Failure (Option Int) :=
  match number? ds with
  | none => .ok none
  | some n =>
    if ds.length ≤ 6 then .ok (some (n * Int.pow 10 (6 - ds.length)))
    else match Value.widen n with
      | .ok x =>
        match Value.truncate (x * nearest 1 (6 - (ds.length : Int))) with
        | .ok us => .ok (some us)
        | .error _ => .ok none
      | .error _ => .error .tooLarge

/-- Digits of a fraction of a second, and the offset behind them if there is one. -/
def splitOffset (cs : List Char) : List Char × Option (List Char) :=
  if cs.getLast?.any fun c => c == 'z' || c == 'Z' then (cs.dropLast, some ['Z'])
  else
    let sign := if cs.contains '+' then '+' else '-'
    if cs.contains sign then (cs.takeWhile (· != sign), some (cs.dropWhile (· != sign)))
    else (cs, none)

/-- Microseconds and offset behind the seconds; when one of them is malformed there is no offset. -/
def behindSeconds (cs : List Char) : Except Failure (Int × Option Int) :=
  match cs with
  | [] => .ok (0, none)
  | '.' :: rest => do
    let (ds, zone) := splitOffset rest
    match zone with
    | some zone =>
      match offset? zone with
      | none => return (0, none)
      | some minutes =>
        match ← fraction ds with
        | some us => return (us, some minutes)
        | none => return (0, none)
    | none =>
      match ← fraction ds with
      | some us => return (us, none)
      | none => return (0, none)
  | cs => .ok (0, offset? cs)

/-- The date of ten characters, or the date and time of any other number of them. -/
def dateParts? (cs : List Char) (microsecond : Int) (offset : Option Int) : Option Moment := do
  let year ← number? (slice cs 0 4)
  let month ← number? (slice cs 5 7)
  let day ← number? (slice cs 8 10)
  if cs.length == 10 then return .date (← Date.ofNumbers? year month day)
  let hour ← number? (slice cs 11 13)
  let minute ← number? (slice cs 14 16)
  let second ← number? (slice cs 17 19)
  let date ← Date.ofNumbers? year month day
  let clock ← Clock.ofNumbers? hour minute second microsecond
  return .both date clock offset

def moment? (cs : List Char) : Except Failure (Option Moment) := do
  let (microsecond, offset) ← behindSeconds (cs.drop 19)
  if (cs.drop 1).contains '-' then return dateParts? cs microsecond offset
  else return none

/-! ## Numbers -/

/-- Whether the zeros and underscores of a number stand where they may. -/
def strictNumber (cs : List Char) : Bool :=
  let isSign (c : Char) := c == '+' || c == '-'
  match strip cs with
  | [] => false
  | [c] => c != '_'
  | c :: d :: rest =>
    let n := c :: d :: rest
    let body := if isSign c then d :: rest else n
    let signedZero := match body with
      | '0' :: e :: _ => isSign c && e != '.'
      | _ => false
    c != '_' && n.getLast? != some '_'
      && !holdsChars "_.".toList n && !holdsChars "._".toList n
      && !(c == '0' && !"obx.".toList.contains d)
      && !signedZero && !holdsChars "__".toList body

/-- The digits of a base, which a letter behind a zero announces. -/
def baseOf? (c : Char) : Option Nat :=
  if c == 'x' || c == 'X' then some 16
  else if c == 'o' || c == 'O' then some 8
  else if c == 'b' || c == 'B' then some 2
  else none

def digitOf? (c : Char) : Option Nat :=
  if c.isDigit then some (c.toNat - 0x30)
  else if 'a' ≤ c.toLower ∧ c.toLower ≤ 'f' then some (c.toLower.toNat - 0x61 + 10)
  else none

def digitsOf? (base : Nat) (ds : List Char) : Option Nat :=
  if ds.isEmpty then none
  else ds.foldlM (fun n c => do
    let d ← digitOf? c
    if d < base then some (base * n + d) else none) 0

/-- An unsigned whole number: digits of a base, or decimal digits without a zero at the front. -/
def unsigned? (cs : List Char) : Option Nat :=
  match cs with
  | '0' :: c :: rest =>
    match baseOf? c with
    | some base => digitsOf? base rest
    | none => if (c :: rest).all (· == '0') then some 0 else none
  | cs => if cs.length ≤ maxDigits then digitsOf? 10 cs else none

def whole? (cs : List Char) : Option Int :=
  let (negative, body) := splitSign (numberText (String.ofList cs))
  (unsigned? body).map fun n => if negative then -(n : Int) else n

/-- The number of a word whose sign is taken off and which has no underscores. -/
def unsignedNumber? (cs : List Char) : Option Value :=
  let word := cs.map Char.toLower
  if cs.contains '.' || (!cs.contains 'x' && word.contains 'e') then
    let missing := match cutAt ['.'] 1 cs with
      | [_, fraction] => fraction.isEmpty
      | _ => false
    if missing || !cs.head?.any Char.isDigit then none
    else (decimal? (String.ofList cs)).map .float
  else if word == "inf".toList || word == "nan".toList then
    (decimal? (String.ofList cs)).map .float
  else (whole? cs).map .int

def negated : Value → Value
  | .int n => .int (0 - n)
  | .float x => .float (0.0 - x)
  | v => v

/-- The number of a word.  Only one sign is taken off; a second one belongs to the number. -/
def numberOf? (cs : List Char) : Option Value :=
  let (negative, body) := splitSign cs
  let v := unsignedNumber? (body.filter (· != '_'))
  if negative then v.map negated else v

/-! ## Words -/

/-- The value of a word.  `strict` tells whether its zeros and underscores are in order. -/
def scalar (strict : Bool) (cs : List Char) : Except Failure Value := do
  if cs == "true".toList then return .bool true
  if cs == "false".toList then return .bool false
  match clockDigits? cs with
  | some (hour, minute, second, microsecond) =>
    match Clock.ofNumbers? hour minute second microsecond with
    | some t => return .moment (.time t)
    | none => .error .refused
  | none =>
    match ← moment? cs with
    | some m => return .moment m
    | none =>
      if !strict then .error .refused
      else match numberOf? cs with
        | some v => return v
        | none => .error .refused

end RepoAudit.Toml
