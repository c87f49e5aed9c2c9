import RepoAudit.Decimal.Reader
import RepoAudit.Value.Basic

/-! # Reading a value as a number

A value may stand for a number without being one: a text that spells it, or a truth value.  There
are three ways to fail, and callers treat them differently.

* `ConversionError` – why a value is no number;
* `Value.toWhole`, `Value.toFloat` – the two readings.
-/

namespace RepoAudit

inductive ConversionError where
  /-- A value of this kind never stands for a number. -/
  | unsuitable
  /-- The text, or "not a number", does not spell such a number. -/
  | malformed
  /-- The number exists but is out of range. -/
  | overflow
  deriving Repr, DecidableEq

namespace Value

open Decimal

def truncate (x : Float) : Except ConversionError Int :=
  match Binary.ofFloat x with
  | .nan => .error .malformed
  | .infinite _ => .error .overflow
  | .finite negative m e => .ok (wholePart negative m e)

/-- The floating-point number nearest to a whole number, if it is in range. -/
def widen (n : Int) : Except ConversionError Float :=
  let x := ofWhole n
  if x.isInf then .error .overflow else .ok x

def toWhole : Value → Except ConversionError Int
  | .bool b => .ok (if b then 1 else 0)
  | .int n => .ok n
  | .float x => truncate x
  | .text s => match wholeNumber? s with
    | some n => .ok n
    | none => .error .malformed
  | .null | .moment _ | .list _ | .object _ => .error .unsuitable

def toFloat : Value → Except ConversionError Float
  | .bool b => .ok (if b then 1.0 else 0.0)
  | .int n => widen n
  | .float x => .ok x
  | .text s => match decimal? s with
    | some x => .ok x
    | none => .error .malformed
  | .null | .moment _ | .list _ | .object _ => .error .unsuitable

end Value

end RepoAudit
