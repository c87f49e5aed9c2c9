import RepoAudit.Value.Reader

/-! # Documents inside answers

A language model wraps the document it was asked for in other text.  The document is taken to run
from the first opening bracket to the last closing one.

* `AnswerError` – why an answer cannot be searched;
* `extractDocument` – the document in an answer.
-/

namespace RepoAudit

inductive AnswerError where
  /-- The answer is no text. -/
  | notText
  /-- The document cannot be read for a reason other than its grammar. -/
  | unreadable (cause : ReadError)
  deriving Repr, DecidableEq

inductive DocumentShape where
  | object
  | list
  deriving Repr, DecidableEq, Inhabited

namespace DocumentShape

def opening : DocumentShape → Char
  | .object => '\x7b'
  | .list => '['

def closing : DocumentShape → Char
  | .object => '\x7d'
  | .list => ']'

end DocumentShape

/-- The characters from the first opening bracket to the last closing one; nothing when there is no
such stretch. -/
def stretch? (shape : DocumentShape) (cs : List Char) : Option (List Char) :=
  let back := (cs.dropWhile (· != shape.opening)).reverse.dropWhile (· != shape.closing)
  if back.isEmpty then none else some back.reverse

/-- The document in a text; nothing when there is none that follows the grammar. -/
def documentIn (shape : DocumentShape) (text : String) : Except AnswerError (Option Value) :=
  match stretch? shape text.toList with
  | none => .ok none
  | some cs =>
    match Value.parse (String.ofList cs) with
    | .ok v => .ok (some v)
    | .error .malformed => .ok none
    | .error cause => .error (.unreadable cause)

/-- The document in an answer.  An answer that says nothing holds none. -/
def extractDocument (shape : DocumentShape) (answer : Value) : Except AnswerError (Option Value) :=
  match answer with
  | .text s => documentIn shape s
  | v => if v.truthy then .error .notText else .ok none

end RepoAudit
