import RepoAudit.Decimal.Reader
import RepoAudit.Text.CodePoint
import RepoAudit.Value.Basic

/-! # Reading documents

Reads the document form of a value.  The grammar is strict: no trailing commas, comments, leading
zeros or raw control characters, and only four characters count as white space.  Infinities and
"not a number" are accepted by name.

Every reader takes the characters that are left and returns what it read with the characters after
it.  Nested readers carry fuel; each step uses at least one character, so twice the length of the
text is always enough.  They also carry the room that is left for nesting.

* `ReadError` – why a text is no document;
* `Value.parseWithin` – the value of a whole text that nests at most so deep;
* `Value.parse` – the same for the nesting that documents may have.
-/

namespace RepoAudit

inductive ReadError where
  /-- It breaks the grammar. -/
  | malformed
  /-- It holds a whole number with too many digits. -/
  | tooManyDigits
  /-- Its lists and objects are nested too deeply. -/
  | tooDeep
  deriving Repr, DecidableEq

namespace Value

open Decimal

def isSpace (c : Char) : Bool :=
  c == ' ' || c == '\t' || c == '\n' || c == '\r'

def skipSpace (cs : List Char) : List Char :=
  cs.dropWhile isSpace

def dropWord? : List Char → List Char → Option (List Char)
  | [], cs => some cs
  | w :: ws, c :: cs => if w = c then dropWord? ws cs else none
  | _ :: _, [] => none

/-! ## Texts -/

def hexValue? (c : Char) : Option Nat :=
  if c.isDigit then some (c.toNat - 0x30)
  else if 'a' ≤ c ∧ c ≤ 'f' then some (c.toNat - 0x61 + 10)
  else if 'A' ≤ c ∧ c ≤ 'F' then some (c.toNat - 0x41 + 10)
  else none

def hexUnit? (a b c d : Char) : Option Nat := do
  let w ← hexValue? a
  let x ← hexValue? b
  let y ← hexValue? c
  let z ← hexValue? d
  return ((w * 16 + x) * 16 + y) * 16 + z

def simpleEscape? : Char → Option Char
  | '"' => some '"'
  | '\\' => some '\\'
  | '/' => some '/'
  | 'b' => some (Char.ofNat 0x8)
  | 'f' => some (Char.ofNat 0xc)
  | 'n' => some '\n'
  | 'r' => some '\r'
  | 't' => some '\t'
  | _ => none

/-- Whether a unit is the first half of a pair. -/
def isHighUnit (n : Nat) : Bool := 0xd800 ≤ n && n ≤ 0xdbff

def isLowUnit (n : Nat) : Bool := 0xdc00 ≤ n && n ≤ 0xdfff

def pairPoint (high low : Nat) : Nat :=
  0x10000 + (high - 0xd800) * 0x400 + (low - 0xdc00)

/-- Adds a code point to the characters read so far, last first. -/
def withPoint (n : Nat) (read : List Char) : List Char :=
  (Text.spell n).reverse ++ read

/-- Reads the rest of a text, up to its closing quote.  `read` holds the characters read so far,
last first.  Half a pair on its own is kept as a half. -/
def readText (read : List Char) : List Char → Except ReadError (String × List Char)
  | [] => .error .malformed
  | '"' :: cs => .ok (String.ofList read.reverse, cs)
  | '\\' :: 'u' :: a :: b :: c :: d :: cs =>
    match hexUnit? a b c d with
    | none => .error .malformed
    | some n =>
      match cs with
      | '\\' :: 'u' :: a' :: b' :: c' :: d' :: cs' =>
        match hexUnit? a' b' c' d' with
        | some n' =>
          if isHighUnit n && isLowUnit n' then readText (withPoint (pairPoint n n') read) cs'
          else readText (withPoint n read) ('\\' :: 'u' :: a' :: b' :: c' :: d' :: cs')
        | none => .error .malformed
      | cs' => readText (withPoint n read) cs'
  | '\\' :: e :: cs =>
    match simpleEscape? e with
    | some c => readText (c :: read) cs
    | none => .error .malformed
  | '\\' :: [] => .error .malformed
  | c :: cs => if c.toNat < 0x20 then .error .malformed else readText (c :: read) cs
termination_by cs => cs.length

/-! ## Numbers -/

/-- The fraction at the front, when a point is followed by a digit. -/
def fractionPart (cs : List Char) : Option (List Char) × List Char :=
  match cs with
  | '.' :: rest =>
    let (ds, rest') := spanDigits rest
    if ds.isEmpty then (none, cs) else (some ds, rest')
  | _ => (none, cs)

/-- Reads a number whose sign is already read. -/
def readNumber (negative : Bool) (cs : List Char) : Except ReadError (Value × List Char) :=
  let (whole, rest) := match cs with
    | '0' :: rest => (['0'], rest)
    | _ => spanDigits cs
  if whole.isEmpty then .error .malformed
  else
    let (fraction?, rest') := fractionPart rest
    let (e, rest'') := exponentPart rest'
    if fraction?.isNone && rest''.length == rest'.length then
      if maxDigits < whole.length then .error .tooManyDigits
      else .ok (.int (if negative then -(digitsValue whole : Int) else digitsValue whole), rest'')
    else
      let fraction := fraction?.getD []
      let x := nearest (digitsValue (whole ++ fraction)) (e - fraction.length)
      .ok (.float (if negative then -x else x), rest'')

/-! ## Values -/

mutual

def readValue : Nat → Nat → List Char → Except ReadError (Value × List Char)
  | 0, _, _ => .error .malformed
  | fuel + 1, room, cs =>
    match cs with
    | '"' :: rest => do
      let (s, rest) ← readText [] rest
      return (.text s, rest)
    | '\x7b' :: rest =>
      match room, skipSpace rest with
      | 0, _ => .error .tooDeep
      | _ + 1, '\x7d' :: rest => .ok (.object [], rest)
      | room + 1, rest => do
        let (fields, rest) ← readFields fuel room rest
        return (.object (collectFields fields), rest)
    | '[' :: rest =>
      match room, skipSpace rest with
      | 0, _ => .error .tooDeep
      | _ + 1, ']' :: rest => .ok (.list [], rest)
      | room + 1, rest => do
        let (items, rest) ← readItems fuel room rest
        return (.list items, rest)
    | '-' :: rest =>
      match dropWord? "Infinity".toList rest with
      | some rest => .ok (.float (-(1.0 / 0.0)), rest)
      | none => readNumber true rest
    | 'n' :: rest => match dropWord? "ull".toList rest with
      | some rest => .ok (.null, rest)
      | none => .error .malformed
    | 't' :: rest => match dropWord? "rue".toList rest with
      | some rest => .ok (.bool true, rest)
      | none => .error .malformed
    | 'f' :: rest => match dropWord? "alse".toList rest with
      | some rest => .ok (.bool false, rest)
      | none => .error .malformed
    | 'N' :: rest => match dropWord? "aN".toList rest with
      | some rest => .ok (.float (0.0 / 0.0), rest)
      | none => .error .malformed
    | 'I' :: rest => match dropWord? "nfinity".toList rest with
      | some rest => .ok (.float (1.0 / 0.0), rest)
      | none => .error .malformed
    | cs => readNumber false cs

def readItems : Nat → Nat → List Char → Except ReadError (List Value × List Char)
  | 0, _, _ => .error .malformed
  | fuel + 1, room, cs => do
    let (v, rest) ← readValue fuel room cs
    match skipSpace rest with
    | ']' :: rest => return ([v], rest)
    | ',' :: rest => do
      let (vs, rest) ← readItems fuel room (skipSpace rest)
      return (v :: vs, rest)
    | _ => .error .malformed

def readFields : Nat → Nat → List Char → Except ReadError (List (String × Value) × List Char)
  | 0, _, _ => .error .malformed
  | fuel + 1, room, cs =>
    match cs with
    | '"' :: rest => do
      let (key, rest) ← readText [] rest
      match skipSpace rest with
      | ':' :: rest => do
        let (v, rest) ← readValue fuel room (skipSpace rest)
        match skipSpace rest with
        | '\x7d' :: rest => return ([(key, v)], rest)
        | ',' :: rest => do
          let (fields, rest) ← readFields fuel room (skipSpace rest)
          return ((key, v) :: fields, rest)
        | _ => .error .malformed
      | _ => .error .malformed
    | _ => .error .malformed

end

/-- The value of a text that holds one document, whose lists and objects nest at most `room` deep,
and nothing else but white space. -/
def parseWithin (room : Nat) (s : String) : Except ReadError Value := do
  let cs := s.toList
  let (v, rest) ← readValue (2 * cs.length + 2) room (skipSpace cs)
  if (skipSpace rest).isEmpty then return v else .error .malformed

/-- Lists and objects of a document nest at most this deep. -/
def maxNesting : Nat := 988

/-- The value of a text that holds one document and nothing else but white space. -/
def parse (s : String) : Except ReadError Value :=
  parseWithin maxNesting s

end Value

end RepoAudit
