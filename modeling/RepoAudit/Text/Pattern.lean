import RepoAudit.Text.Word

/-! # Patterns

A pattern describes stretches of text.  It is tried at a place of a text, choice by choice, and the first
choice with which all of it fits is taken.  Parts of a pattern may be captured: a match tells where they
start and end.

* `Pattern` – a pattern;
* `Pattern.Match` – a place in a text, and what was captured on the way to it;
* `Pattern.run` – a pattern at a place, with what has to fit behind it;
* `Pattern.captures` – what a pattern captures in a text, from match to match.
-/

namespace RepoAudit.Text

inductive Pattern where
  /-- Nothing, which fits everywhere. -/
  | nothing
  /-- One character of a class. -/
  | one (test : Char → Bool)
  /-- A pattern and another behind it. -/
  | both (first second : Pattern)
  /-- The first of two patterns that fits together with what follows. -/
  | either (first second : Pattern)
  /-- A pattern at least `least` times and, if there is a bound, at most `most` times, each time with at
  least one character; as often as possible if `greedy`, else as rarely. -/
  | times (least : Nat) (most : Option Nat) (greedy : Bool) (body : Pattern)
  /-- A pattern that is captured. -/
  | capture (body : Pattern)
  /-- A place that is not behind a character of a class. -/
  | notBehind (test : Char → Bool)
  /-- The start or the end of a word or, if not `edge`, any other place. -/
  | word (edge : Bool)

namespace Pattern

/-- A place in a text with the characters on both sides, those before it from the end, and the stretches
that were captured, the last one first. -/
structure Match where
  before : List Char := []
  after : List Char
  place : Nat := 0
  captured : List (Nat × Nat) := []
  deriving Repr, DecidableEq

def Match.step (m : Match) : Match :=
  match m.after with
  | [] => m
  | c :: rest => { m with before := c :: m.before, after := rest, place := m.place + 1 }

/-- Tries `body` again and again, at least `least` times and then at most `more` times. -/
def repeated (greedy : Bool) (body : Match → (Match → Option Match) → Option Match)
    (next : Match → Option Match) : Nat → Nat → Match → Option Match
  | least + 1, more, m => body m (repeated greedy body next least more)
  | 0, 0, m => next m
  | 0, more + 1, m =>
    if greedy then body m (repeated greedy body next 0 more) <|> next m
    else next m <|> body m (repeated greedy body next 0 more)

/-- Tries a pattern at a place; `next` tries what has to fit behind it. -/
def run : Pattern → Match → (Match → Option Match) → Option Match
  | nothing, m, next => next m
  | one test, m, next => if m.after.head?.any test then next m.step else none
  | both first second, m, next => run first m fun m => run second m next
  | either first second, m, next => run first m next <|> run second m next
  | times least most greedy body, m, next =>
    let more := match most with
      | some most => most - least
      | none => m.after.length
    repeated greedy (run body) next least more m
  | capture body, m, next =>
    run body m fun m' => next { m' with captured := (m.place, m'.place) :: m'.captured }
  | notBehind test, m, next => if m.before.head?.any test then none else next m
  | word edge, m, next =>
    if (m.before.head?.any isWordChar != m.after.head?.any isWordChar) == edge then next m else none

/-- What a pattern captures from a place on, match after match; `fuel` is more than the number of
characters. -/
def capturesFrom (p : Pattern) : Nat → Match → List (Nat × Nat)
  | 0, _ => []
  | fuel + 1, m =>
    match p.run m some with
    | some found =>
      found.captured
        ++ capturesFrom p fuel { (if found.place = m.place then m.step else found) with captured := [] }
    | none => if m.after.isEmpty then [] else capturesFrom p fuel m.step

/-- What a pattern captures in a text, as places where a stretch starts and ends. -/
def captures (p : Pattern) (cs : List Char) : List (Nat × Nat) :=
  capturesFrom p (cs.length + 1) { after := cs }

/-! ## Combinations -/

def all : List Pattern → Pattern
  | [] => nothing
  | [p] => p
  | p :: ps => both p (all ps)

def firstOf : List Pattern → Pattern
  | [] => one fun _ => false
  | [p] => p
  | p :: ps => either p (firstOf ps)

def char (c : Char) : Pattern :=
  one (· == c)

def literal (s : String) : Pattern :=
  all (s.toList.map char)

def oneOf (s : String) : Pattern :=
  one fun c => s.toList.contains c

def many (p : Pattern) : Pattern := times 0 none true p

def some1 (p : Pattern) : Pattern := times 1 none true p

def maybe (p : Pattern) : Pattern := times 0 (some 1) true p

def upTo (least most : Nat) (p : Pattern) : Pattern := times least (some most) true p

def exactly (n : Nat) (p : Pattern) : Pattern := times n (some n) true p

end Pattern

end RepoAudit.Text
