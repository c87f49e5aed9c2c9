import RepoAudit.Console.Style
import RepoAudit.Text.Split

/-! # Text with styles

A text for the console together with the stretches of it that have a style of their own.  The console
here shows no styles, but it writes and measures a text in pieces, and the pieces end where a stretch
starts or ends.

* `Span` – a stretch of a text;
* `Styled` – a text with its stretches;
* `Styled.slice`, `Styled.divide`, `Styled.lines` – parts of a text with what they keep of the stretches;
* `Styled.pieces` – the pieces of a text;
* `Styled.check` – whether all styles can be read.
-/

namespace RepoAudit

open Text

/-- A stretch of a text, from the character at `start` up to the one before `stop`, in a style. -/
structure Span where
  start : Nat
  stop : Nat
  style : String := ""
  deriving Repr, DecidableEq, Inhabited

structure Styled where
  chars : List Char
  spans : List Span := []
  deriving Repr, DecidableEq, Inhabited

namespace Span

/-- The same stretch in a text that has `n` more characters before it. -/
def shift (n : Nat) (p : Span) : Span :=
  { p with start := p.start + n, stop := p.stop + n }

/-- What a part of the text from `first` up to `last` keeps of a stretch, if that is anything. -/
def within? (first last : Nat) (p : Span) : Option Span :=
  let start := max p.start first - first
  let stop := min p.stop last - first
  if start < stop then some { p with start := start, stop := stop } else none

end Span

namespace Styled

def plain (cs : List Char) : Styled := { chars := cs }

/-! ## Parts -/

def slice (s : Styled) (first last : Nat) : Styled :=
  { chars := (s.chars.drop first).take (last - first), spans := s.spans.filterMap (Span.within? first last) }

/-- Cuts the part behind `first` into parts of the given lengths. -/
def slicesFrom (s : Styled) (first : Nat) : List Nat → List Styled
  | [] => []
  | n :: lengths => s.slice first (first + n) :: slicesFrom s (first + n) lengths

/-- Cuts a text into parts of the given lengths.  A text that is not cut keeps all its stretches, empty
ones too. -/
def divide (s : Styled) (lengths : List Nat) : List Styled :=
  if lengths.length ≤ 1 then [s] else s.slicesFrom 0 lengths

/-- The parts between separators whose lengths are given, one character apart. -/
def partsFrom (s : Styled) (first : Nat) : List Nat → List Styled
  | [] => []
  | n :: lengths => s.slice first (first + n) :: partsFrom s (first + n + 1) lengths

def lines (s : Styled) : List Styled :=
  let parts := splitChars '\n' s.chars
  if parts.length ≤ 1 then [s] else s.partsFrom 0 (parts.map List.length)

/-! ## Changes -/

def append (s t : Styled) : Styled :=
  { chars := s.chars ++ t.chars, spans := s.spans ++ t.spans.map (Span.shift s.chars.length) }

/-- The stretches that lie before a place, none of them longer than up to it. -/
def spansBefore (s : Styled) (n : Nat) : List Span :=
  (s.spans.filter (·.start < n)).map fun p => { p with stop := min p.stop n }

/-- The same stretches on other characters; if these are fewer, the stretches end with them. -/
def withChars (s : Styled) (cs : List Char) : Styled :=
  { chars := cs, spans := if cs.length < s.chars.length then s.spansBefore cs.length else s.spans }

/-- A text with characters behind it that belong to no stretch. -/
def padEnd (s : Styled) (cs : List Char) : Styled :=
  { s with chars := s.chars ++ cs }

/-- A text with characters before it that belong to no stretch. -/
def padStart (s : Styled) (cs : List Char) : Styled :=
  { chars := cs ++ s.chars, spans := s.spans.map (Span.shift cs.length) }

/-- A text with characters behind it that belong to the stretches at its end. -/
def stretchEnd (s : Styled) (cs : List Char) : Styled :=
  { chars := s.chars ++ cs
    spans := s.spans.map fun p =>
      if s.chars.length ≤ p.stop then { p with stop := p.stop + cs.length } else p }

/-! ## Pieces -/

/-- Cuts characters, the first of which is at `place`, before every place of `cuts`. -/
def piecesFrom (cuts : List Nat) (place : Nat) : List Char → List (List Char)
  | [] => []
  | c :: cs =>
    match piecesFrom cuts (place + 1) cs with
    | piece :: pieces =>
      if cuts.contains (place + 1) then [c] :: piece :: pieces else (c :: piece) :: pieces
    | [] => [[c]]

/-- The pieces of a text, which end where a stretch starts or ends. -/
def pieces (s : Styled) : List (List Char) :=
  piecesFrom (s.spans.flatMap fun p => [p.start, p.stop]) 0 s.chars

/-! ## Styles -/

/-- Reads the style of every stretch; a style without meaning is passed over. -/
def check (s : Styled) : Except StyleError Unit :=
  s.spans.forM fun p => Style.check p.style.toList

end Styled

end RepoAudit
