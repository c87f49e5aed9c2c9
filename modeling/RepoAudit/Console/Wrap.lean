import RepoAudit.Console.Styled
import RepoAudit.Text.Blank
import RepoAudit.Text.Width
import RepoAudit.Total

/-! # Fitting text into columns

Text that is wider than the space for it is broken before a word.  A word that is too wide by itself
is cut into pieces or, in a cell, shortened.  A line that was fitted as a whole is measured once more,
piece by piece, when it is written.

* `Wrap.breakLine` – the lines of a long line;
* `Wrap.crop`, `Wrap.fill` – the pieces of a line, cut or filled up to a width;
* `Wrap.paragraph` – a text for the whole console;
* `Wrap.cell` – a text for a cell, filled up with spaces.
-/

namespace RepoAudit.Wrap

open Text

/-- What becomes of a word that is wider than the space. -/
inductive Overflow where
  /-- It is cut into pieces. -/
  | fold
  /-- Its line is shortened, and ends with three dots. -/
  | shorten
  deriving Repr, DecidableEq

inductive Side where
  | left
  | right
  | middle
  deriving Repr, DecidableEq, Inhabited

/-! ## Words -/

def word (cs : List Char) : List Char × List Char :=
  let before := cs.takeWhile isBlank
  let rest := cs.dropWhile isBlank
  let core := rest.takeWhile (!isBlank ·)
  let rest := rest.dropWhile (!isBlank ·)
  (before ++ core ++ rest.takeWhile isBlank, rest.dropWhile isBlank)

/-- The words of a line, each with the blanks around it; `fuel` is more than the number of
characters. -/
def wordsFrom : Nat → List Char → List (List Char)
  | 0, _ => []
  | fuel + 1, cs =>
    if cs.all isBlank then []
    else
      let (first, rest) := word cs
      first :: wordsFrom fuel rest

/-- The words of a line, each with the blanks around it. -/
def words (cs : List Char) : List (List Char) :=
  wordsFrom (cs.length + 1) cs

def trimEnd (cs : List Char) : List Char :=
  (cs.reverse.dropWhile isBlank).reverse

/-- Cuts signs into pieces that fit; `used` is the width of the piece so far.  A last piece without a
width is dropped. -/
def chopFrom (space used : Nat) (current : List Char) : List Grapheme → List (List Char)
  | [] => if used = 0 then [] else [current]
  | g :: rest =>
    if space < used + g.width then current :: chopFrom space g.width g.chars rest
    else chopFrom space (used + g.width) (current ++ g.chars) rest

def chop (space : Nat) (cs : List Char) : List (List Char) :=
  chopFrom space 0 [] (graphemes cs)

/-! ## Breaking lines -/

/-- The lines so far, the current line, and the width that is taken in it. -/
structure Breaking where
  done : List (List Char) := []
  current : List Char := []
  used : Nat := 0

/-- Starts a new line with a text, unless nothing was written yet. -/
def Breaking.start (b : Breaking) (cs : List Char) : Breaking :=
  if b.done.isEmpty && b.current.isEmpty then { b with current := cs, used := width cs }
  else { done := b.done ++ [b.current], current := cs, used := width cs }

/-- Writes a word: into the current line if it fits, else into a new one.  A word that fits nowhere
starts a line of its own, in pieces if it is to be folded. -/
def Breaking.addWord (overflow : Overflow) (space : Nat) (b : Breaking) (w : List Char) : Breaking :=
  let needed := width (trimEnd w)
  if b.used + needed ≤ space then { b with current := b.current ++ w, used := b.used + width w }
  else if space < needed ∧ overflow = .fold then (chop space w).foldl Breaking.start b
  else b.start w

def lineLengths (overflow : Overflow) (space : Nat) (cs : List Char) : List Nat :=
  let b := (words cs).foldl (Breaking.addWord overflow space) {}
  if (words cs).isEmpty then [cs.length] else (b.done ++ [b.current]).map List.length

/-- Drops blanks beyond the space from the end of a line. -/
def dropBeyond (space : Nat) (line : Styled) : Styled :=
  let excess := countPoints line.chars - space
  let blanks := (line.chars.reverse.takeWhile isBlank).length
  line.withChars (line.chars.take (line.chars.length - min blanks excess))

def breakLine (overflow : Overflow) (space : Nat) (line : Styled) : List Styled :=
  (line.divide (lineLengths overflow space line.chars)).map (dropBeyond space)

def blanks (n : Nat) : List Char := List.replicate n ' '

/-- Replaces the tab at the end of every part by spaces up to the next multiple of eight columns; the last
part has no tab. -/
def expandParts (column : Nat) : List Styled → Styled
  | [] => Styled.plain []
  | [last] => last
  | part :: rest =>
    let part := { part with chars := part.chars.dropLast ++ [' '] }
    let reached := column + width part.chars
    let spaces := (8 - reached % 8) % 8
    (part.stretchEnd (blanks spaces)).append (expandParts (reached + spaces) rest)

/-- The lengths of the parts of a line that end with a tab, and of the rest. -/
def tabLengths : List (List Char) → List Nat
  | [] => []
  | [last] => [last.length]
  | part :: rest => (part.length + 1) :: tabLengths rest

/-- Replaces every tab of a line by spaces up to the next multiple of eight columns. -/
def expandTabs (line : Styled) : Styled :=
  expandParts 0 (line.divide (tabLengths (splitChars '\t' line.chars)))

/-! ## Filling up -/

/-- The signs that fit into a space; a space fills the column that a wide sign would only half
fit. -/
def fitting (space : Nat) : List Grapheme → List Char
  | [] => []
  | g :: rest =>
    if space = 0 then []
    else if g.width ≤ space then g.chars ++ fitting (space - g.width) rest
    else [' ']

def resize (space : Nat) (cs : List Char) : List Char :=
  if space < width cs then fitting space (graphemes cs) else cs ++ blanks (space - width cs)

/-- A text that fits: a wider one is shortened and ends with three dots, or is cut. -/
def shorten (overflow : Overflow) (space : Nat) (s : Styled) : Styled :=
  if space < width s.chars then
    s.withChars (match overflow with
      | .shorten => resize (space - 1) s.chars ++ ['…']
      | .fold => resize space s.chars)
  else s

def withoutEnd (s : Styled) : Styled :=
  s.withChars (trimEnd s.chars)

/-- A text moved to a side of the space for it.  On the left, only a text that was not shortened is
filled up. -/
def align (side : Side) (space : Nat) (s : Styled) : Styled :=
  match side with
  | .left => (shorten .shorten space s).padEnd (blanks (space - width s.chars))
  | .right =>
    let s := shorten .shorten space (withoutEnd s)
    s.padStart (blanks (space - width s.chars))
  | .middle =>
    let s := shorten .shorten space (withoutEnd s)
    let before := (space - width s.chars) / 2
    (s.padStart (blanks before)).padEnd (blanks (space - width s.chars - before))

/-! ## Lines in pieces -/

/-- The width of a line whose pieces are measured one by one. -/
def piecesWidth (pieces : List (List Char)) : Nat :=
  total (pieces.map width)

/-- Cuts pieces to a width that they are known to exceed. -/
def cutPieces (space : Nat) : List (List Char) → List (List Char)
  | [] => []
  | piece :: rest =>
    if width piece < space then piece :: cutPieces (space - width piece) rest
    else [resize space piece]

def crop (space : Nat) (pieces : List (List Char)) : List (List Char) :=
  if space < piecesWidth pieces then cutPieces space pieces else pieces

def fill (space : Nat) (pieces : List (List Char)) : List (List Char) :=
  if piecesWidth pieces < space then pieces ++ [blanks (space - piecesWidth pieces)]
  else crop space pieces

def paragraph (space : Nat) (s : Styled) : Except StyleError (List (List Char)) :=
  (s.lines.flatMap fun line => breakLine .fold space (expandTabs line)).mapM fun line => do
    line.check
    return (crop space (shorten .fold space line).pieces).flatten

/-- The lines of a text for a cell, filled up with spaces, in pieces. -/
def cell (side : Side) (space : Nat) (s : Styled) : Except StyleError (List (List (List Char))) :=
  (s.lines.flatMap fun line => breakLine .shorten space (expandTabs line)).mapM fun line => do
    let line := align side space line
    line.check
    return fill space line.pieces

/-! ## Measuring -/

/-- Whether a character ends a line when the width of a text is taken. -/
def isLineEnd (c : Char) : Bool :=
  [0x0a, 0x1c, 0x1d, 0x1e, 0x85, 0x2028, 0x2029].contains c.toNat

def measuredLines : List Char → List (List Char)
  | [] => [[]]
  | c :: cs =>
    if isLineEnd c then [] :: measuredLines cs
    else match measuredLines cs with
      | line :: lines => (c :: line) :: lines
      | [] => [[c]]

def widest (cs : List Char) : Nat :=
  ((measuredLines cs).map width).foldl max 0

end RepoAudit.Wrap
