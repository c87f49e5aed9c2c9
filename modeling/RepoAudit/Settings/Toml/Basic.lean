import RepoAudit.Text.Blank
import RepoAudit.Text.Split

/-! # Parts of configuration text

What all readers of configuration text share: the ways to fail, and the parts of a line outside and
inside of quotes.

* `Toml.Failure` – why a text has no value;
* `Toml.quoteParts` – the parts of a line, by turns outside and inside of quotes;
* `Toml.enclosed` – how many separators stand inside of quotes before the first one outside.
-/

namespace RepoAudit.Toml

open Text

inductive Failure where
  /-- The text breaks the grammar. -/
  | refused
  /-- A key, a list or an escape ends where more of it is needed. -/
  | cutShort
  /-- A path leads through something that is no table. -/
  | notTable
  /-- A list of tables is continued under a name that holds something else. -/
  | notList
  /-- An escape or a fraction of a second is too large a number. -/
  | tooLarge
  /-- A text over several lines stands under an empty key. -/
  | unnamed
  /-- Lists and tables are nested too deeply. -/
  | tooDeep
  deriving Repr, DecidableEq

def isQuote (c : Char) : Bool :=
  c == '"' || c == '\''

def strip (cs : List Char) : List Char :=
  trimList isBlank cs

def nameOf (cs : List Char) : String :=
  String.ofList (spellChars cs)

def inner (cs : List Char) : List Char :=
  (cs.drop 1).dropLast

/-- Whether an odd number of backslashes stands at the end, so that they escape what follows. -/
def escapesNext (cs : List Char) : Bool :=
  (cs.reverse.takeWhile (· == '\\')).length % 2 == 1

/-! ## Quotes -/

/-- Adds parts between double quotes to the last of `parts`, which a single quote has opened, until
a single quote closes it. -/
def closeSingle (parts : List (List Char)) :
    List (List Char) → List (List Char) × List (List Char)
  | [] => (parts, [])
  | d :: ds =>
    if parts.length % 2 == 0 then
      let last := parts.getLast?.getD [] ++ '"' :: d
      closeSingle (parts.dropLast ++ splitChars '\'' last) ds
    else (parts, d :: ds)

/-- The first part between double quotes is cut at single quotes too; the others are left. -/
def cutFirst : List (List Char) → List (List Char)
  | [] => []
  | d :: ds => splitChars '\'' d ++ ds

/-- The parts of a line, by turns outside and inside of quotes. -/
def quoteParts (line : List Char) : List (List Char) :=
  match splitChars '"' line with
  | d :: ds =>
    if !ds.isEmpty && d.contains '\'' then
      let (parts, rest) := closeSingle (splitChars '\'' d) ds
      parts ++ cutFirst rest
    else cutFirst (d :: ds)
  | [] => []

/-- The number of separators in the parts before the first outside part that holds one. -/
def enclosedFrom (sep : List Char) (inside : Bool) : List (List Char) → Nat
  | [] => 0
  | p :: ps =>
    if !inside && holdsChars sep p then 0
    else countOf sep p + enclosedFrom sep (!inside) ps

/-- How many separators of a line stand inside of quotes, before the first one outside. -/
def enclosed (sep line : List Char) : Nat :=
  enclosedFrom sep false (quoteParts line)

end RepoAudit.Toml
