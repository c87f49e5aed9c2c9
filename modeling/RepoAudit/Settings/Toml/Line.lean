import RepoAudit.Settings.Toml.Basic
import RepoAudit.Text.Word

/-! # Lines of configuration text

Goes through a configuration text character by character and returns its lines.  On the way

* a comment becomes blanks;
* a line end inside a list becomes a blank, so that the list stands on one line;
* the line end right after the opening quotes of a long text disappears;
* keys are checked, and quotes have to be balanced.

A position before the first character counts from the end, so that the first quote of a text is
compared with the last characters.
-/

namespace RepoAudit.Toml

open Text

/-- Where a key is being read: not at all, in a part of it, or behind a part. -/
inductive KeyStage where
  | none
  | inPart
  | behindPart
  deriving Repr, DecidableEq

/-- Which header is open: none, that of a table, or that of one table of a list. -/
inductive Header where
  | none
  | table
  | listed
  deriving Repr, DecidableEq

structure Scan where
  /-- The text so far as it is changed, and the rest as it stands. -/
  text : Array Char
  /-- How many lists are open. -/
  depth : Int := 0
  /-- The quote that is open. -/
  quote : Option Char := none
  /-- Whether a long text is open. -/
  long : Bool := false
  header : Header := .none
  lineStart : Bool := true
  key : KeyStage := .none
  /-- Whether the key has a dot. -/
  dotted : Bool := false
  /-- Whether nothing of the text is left to look at. -/
  done : Bool := false

namespace Scan

/-- The character at a position, where a negative one counts from the end. -/
def at? (s : Scan) (i : Int) : Option Char :=
  if 0 ≤ i then s.text[i.toNat]?
  else if i.natAbs ≤ s.text.size then s.text[s.text.size - i.natAbs]?
  else none

/-- How many of the last two characters before a position are the given one, counted backwards. -/
def repeated (s : Scan) (c : Char) (i : Nat) : Nat :=
  if s.at? (i - 1) != some c then 0
  else if s.at? (i - 2) != some c then 1
  else 2

/-- Whether an odd number of backslashes stands before a position; `fuel` is at least the length of
the text. -/
def oddBefore (s : Scan) : Nat → Int → Bool
  | 0, _ => false
  | fuel + 1, i => if s.at? (i - 1) == some '\\' then !oddBefore s fuel (i - 1) else false

/-! ## Keys -/

/-- What a character of a key leads to: the key goes on, it has ended, or the character is refused. -/
inductive KeyStep where
  | inside (s : Scan)
  | ended (s : Scan)

/-- Goes to the next part of a key when it follows right away. -/
def nextPart (s : Scan) (i : Nat) : Except Failure Scan :=
  match s.text[i + 1]? with
  | some c => .ok (if !isBlank c && c != '.' then { s with key := .inPart } else s)
  | none => .error .cutShort

/-- Ends a key at its equals sign; any other character is refused here. -/
def endKey (s : Scan) (c : Char) : Except Failure KeyStep :=
  if c == '=' then .ok (.ended { s with key := .none, dotted := false }) else .error .refused

def keyChar (s : Scan) (i : Nat) (c : Char) : Except Failure KeyStep :=
  if c == '\n' then .error .refused
  else match s.quote with
  | some q =>
    if c == q && !escapesNext (s.text.toList.take i) then
      .ok (.inside { s with key := .behindPart, quote := none })
    else .ok (.inside s)
  | none =>
    match s.key with
    | .inPart =>
      if isBlank c then .ok (.inside { s with key := .behindPart })
      else if c == '.' then .ok (.inside { s with dotted := true })
      else if isWordChar c || c == '-' then .ok (.inside s)
      else if s.dotted && s.at? (i - 1) == some '.' && isQuote c then
        .ok (.inside { s with quote := some c })
      else endKey s c
    | .behindPart =>
      if isBlank c then
        if s.dotted then (nextPart s i).map .inside else .ok (.inside s)
      else if c == '.' then (nextPart { s with dotted := true } i).map .inside
      else endKey s c
    | .none => endKey s c

/-! ## Quotes, comments, brackets, line ends -/

/-- Opens or closes a text: the third quote in a row opens or closes a long one. -/
def turnQuote (s : Scan) (c : Char) (third : Bool) : Scan :=
  let long := if third then !s.long else s.long
  let isOpen := if third then long else s.quote.isNone
  { s with long := long, quote := if isOpen then some c else none }

/-- Takes a quote into account, unless the other one is open.  A double quote may be escaped. -/
def quoteChar (s : Scan) (i : Nat) (c : Char) : Scan :=
  if c == '\'' && s.quote != some '"' then turnQuote s c (s.repeated c i == 2)
  else if c == '"' && s.quote != some '\'' then
    let before := s.repeated c i
    if before != 1 && s.oddBefore s.text.size (i - before) then s
    else turnQuote s c (before == 2)
  else s

/-- Replaces the characters from a position to the end of the line by blanks. -/
def blankLine (s : Scan) (i : Nat) : Scan :=
  let length := ((s.text.toList.drop i).takeWhile (· != '\n')).length
  { s with
    text := (List.range length).foldl (fun text k => text.setIfInBounds (i + k) ' ') s.text
    done := i + length == s.text.size }

def bracketChar (s : Scan) (i : Nat) (c : Char) : Scan :=
  if c == '[' && s.quote.isNone && s.header == .none then
    if s.lineStart then
      { s with header := if s.text[i + 1]? == some '[' then .listed else .table }
    else { s with depth := s.depth + 1 }
  else if c == ']' && s.quote.isNone then
    match s.header with
    | .table => { s with header := .none }
    | .listed => if s.at? (i - 1) == some ']' then { s with header := .none } else s
    | .none => { s with depth := s.depth - 1 }
  else s

/-- The line end after two quotes of a long text gives way to a third quote, and the first of them
to a blank. -/
def joinLong (s : Scan) (i : Nat) : Scan :=
  match s.at? (i - 1) with
  | some q =>
    if isQuote q && s.at? (i - 2) == some q then
      let text := s.text.setIfInBounds i q
      let third : Int := i - 3
      let place := if 0 ≤ third then third.toNat else s.text.size - third.natAbs
      { s with text := if s.at? third == some q then text.setIfInBounds place ' ' else text }
    else s
  | none => s

def lineEnd (s : Scan) (i : Nat) : Except Failure Scan :=
  if s.long then .ok (joinLong s i)
  else if s.quote.isSome then .error .refused
  else if s.depth != 0 then .ok { s with text := s.text.setIfInBounds i ' ' }
  else .ok { s with lineStart := true }

/-- The first character of a line starts a key, unless it opens a header. -/
def lineChar (s : Scan) (i : Nat) : Except Failure Scan :=
  let c := s.text[i]?.getD ' '
  if s.lineStart && c != ' ' && c != '\t' then
    if s.header != .none then .ok { s with lineStart := false }
    else if c == '=' then .error .refused
    else .ok { s with lineStart := false, key := .inPart }
  else .ok s

def plainChar (s : Scan) (i : Nat) (c : Char) : Except Failure Scan :=
  let s := quoteChar s i c
  let s := if c == '#' && s.quote.isNone && s.header == .none then blankLine s i else s
  if s.done then .ok s
  else
    let s := bracketChar s i c
    if c == '\n' then lineEnd s i else lineChar s i

def step (s : Scan) (i : Nat) : Except Failure Scan :=
  if s.done then .ok s
  else match s.text[i]? with
  | none => .ok s
  | some c =>
    if s.key == .none then plainChar s i c
    else do
      match ← keyChar s i c with
      | .inside s => return s
      | .ended s => plainChar s i c

end Scan

/-- The lines of a configuration text, with comments and line ends inside of values taken out. -/
def lines (text : List Char) : Except Failure (List (List Char)) := do
  let s ← (List.range text.length).foldlM Scan.step { text := text.toArray }
  if s.key != .none || s.quote.isSome then .error .refused
  else return splitChars '\n' s.text.toList

end RepoAudit.Toml
