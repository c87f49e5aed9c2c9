import RepoAudit.Settings.Toml.Basic
import RepoAudit.Text.CodePoint
import RepoAudit.Value.Reader

/-! # Texts in quotes

A text stands between single or double quotes, or between three of them.  Only double quotes have
escapes, and these are read in three rounds: four digits, eight digits, one letter.  A later round
sees what an earlier one has made.

* `Toml.unescape` – escapes of one letter;
* `Toml.quotedText` – the text of a word in quotes.
-/

namespace RepoAudit.Toml

open Text

def letterEscape? : Char → Option Char
  | '0' => some (Char.ofNat 0)
  | 'b' => some (Char.ofNat 0x8)
  | 'f' => some (Char.ofNat 0xc)
  | 'n' => some '\n'
  | 'r' => some '\r'
  | 't' => some '\t'
  | '"' => some '"'
  | _ => none

/-- Replaces the escapes of one letter; those by number are left alone. -/
def unescape : List Char → Except Failure (List Char)
  | '\\' :: e :: rest =>
    if e == '\\' then (unescape rest).map ('\\' :: ·)
    else if e == 'u' || e == 'U' then (unescape rest).map ('\\' :: e :: ·)
    else match letterEscape? e with
      | some c => (unescape rest).map (c :: ·)
      | none => .error .refused
  | c :: rest => (unescape rest).map (c :: ·)
  | [] => .ok []

/-! ## Escapes by number -/

def numbered (n : Nat) : Except Failure (List Char) :=
  if Nat.pow 2 31 ≤ n then .error .tooLarge
  else if n < 0x110000 then .ok (spell n)
  else .error .refused

/-- The code point that hexadecimal digits write.  Behind a leading `d` only `0` to `7` may follow, which
keeps out the halves of surrogate pairs where four digits write them. -/
def written (ds : List Char) : Except Failure (List Char) :=
  match ds.foldlM (fun n d => (Value.hexValue? d).map (16 * n + ·)) 0 with
  | none => .error .refused
  | some n =>
    match ds with
    | [] => .error .cutShort
    | d :: rest =>
      if d.toLower != 'd' then numbered n
      else match rest with
        | [] => .error .cutShort
        | e :: _ => if '0' ≤ e ∧ e ≤ '7' then numbered n else .error .refused

/-- Replaces the escapes at the front of the parts of a text that was cut at them.  `escaped` tells
whether a backslash before the next one takes its meaning away. -/
def numberedParts (letter : Char) (count : Nat) (escaped : Bool) :
    List (List Char) → Except Failure (List Char)
  | [] => .ok []
  | part :: parts =>
    if escaped then
      (numberedParts letter count (escapesNext part) parts).map ('\\' :: letter :: part ++ ·)
    else do
      let point ← written (part.take count)
      let rest ← numberedParts letter count false parts
      return point ++ part.drop count ++ rest

/-- Replaces the escapes of a text that a letter announces and `count` digits spell. -/
def replaceNumbered (letter : Char) (count : Nat) (cs : List Char) : Except Failure (List Char) :=
  match cutAll ['\\', letter] cs with
  | first :: parts => (numberedParts letter count (escapesNext first) parts).map (first ++ ·)
  | [] => .ok cs

/-! ## Closing quotes -/

/-- What is known about a text between its quotes: whether it is closed, and how many quotes stand
in a row. -/
structure Closing where
  closed : Bool := false
  row : Nat := 0

/-- Takes a part between quotes into account; nothing may follow once the text is closed. -/
def Closing.step (triple : Bool) (s : Closing) (part : List Char) : Except Failure Closing :=
  if part.isEmpty then
    .ok (if triple then { s with row := s.row + 1 } else { s with closed := true })
  else if escapesNext part then .ok s
  else if s.closed then .error .refused
  else if !triple || 1 < s.row then .ok { s with closed := true }
  else .ok { s with row := 0 }

/-- Refuses characters behind the closing quotes of a word. -/
def checkClosing (quote : Char) (word : List Char) : Except Failure Unit := do
  let parts := splitChars quote (word.drop 1)
  match parts with
  | [] :: [] :: rest => let _ ← rest.foldlM (Closing.step true) {}
  | parts => let _ ← parts.foldlM (Closing.step false) {}

/-- Refuses an escape that means nothing.  `escaped` tells whether the backslash before a part is
itself escaped. -/
def checkEscapes (escaped : Bool) : List (List Char) → Except Failure Unit
  | [] => .ok ()
  | [] :: parts => checkEscapes (!escaped) parts
  | (e :: _) :: parts =>
    if (letterEscape? e).isNone && e != 'u' && e != 'U' && !escaped then .error .refused
    else checkEscapes false parts

/-- The characters between the quotes of a word; a word that starts with three quotes, or has
nothing between two of them, has two quotes more at each end. -/
def betweenQuotes (quote : Char) (word : List Char) : List Char :=
  let word := match word with
    | [_, q] => if q == quote then [] else word
    | _ :: q :: q' :: _ =>
      if q == quote && q' == quote then (word.take (word.length - 2)).drop 2 else word
    | _ => word
  inner word

def quotedText (quote : Char) (word : List Char) : Except Failure (List Char) := do
  checkClosing quote word
  if quote == '"' then
    checkEscapes false ((splitChars '\\' word).drop 1)
    let word ← replaceNumbered 'u' 4 (spellChars word)
    let word ← replaceNumbered 'U' 8 word
    let word ← unescape word
    return betweenQuotes quote word
  else return spellChars (betweenQuotes quote word)

end RepoAudit.Toml
