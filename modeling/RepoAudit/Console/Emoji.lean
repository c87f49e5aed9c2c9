import RepoAudit.Console.Emoji.Names
import RepoAudit.Text.Blank
import RepoAudit.Text.Lower
import RepoAudit.Text.Split

/-! # Names of pictures

A name between colons stands for a picture.  The name may end with the wish for the form of a picture
or of a text sign, which adds a selector.  A name that is not known is left as it stands.

* `Emoji.find?` – the characters of a name;
* `Emoji.replace` – a text with its names replaced.
-/

namespace RepoAudit.Emoji

open Text

def charsOf (codes : List Char) : List Char :=
  (splitChars ',' codes).map fun code =>
    Char.ofNat (code.foldl (fun n d =>
      16 * n + if d.isDigit then d.toNat - 0x30 else d.toNat - 0x61 + 10) 0)

def entryOf (word : List Char) : String × List Char :=
  (String.ofList (word.takeWhile (· != ':')), charsOf ((word.dropWhile (· != ':')).drop 1))

def table : List (String × List Char) :=
  ((names.toList.splitBy fun a b => a.isWhitespace == b.isWhitespace).filter fun word =>
    !word.head?.any Char.isWhitespace).map entryOf

/-- The characters that a name stands for; capital and small letters are the same. -/
def find? (name : List Char) : Option (List Char) :=
  let name := lower (String.ofList name)
  (table.find? (·.1 == name)).map (·.2)

/-- A name without the form that it wishes for, and the selector of that form. -/
def splitForm (name : List Char) : List Char × List Char :=
  let ended (form : String) := form.toList.isSuffixOf name
  if ended "-emoji" then (name.take (name.length - 6), [Char.ofNat 0xfe0f])
  else if ended "-text" then (name.take (name.length - 5), [Char.ofNat 0xfe0e])
  else (name, [])

def substitute (name : List Char) : List Char :=
  let (plain, form) := splitForm name
  match find? plain with
  | some cs => cs ++ form
  | none => ':' :: name ++ [':']

/-- Replaces names; `pending` holds the characters since the last colon, if no blank has followed it,
from the end. -/
def replaceFrom : Option (List Char) → List Char → List Char
  | none, [] => []
  | some read, [] => ':' :: read.reverse
  | none, c :: cs => if c == ':' then replaceFrom (some []) cs else c :: replaceFrom none cs
  | some read, c :: cs =>
    if c == ':' then substitute read.reverse ++ replaceFrom none cs
    else if isBlank c then ':' :: read.reverse ++ c :: replaceFrom none cs
    else replaceFrom (some (c :: read)) cs

def replace (cs : List Char) : List Char :=
  replaceFrom none cs

end RepoAudit.Emoji
