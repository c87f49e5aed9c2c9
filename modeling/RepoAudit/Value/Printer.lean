import RepoAudit.Decimal.Layout
import RepoAudit.Decimal.Reader
import RepoAudit.Text.CodePoint
import RepoAudit.Text.Printable
import RepoAudit.Value.Basic

/-! # Writing values

Two written forms.  The *display* form is for sentences: a text stands as itself, and inside a list
or an object it is quoted.  The *document* form is structured text that other programs read: only
ASCII characters, and optionally one item per line.

* `Value.display`, `Value.quoted` – the display form;
* `Value.document`, `Value.indented` – the document form.
-/

namespace RepoAudit.Value

open Text

/-! ## Escapes -/

/-- A number in lower-case hexadecimal with at least `width` digits. -/
def hex (width n : Nat) : List Char :=
  let ds := Nat.toDigits 16 n
  List.replicate (width - ds.length) '0' ++ ds

/-- A code point inside quoted text: the quote, the backslash and what has no visible form are
written as escapes. -/
def quotedPoint (quote : Char) (n : Nat) : List Char :=
  let c := Char.ofNat n
  if c == quote || c == '\\' then ['\\', c]
  else if c == '\n' then ['\\', 'n']
  else if c == '\r' then ['\\', 'r']
  else if c == '\t' then ['\\', 't']
  else if !isHalf n && isPrintable c then [c]
  else if n ≤ 0xff then '\\' :: 'x' :: hex 2 n
  else if n ≤ 0xffff then '\\' :: 'u' :: hex 4 n
  else '\\' :: 'U' :: hex 8 n

/-- A text in quotes: single quotes, unless it holds single quotes and no double ones. -/
def quoteText (s : String) : String :=
  let cs := s.toList
  let quote := if cs.contains '\'' && !cs.contains '"' then '"' else '\''
  String.ofList (quote :: (points cs).flatMap (quotedPoint quote) ++ [quote])

def unitEscape (n : Nat) : List Char :=
  '\\' :: 'u' :: hex 4 n

/-- A code point inside a text of a document: only printable ASCII stands for itself. -/
def documentPoint (n : Nat) : List Char :=
  let c := Char.ofNat n
  if c == '"' then ['\\', '"']
  else if c == '\\' then ['\\', '\\']
  else if c == '\n' then ['\\', 'n']
  else if c == '\r' then ['\\', 'r']
  else if c == '\t' then ['\\', 't']
  else if n = 0x8 then ['\\', 'b']
  else if n = 0xc then ['\\', 'f']
  else if 0x20 ≤ n && n < 0x7f then [c]
  else if n ≤ 0xffff then unitEscape n
  else
    let n := n - 0x10000
    unitEscape (0xd800 + n / 0x400) ++ unitEscape (0xdc00 + n % 0x400)

def documentText (s : String) : String :=
  String.ofList ('"' :: (codePoints s).flatMap documentPoint ++ ['"'])

def documentFloat (x : Float) : String :=
  match Decimal.Binary.ofFloat x with
  | .nan => "NaN"
  | .infinite negative => if negative then "-Infinity" else "Infinity"
  | .finite .. => Decimal.exact x

/-! ## Display form -/

mutual

/-- The form of a value inside another one, where texts are quoted. -/
def quoted : Value → String
  | .null => "None"
  | .bool b => if b then "True" else "False"
  | .int n => toString n
  | .float x => Decimal.exact x
  | .text s => quoteText s
  | .moment m => m.listed
  | .list items => "[" ++ ", ".intercalate (quotedList items) ++ "]"
  | .object fields => "\x7b" ++ ", ".intercalate (quotedFields fields) ++ "\x7d"

def quotedList : List Value → List String
  | [] => []
  | v :: rest => quoted v :: quotedList rest

def quotedFields : List (String × Value) → List String
  | [] => []
  | (k, v) :: rest => (quoteText k ++ ": " ++ quoted v) :: quotedFields rest

end

mutual

/-- Whether the whole numbers of a value have few enough digits to be written. -/
def shortNumbers : Value → Bool
  | .int n => n.natAbs < Nat.pow 10 Decimal.maxDigits
  | .list items => shortNumbersList items
  | .object fields => shortNumbersFields fields
  | _ => true

def shortNumbersList : List Value → Bool
  | [] => true
  | v :: rest => shortNumbers v && shortNumbersList rest

def shortNumbersFields : List (String × Value) → Bool
  | [] => true
  | (_, v) :: rest => shortNumbers v && shortNumbersFields rest

end

def writable : Value → Bool
  | .moment m => m.writable
  | v => shortNumbers v

/-- The form of a value in a sentence. -/
def display : Value → String
  | .text s => s
  | .moment m => m.display
  | v => quoted v

/-! ## Document form -/

/-- A line break followed by two blanks for each level. -/
def newline (level : Nat) : String :=
  String.ofList ('\n' :: List.replicate (2 * level) ' ')

/-- Writes items between brackets, one on a line; nothing stands between the brackets when there is
no item. -/
def block (opening closing : String) (level : Nat) (items : List String) : String :=
  if items.isEmpty then opening ++ closing
  else opening ++ newline (level + 1) ++ ("," ++ newline (level + 1)).intercalate items
    ++ newline level ++ closing

mutual

/-- The document form with one item on a line, at a level of nesting. -/
def indentedAt (level : Nat) : Value → String
  | .null => "null"
  | .bool b => if b then "true" else "false"
  | .int n => toString n
  | .float x => documentFloat x
  | .text s => documentText s
  | .moment m => documentText m.display
  | .list items => block "[" "]" level (indentedList (level + 1) items)
  | .object fields => block "\x7b" "\x7d" level (indentedFields (level + 1) fields)

def indentedList (level : Nat) : List Value → List String
  | [] => []
  | v :: rest => indentedAt level v :: indentedList level rest

def indentedFields (level : Nat) : List (String × Value) → List String
  | [] => []
  | (k, v) :: rest => (documentText k ++ ": " ++ indentedAt level v) :: indentedFields level rest

end

def indented (v : Value) : String :=
  indentedAt 0 v

mutual

/-- The document form on one line. -/
def document : Value → String
  | .null => "null"
  | .bool b => if b then "true" else "false"
  | .int n => toString n
  | .float x => documentFloat x
  | .text s => documentText s
  | .moment m => documentText m.display
  | .list items => "[" ++ ", ".intercalate (documentList items) ++ "]"
  | .object fields => "\x7b" ++ ", ".intercalate (documentFields fields) ++ "\x7d"

def documentList : List Value → List String
  | [] => []
  | v :: rest => document v :: documentList rest

def documentFields : List (String × Value) → List String
  | [] => []
  | (k, v) :: rest => (documentText k ++ ": " ++ document v) :: documentFields rest

end

end RepoAudit.Value
