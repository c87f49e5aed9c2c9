import RepoAudit.Syntax.Cursor
import RepoAudit.Text.Utf8

/-! # Source files

A parsed source file: where it lies in the repository, its language, its bytes and its syntax tree.

* `Source` – a parsed file;
* `Source.text` – the text of a node;
* `Source.row`, `Source.column` – where a byte stands;
* `Source.stringValue` – the text of a string literal without its quotes.
-/

namespace RepoAudit

open Syntax

/-- A parsed source file.  `path` is relative to the root of the repository and identifies the
module. -/
structure Source where
  path : String
  language : String
  bytes : List UInt8
  tree : Node
  deriving Inhabited

namespace Source

def root (f : Source) : Cursor := .root f.tree

def bytesOf (f : Source) (n : Node) : List UInt8 :=
  (f.bytes.drop n.start).take (n.stop - n.start)

/-- The text of a node; ill-formed bytes are shown as replacement characters. -/
def text (f : Source) (n : Node) : String :=
  Text.Utf8.decodeLossy (f.bytesOf n)

def lineEnd : UInt8 := 10

/-- The number of line ends before a byte. -/
def row (f : Source) (offset : Nat) : Nat :=
  (f.bytes.take offset).count lineEnd

/-- The number of bytes between the last line end and a byte. -/
def column (f : Source) (offset : Nat) : Nat :=
  ((f.bytes.take offset).reverse.takeWhile (· != lineEnd)).length

/-- The line on which a node starts, counted from one. -/
def firstLine (f : Source) (n : Node) : Nat :=
  f.row n.start + 1

/-- The line on which a node stops, counted from one. -/
def lastLine (f : Source) (n : Node) : Nat :=
  f.row n.stop + 1

def isQuote (c : Char) : Bool :=
  c == '\'' || c == '"' || c == Char.ofNat 0x60

/-- A text without the quotes around it, when it has a pair of equal ones. -/
def unquote (s : String) : String :=
  match s.toList with
  | [] => s
  | q :: rest =>
    if isQuote q && rest.getLast? == some q then String.ofList rest.dropLast else s

/-- The text of a node; of a string literal, what stands between the quotes. -/
def stringValue (f : Source) (n : Node) : String :=
  unquote (f.text n)

end Source

end RepoAudit
