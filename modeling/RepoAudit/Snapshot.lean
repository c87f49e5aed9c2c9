import RepoAudit.Text.Utf8
import RepoAudit.Value.Basic
import RepoAudit.Volume

/-! # Snapshots

A snapshot describes, as a value, the files that a run can see.  A file has a path relative to the
repository and either its text or its bytes in hexadecimal; a script that the grammar accepts also
has its syntax tree.  A path that ends in a slash is an empty directory.

A tree is a list: a label, the first byte, the byte after the last, and the children.  A label is a
kind, perhaps after a role and a colon; an apostrophe before the kind marks a keyword.

* `Snapshot.node?` – a syntax tree;
* `Snapshot.volume` – the files as a volume with the repository in it.
-/

namespace RepoAudit.Snapshot

open Syntax

/-! ## Trees -/

/-- Reads a kind: an apostrophe at the front marks a keyword. -/
def kindOf (cs : List Char) : Kind × Bool :=
  match cs with
  | '\'' :: rest => (String.ofList rest, false)
  | cs => (String.ofList cs, true)

/-- Reads a label: an optional role with a colon, then the kind. -/
def labelOf (label : String) : Option String × Kind × Bool :=
  let cs := label.toList
  if cs.contains ':' then
    (some (String.ofList (cs.takeWhile (· != ':'))), kindOf ((cs.dropWhile (· != ':')).drop 1))
  else (none, kindOf cs)

mutual

def node? : Value → Option Node
  | .list (.text label :: .int start :: .int stop :: children) =>
    (nodes? children).map fun children =>
      let (role, kind, named) := labelOf label
      { kind := kind, named := named, role := role, start := start.toNat, stop := stop.toNat
        children := children }
  | _ => none

def nodes? : List Value → Option (List Node)
  | [] => some []
  | v :: rest =>
    match node? v, nodes? rest with
    | some n, some ns => some (n :: ns)
    | _, _ => none

end

/-! ## Files -/

def nibble (c : Char) : Nat :=
  if c.isDigit then c.toNat - 0x30
  else if 'a' ≤ c ∧ c ≤ 'f' then c.toNat - 0x61 + 10
  else if 'A' ≤ c ∧ c ≤ 'F' then c.toNat - 0x41 + 10
  else 0

def bytesOfHex : List Char → List UInt8
  | a :: b :: rest => UInt8.ofNat (nibble a * 16 + nibble b) :: bytesOfHex rest
  | _ => []

/-- The bytes of a field that holds a text, or of one that holds hexadecimal digits. -/
def bytesOf (v : Value) (textKey hexKey : String) : Option (List UInt8) :=
  match v.getD textKey, v.getD hexKey with
  | .text s, _ => some (Text.Utf8.encode s)
  | _, .text h => some (bytesOfHex h.toList)
  | _, _ => none

def home : Place := ["repo"]

def addEntry (v : Volume) (described : Value) : Volume :=
  match described.getD "path" with
  | .text path =>
    match Volume.resolve home path with
    | some place =>
      let entry :=
        if Text.endsWith path "/" then Entry.directory
        else .file
          { bytes := (bytesOf described "source" "hex").getD []
            tree := node? (described.getD "tree") }
      { v with entries := v.entries.insert place entry }
    | none => v
  | _ => v

/-- The described files as a volume whose base has the absolute path `base`. -/
def volume (base : String) (files : List Value) : Volume :=
  files.foldl addEntry
    { base := base, home := home, entries := Table.ofList [(home, .directory)] }

end RepoAudit.Snapshot
