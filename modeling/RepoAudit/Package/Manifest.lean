import RepoAudit.Text.Utf8
import RepoAudit.Value.Reader
import RepoAudit.Volume

/-! # Manifests

The packages that a repository declares in its manifest.  A section of the manifest is normally an
object from packages to versions; a list of pairs will do as well.

* `ManifestError` – why a manifest cannot be used;
* `Manifest.declared` – the declared packages with their versions.
-/

namespace RepoAudit

inductive ManifestError where
  /-- The bytes are not well-formed text. -/
  | undecodable
  /-- The document cannot be read for a reason other than its grammar. -/
  | unreadable (cause : ReadError)
  /-- The document is no object. -/
  | notObject
  /-- A section, or an entry of one, is not made of entries, or its name cannot be a key. -/
  | notEntries
  /-- An entry of a section is no pair. -/
  | notPair
  /-- A package name is no text. -/
  | nameNotText
  deriving Repr, DecidableEq

namespace Manifest

def fileName : String := "package.json"

def canBeKey : Value → Bool
  | .list _ | .object _ => false
  | _ => true

def pairOf : List Value → Except ManifestError (Value × Value)
  | [k, v] => if canBeKey k then .ok (k, v) else .error .notEntries
  | _ => .error .notPair

/-- An entry of a section that is a list: a list of two, a text of two code points, or an object of
two fields, of which the names count. -/
def entryOf : Value → Except ManifestError (Value × Value)
  | .list items => pairOf items
  | .text s => pairOf ((Text.eachPoint s).map .text)
  | .object fields => pairOf (fields.map fun f => .text f.1)
  | _ => .error .notEntries

/-- The entries of a section.  A section that says nothing has none. -/
def entriesOf (section_ : Value) : Except ManifestError (List (Value × Value)) :=
  if section_.truthy then
    match section_ with
    | .object fields => .ok (fields.map fun f => (.text f.1, f.2))
    | .list items => items.mapM entryOf
    | .text _ => .error .notPair
    | _ => .error .notEntries
  else .ok []

def sections : List String := ["dependencies", "devDependencies"]

def named (entry : Value × Value) : Except ManifestError (String × Value) :=
  match entry.1 with
  | .text name => .ok (name, entry.2)
  | _ => .error .nameNotText

/-- The packages that a manifest declares, with their versions.  A package keeps the place of its
first declaration and gets the version of its last. -/
def packagesOf (manifest : Value) : Except ManifestError (List (String × Value)) :=
  match manifest with
  | .object _ => do
    let entries ← sections.mapM fun s => entriesOf (manifest.getD s)
    let entries ← entries.flatten.mapM named
    return Value.collectFields entries
  | _ => .error .notObject

/-- The packages declared by the bytes of a manifest.  A document that breaks the grammar declares
none. -/
def parse (bytes : List UInt8) : Except ManifestError (List (String × Value)) :=
  match Text.Utf8.decode? bytes with
  | none => .error .undecodable
  | some text =>
    match Value.parse text with
    | .error .malformed => .ok []
    | .error cause => .error (.unreadable cause)
    | .ok manifest => packagesOf manifest

/-- The packages that a repository declares; without a manifest there are none. -/
def declared (v : Volume) (root : Place) : Except ManifestError (List (String × Value)) :=
  match v.fileAt? (root ++ [fileName]) with
  | some file => parse file.bytes
  | none => .ok []

end Manifest

end RepoAudit
