import RepoAudit.Settings.Toml.Entry
import RepoAudit.Settings.Toml.Line

/-! # Configuration text

Reads configuration text: headers of tables and of lists of tables, and keys with texts, numbers,
truth values, dates, lists or tables.

* `Toml.Place` – the way from the whole to the table that entries go to;
* `Toml.header` – the names in a header;
* `Toml.parse` – the value of a text.
-/

namespace RepoAudit.Toml

open Text

/-- How deep values may be nested: a list counts two, a table on one line three. -/
def maxNesting : Nat := 990

/-! ## Places -/

/-- One step into a value: to a field of a table, or to the last item of a list. -/
inductive Step where
  | field (name : String)
  | last
  deriving Repr, DecidableEq

/-- The way from the whole to a value inside of it. -/
abbrev Place := List Step

/-- The value at a place.  The last item of a text is its last code point. -/
def valueAt : Place → Value → Value
  | [], v => v
  | .field name :: place, v => valueAt place (v.getD name)
  | .last :: place, .list items => valueAt place (items.getLast?.getD .null)
  | .last :: place, .text s =>
    valueAt place (.text ((eachPoint s).getLast?.getD ""))
  | .last :: _, _ => .null

def replaceAt (new : Value) : Place → Value → Value
  | [], _ => new
  | .field name :: place, .object fields =>
    .object (Value.setField name
      (replaceAt new place ((Value.lookup name fields).getD .null)) fields)
  | .last :: place, .list items =>
    .list (items.dropLast ++ (items.getLast?.map (replaceAt new place)).toList)
  | _, v => v

/-! ## Headers -/

def isBareName (cs : List Char) : Bool :=
  !cs.isEmpty && cs.all fun c => c.isAlphanum || c == '_' || c == '-'

def isClosedName (cs : List Char) : Bool :=
  cs.length != 1 && cs.head? == cs.getLast?

/-- Joins parts of a name in quotes, which holds dots, until it is closed.  Returns the name and the
parts that are left. -/
def closeName (current : List Char) : List (List Char) → Option (List Char × List (List Char))
  | [] => if isClosedName (strip current) then some (inner (strip current), []) else none
  | next :: rest =>
    if isClosedName (strip current) then some (inner (strip current), next :: rest)
    else closeName (current ++ '.' :: next) rest

/-- The names of a header; `fuel` is at least the number of parts. -/
def headerNames : Nat → List (List Char) → Except Failure (List String)
  | 0, _ => .ok []
  | _, [] => .ok []
  | fuel + 1, part :: parts =>
    let name := strip part
    if name.head?.any isQuote then
      match closeName name parts with
      | some (name, rest) => do
        let names ← headerNames fuel rest
        return nameOf name :: names
      | none => .error .refused
    else if isBareName name then do
      let names ← headerNames fuel parts
      return nameOf name :: names
    else .error .refused

/-- The names in a header line behind its opening brackets. -/
def header (closing line : List Char) : Except Failure (List String) :=
  let i := 1 + enclosed closing line
  let parts := cutAt closing i line
  if parts.length < i + 1 || !(strip (parts.getLast?.getD [])).isEmpty then .error .refused
  else
    let names := splitChars '.' (closing.intercalate parts.dropLast)
    headerNames names.length names

/-! ## Tables -/

/-- What is read so far: the whole, the place of the current table, the names of tables that only
longer headers have mentioned, and a long text that goes on. -/
structure Document where
  whole : Value := .object []
  current : Place := []
  mentioned : List String := []
  pending : Option Pending := none

namespace Document

def fresh (listed : Bool) : Value :=
  if listed then .list [.object []] else .object []

/-- Goes into the last item of a list, which a header of a list of tables means. -/
def intoLast (d : Document) : Except Failure Document :=
  match valueAt d.current d.whole with
  | .object _ => .ok d
  | .list [] => .error .cutShort
  | .text s => if s.isEmpty then .error .cutShort else .ok { d with current := d.current ++ [.last] }
  | .list _ => .ok { d with current := d.current ++ [.last] }
  | _ => .error .notTable

/-- Goes to a field of the current table.  `final` tells whether it is the last name of the header:
then it has to be new, or only mentioned so far, or a list of tables that gets one more. -/
def intoField (d : Document) (listed final : Bool) (name : String)
    (fields : List (String × Value)) : Except Failure Document :=
  let place := d.current ++ [.field name]
  match Value.lookup name fields with
  | none =>
    .ok { d with
      whole := replaceAt (.object (fields ++ [(name, fresh (listed && final))])) d.current d.whole
      current := place
      mentioned := if final then d.mentioned else d.mentioned ++ [name] }
  | some v =>
    if !final then .ok { d with current := place }
    else if d.mentioned.contains name then
      if listed then .error .refused
      else .ok { d with current := place, mentioned := d.mentioned.erase name }
    else if !listed then .error .refused
    else match v with
      | .list items =>
        .ok { d with whole := replaceAt (.list (items ++ [.object []])) place d.whole, current := place }
      | _ => .error .notList

/-- Goes to a field of the last table of the current list, which may be there already. -/
def intoListed (d : Document) (new : Value) (name : String) : Except Failure Document :=
  let last := d.current ++ [.last]
  match valueAt last d.whole with
  | .object fields =>
    let fields := if (Value.lookup name fields).isSome then fields else fields ++ [(name, new)]
    .ok { d with
      whole := replaceAt (.object fields) last d.whole
      current := last ++ [.field name] }
  | _ => .error .notTable

def into (d : Document) (listed final : Bool) (name : String) : Except Failure Document := do
  if name.isEmpty then .error .refused
  let d ← match valueAt d.current d.whole with
    | .object fields => intoField d listed final name fields
    | .list [] => .error .cutShort
    | .list _ => intoListed d (fresh (listed && final)) name
    | .text s => .error (if s.isEmpty then .cutShort else .notTable)
    | _ => .error .notTable
  if listed then d.intoLast else return d

def intoAll (listed : Bool) : List String → Document → Except Failure Document
  | [], d => .ok d
  | name :: names, d => do
    let d ← d.into listed names.isEmpty name
    intoAll listed names d

def headerLine (d : Document) (line : List Char) : Except Failure Document := do
  let (listed, closing, rest) ← match line with
    | ['['] => Except.error Failure.refused
    | '[' :: '[' :: rest => pure (true, "]]".toList, rest)
    | _ => pure (false, "]".toList, line.drop 1)
  let names ← header closing rest
  intoAll listed names { d with current := [] }

/-! ## Lines -/

def pendingLine (d : Document) (p : Pending) (line : List Char) : Except Failure Document := do
  let text := p.text ++ line
  let closed ← match text.head? with
    | some '[' =>
      match line.getLast? with
      | some c => pure (c == ']')
      | none => .error .cutShort
    | some q => pure (2 < line.length && (line.reverse.take 3).all (· == q))
    | none => pure false
  if closed then
    let v ← value maxNesting true text
    match valueAt d.current d.whole with
    | .object fields =>
      let table := Value.object (Value.setField p.key v fields)
      return { d with whole := replaceAt table d.current d.whole, pending := none }
    | _ => .error .notTable
  else
    let joined := escapesNext text
    let text := if joined then text.dropLast else text ++ ['\n']
    return { d with pending := some { p with text := text, joined := joined } }

def entryLine (d : Document) (line : List Char) : Except Failure Document := do
  let table := valueAt d.current d.whole
  match line with
  | '[' :: _ => d.headerLine line
  | '\x7b' :: _ =>
    if line.getLast? != some '\x7d' then .error .refused
    let table ← inlineTable maxNesting line table
    return { d with whole := replaceAt table d.current d.whole }
  | _ =>
    if line.contains '=' then
      let (table, pending) ← entry maxNesting line table
      return { d with whole := replaceAt table d.current d.whole, pending := pending }
    else return d

/-- Reads a line.  Blanks around it are kept only in a long text behind its first line end. -/
def line (d : Document) (cs : List Char) : Except Failure Document :=
  match d.pending with
  | none =>
    let cs := strip cs
    if cs.isEmpty then .ok d else d.entryLine cs
  | some p =>
    let cs := if p.joined || !p.text.contains '\n' then strip cs else cs
    if cs.isEmpty && p.joined then .ok d else d.pendingLine p cs

end Document

def parse (text : List Char) : Except Failure Value := do
  let ls ← lines text
  let d ← ls.foldlM Document.line {}
  return d.whole

end RepoAudit.Toml
