import RepoAudit.Settings.Toml.Quoted
import RepoAudit.Settings.Toml.Scalar

/-! # Entries of configuration text

A key with its value.  A value may be a list or a table that holds values and entries again.

* `Toml.Pending` – a long text whose end stands on a later line;
* `Toml.splitEntry` – the key and the value of a line;
* `Toml.keyPath` – the tables that a key leads through, and its last part;
* `Toml.value`, `Toml.entry` – reads a value; reads a line into a table.
-/

namespace RepoAudit.Toml

open Text

/-- A long text whose end stands on a later line. -/
structure Pending where
  key : String
  /-- The text so far, with its opening quotes. -/
  text : List Char
  /-- Whether a backslash joins the next line without a line end. -/
  joined : Bool

/-! ## Key and value -/

/-- Whether a value that follows its equals sign without a blank stands for itself: it starts with a
quote or a bracket, or is a truth value, a number, a date or a time. -/
def selfStanding (cs : List Char) : Except Failure Bool := do
  match cs with
  | [] => return true
  | c :: _ =>
    if " \t'\"[\x7b".toList.contains c then return true
    let word := strip cs
    if word == "true".toList || word == "false".toList then return true
    if (Decimal.decimal? (String.ofList cs)).isSome then return true
    if (← moment? cs).isSome then return true
    return (clockDigits? cs).isSome

/-- Splits a line at a later equals sign until the value stands for itself.  `fuel` is more than the
number of equals signs. -/
def splitFrom (line : List Char) : Nat → Nat → Bool → List (List Char) → List Char →
    Except Failure (List Char × List Char × Bool)
  | 0, _, _, _, _ => .error .refused
  | fuel + 1, i, strict, before, last => do
    if ← selfStanding last then return (strip (['='].intercalate before), strip last, strict)
    let parts := cutAt ['='] (i + 1) line
    let next := parts.getLast?.getD []
    if next == last then .error .refused
    else splitFrom line fuel (i + 1) (strict && strictNumber next) parts.dropLast next

/-- The key and the value of a line, and whether the value is in order as a number. -/
def splitEntry (line : List Char) : Except Failure (List Char × List Char × Bool) :=
  let i := 1 + enclosed ['='] line
  let parts := cutAt ['='] i line
  let last := parts.getLast?.getD []
  let plain := if last.head?.any Char.isDigit then last.filter (· != '_') else last
  splitFrom line (line.length + 2) i (strictNumber last) parts.dropLast plain

/-- The parts of a key with dots, where parts in quotes are not cut. -/
def dottedParts (inside : Bool) : List (List Char) → List (List Char)
  | [] => []
  | p :: ps =>
    (if inside then [p] else (splitChars '.' p).map strip) ++ dottedParts (!inside) ps

/-- The tables that a key leads through, and the name in the last of them. -/
def keyPath (key : List Char) : Except Failure (List String × String) :=
  if key.contains '.' then
    let parts := if key.any isQuote then dottedParts false (quoteParts key) else splitChars '.' key
    let parts := (parts.reverse.dropWhile List.isEmpty).reverse
    match parts.getLast? with
    | some name =>
      .ok ((parts.dropLast.filter (!·.isEmpty)).map nameOf, nameOf (strip name))
    | none => .error .cutShort
  else match key with
    | [] => .error .cutShort
    | c :: _ =>
      if isQuote c && key.getLast? == some c then
        (unescape (inner key)).map fun name => ([], nameOf name)
      else .ok ([], nameOf key)

/-! ## Long texts -/

def isTextList (cs : List Char) : Bool :=
  (strip (inner cs)).head?.any isQuote

/-- Joins the last item of a list with those before it, which come last first, until it starts with
a quote. -/
def lastTexts (current : List Char) : List (List Char) → Except Failure (List Char)
  | [] => .ok current
  | item :: items =>
    match current with
    | [] => .error .cutShort
    | c :: _ => if isQuote c then .ok current else lastTexts (item ++ ',' :: current) items

/-- Where a long text may start: in the value itself, or behind the last comma of a list of texts
that is not closed. -/
def longStart (cs : List Char) : Except Failure (List Char) :=
  if cs.head? == some '[' && (strip cs).getLast? != some ']' && isTextList cs then
    match (splitChars ',' (strip (cs.drop 1))).reverse with
    | last :: items => lastTexts last items
    | [] => .ok []
  else .ok cs

/-- Whether a value starts a long text that it does not close. -/
def opensLong (cs : List Char) : Except Failure Bool := do
  if cs.length < 3 then return false
  match ← longStart cs with
  | [] => .error .cutShort
  | [q] => if isQuote q then .error .cutShort else return false
  | [q, q'] => if isQuote q && q' == q then .error .cutShort else return false
  | q :: q' :: q'' :: rest =>
    let word := q :: q' :: q'' :: rest
    let closed := 5 < word.length && (word.reverse.take 3).all (· == q)
    return isQuote q && q' == q && q'' == q && !closed

/-! ## Items of a list -/

/-- Whether a text ends with the quote it starts with. -/
def bounded (cs : List Char) : Bool :=
  cs.head? == cs.getLast? && !escapesNext (inner cs)

/-- Whether an item of a list of texts goes on behind the next comma. -/
def unfinished (item : List Char) : Bool :=
  let cs := strip item
  !bounded cs || match cs with
    | a :: b :: c :: _ =>
      let fromEnd := cs.reverse
      b == a && c == a && fromEnd[1]? != some a && fromEnd[2]? != some a
    | _ => false

/-- Joins the pieces of texts that hold commas.  `joined` tells whether the current piece is joined
already, so that it may not end unfinished. -/
def joinTexts (joined : Bool) (current : List Char) :
    List (List Char) → Except Failure (List (List Char))
  | [] => if joined && unfinished current then .error .cutShort else .ok [current]
  | next :: rest =>
    if unfinished current then joinTexts true (current ++ ',' :: next) rest
    else (joinTexts false next rest).map (current :: ·)

/-- Cuts at the commas outside of brackets. -/
def nestedItems (depth : Int) : List Char → List (List Char)
  | [] => [[]]
  | c :: cs =>
    if c == ',' && depth == 0 then [] :: nestedItems depth cs
    else
      let depth := if c == '[' then depth + 1 else if c == ']' then depth - 1 else depth
      match nestedItems depth cs with
      | item :: items => (c :: item) :: items
      | [] => [[c]]

/-- The tables of a list, as the pieces from one opening brace to its closing one.  `first` is where
the current piece starts and `i` where the search is; `fuel` is at least the number of characters. -/
def tableItems (cs : Array Char) : Nat → (first i depth : Nat) → (inText : Bool) →
    List (List Char)
  | 0, _, _, _, _ => []
  | fuel + 1, first, i, depth, inText =>
    if cs.size ≤ i + 1 then []
    else
      let c := cs[i]?.getD ' '
      let inText :=
        if isQuote c then !inText || escapesNext ((cs.toList.take i)) else inText
      let depth := if !inText && c == '\x7b' then depth + 1 else depth
      if inText || c != '\x7d' then tableItems cs fuel first (i + 1) depth inText
      else if 1 < depth then tableItems cs fuel first (i + 1) (depth - 1) inText
      else
        let gap := ((cs.toList.drop (i + 2)).dropLast.takeWhile (· != '\x7b')).length
        let next := i + 2 + gap
        (cs.toList.take (i + 1)).drop first :: tableItems cs fuel next (next + 1) depth inText

def listItems (cs : List Char) : Except Failure (List (List Char)) :=
  let cs := strip cs
  let body := inner cs
  if !body.contains '[' || !(strip (body.takeWhile (· != '['))).isEmpty then
    if (strip body).head? == some '\x7b' then
      .ok (tableItems cs.toArray cs.length 1 2 (if cs[1]? == some '\x7b' then 1 else 0) false)
    else match splitChars ',' body with
      | first :: rest => if isTextList cs then joinTexts false first rest else .ok (first :: rest)
      | [] => .ok []
  else .ok (nestedItems 0 body)

/-! ## Entries of a table on one line -/

/-- Whether an entry of a table on one line holds all of its value. -/
def isComplete (group : List Char) : Except Failure Bool :=
  if !group.contains '=' then .error .refused
  else
    let word := strip ((group.dropWhile (· != '=')).drop 1)
    match word.head?, word.getLast? with
    | some first, some last =>
      .ok ((first == last && isQuote first) || first == '-' || first.isDigit
        || word == "true".toList || word == "false".toList
        || (first == '[' && last == ']') || (first == '\x7b' && last == '\x7d'))
    | _, _ => .error .cutShort

/-- Joins the pieces of entries whose values hold commas. -/
def joinEntries (current : List Char) : List (List Char) → Except Failure (List (List Char))
  | [] => do if ← isComplete current then return [current] else .error .refused
  | next :: rest => do
    if ← isComplete current then
      let entries ← joinEntries next rest
      return current :: entries
    else joinEntries (current ++ ',' :: next) rest

def tableEntries (cs : List Char) : Except Failure (List (List Char)) :=
  match splitChars ',' (inner cs) with
  | [only] => if (strip only).isEmpty then .ok [] else joinEntries only []
  | first :: rest => joinEntries first rest
  | [] => .ok []

/-! ## Values -/

def fitsWith : Value → Value → Bool
  | .bool _, .bool _ | .int _, .int _ | .float _, .float _ | .text _, .text _
  | .list _, .list _ | .object _, .object _ => true
  | .moment m, .moment m' => m.sameKind m'
  | _, _ => false

/-- Changes the value that a path of tables leads to; missing tables are made. -/
def within (f : Value → Except Failure Value) : List String → Value → Except Failure Value
  | [], level => f level
  | p :: ps, .object fields => do
    let sub ← within f ps ((Value.lookup p fields).getD (.object []))
    return .object (Value.setField p sub fields)
  | _ :: _, _ => .error .notTable

/-- Adds a name to a table, which must not have it yet. -/
def addTo (name : String) (v : Value) : Value → Except Failure Value
  | .object fields =>
    if (Value.lookup name fields).isSome then .error .refused
    else .ok (.object (fields ++ [(name, v)]))
  | _ => .error .refused

/-- Checks that a table does not have a name yet, under which a long text is to come. -/
def awaitIn (name : String) : Value → Except Failure Value
  | .object fields =>
    if (Value.lookup name fields).isSome then .error .refused
    else if name.isEmpty then .error .unnamed
    else .ok (.object fields)
  | _ => .error .refused

mutual

/-- The value of a word, a list or a table, with `budget` for what is nested in it. -/
def value : Nat → Bool → List Char → Except Failure Value
  | budget + 2, strict, cs =>
    match cs with
    | [] => .error .refused
    | '[' :: _ => do
      let items ← listItems cs
      let vs ← items.foldlM (fun (vs : List Value) item => do
        let word := strip item
        if word.isEmpty then return vs
        let v ← value budget true word
        if vs.all (fitsWith v) then return vs ++ [v] else .error .refused) []
      return .list vs
    | '\x7b' :: _ => inlineTable (budget + 1) cs (.object [])
    | c :: _ =>
      if isQuote c then (quotedText c cs).map fun s => .text (String.ofList s)
      else scalar strict cs
  | _, _, _ => .error .tooDeep

/-- Reads the entries of a table on one line into a table; a long text that is not closed ends
them. -/
def inlineTable : Nat → List Char → Value → Except Failure Value
  | 0, _, _ => .error .tooDeep
  | budget + 1, cs, table => do
    let groups ← tableEntries cs
    let (table, _) ← groups.foldlM (fun (state : Value × Bool) group => do
      if state.2 then return state
      let (table, pending) ← entry budget group state.1
      return (table, pending.isSome)) (table, false)
    return table

def entry : Nat → List Char → Value → Except Failure (Value × Option Pending)
  | 0, _, _ => .error .tooDeep
  | budget + 1, line, table => do
    let (key, word, strict) ← splitEntry line
    let (path, name) ← keyPath key
    let _ ← within .ok path table
    if ← opensLong word then
      let table ← within (awaitIn name) path table
      let joined := escapesNext word
      return (table, some {
        key := name
        text := if joined then word.dropLast else word ++ ['\n']
        joined := joined })
    else
      let v ← value budget strict word
      let table ← within (addTo name v) path table
      return (table, none)

end

end RepoAudit.Toml
