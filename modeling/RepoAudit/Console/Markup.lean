import RepoAudit.Console.Constant
import RepoAudit.Console.Emoji
import RepoAudit.Console.Styled
import RepoAudit.Text.Blank

/-! # Styled text

Text for the console may hold tags in brackets, which style what follows up to the closing tag.
A bracket is a tag when a small letter or one of three signs follows it; backslashes before a tag make
it plain text.  Between tags, names between colons become pictures.

* `Markup.Piece` – a stretch of text or a tag;
* `Markup.pieces` – the pieces of a text;
* `Markup.Rendering` – the text so far, and the tags that are open;
* `Markup.render` – the text without its tags, with the stretches that they mark.
-/

namespace RepoAudit.Markup

inductive MarkupError where
  /-- A closing tag names no open one. -/
  | notOpen (name : String)
  /-- A closing tag without a name, and nothing is open. -/
  | nothingOpen
  /-- The parameters of a handler are no constants. -/
  | notConstant
  /-- A tag names a style that cannot be read. -/
  | style (e : StyleError)
  deriving Repr, DecidableEq

/-- A stretch of text, or what stands between the brackets of a tag. -/
inductive Piece where
  | text (cs : List Char)
  | tag (cs : List Char)
  deriving Repr, DecidableEq

def startsTag (c : Char) : Bool :=
  c.isLower || c == '#' || c == '/' || c == '@'

/-- Reads a tag whose bracket is open: what stands in it, and the rest. -/
def tag? (cs : List Char) : Option (List Char × List Char) :=
  if cs.head?.any startsTag then
    let inside := cs.takeWhile fun c => c != ']' && c != '['
    match cs.dropWhile fun c => c != ']' && c != '[' with
    | ']' :: rest => some (inside, rest)
    | _ => none
  else none

/-- Reads backslashes and a tag after them: how many, what stands in the tag, and the rest. -/
def escapedTag? : List Char → Option (Nat × List Char × List Char)
  | '\\' :: rest => (escapedTag? rest).map fun (n, inside, rest) => (n + 1, inside, rest)
  | '[' :: rest => (tag? rest).map fun (inside, rest) => (0, inside, rest)
  | _ => none

/-- Drops the backslash before every bracket of plain text. -/
def unescape : List Char → List Char
  | '\\' :: '[' :: rest => '[' :: unescape rest
  | c :: rest => c :: unescape rest
  | [] => []

/-- A stretch of plain text as a list of pieces; `reversed` holds its characters from the end. -/
def textPiece (reversed : List Char) : List Piece :=
  if reversed.isEmpty then [] else [.text (unescape reversed.reverse)]

/-- The pieces that `n` backslashes before a tag leave: half of them, and the tag as text when one is
left over. -/
def escapePieces (n : Nat) (inside : List Char) : List Piece :=
  textPiece (List.replicate (n / 2) '\\')
    ++ [if n % 2 = 1 then .text ('[' :: inside ++ [']']) else .tag inside]

/-- The pieces of a text; `seen` holds the plain text before the current character from the end, and
`fuel` is more than the number of characters. -/
def piecesFrom : Nat → List Char → List Char → List Piece
  | 0, seen, _ => textPiece seen
  | _ + 1, seen, [] => textPiece seen
  | fuel + 1, seen, c :: rest =>
    match escapedTag? (c :: rest) with
    | some (n, inside, rest) => textPiece seen ++ escapePieces n inside ++ piecesFrom fuel [] rest
    | none => piecesFrom fuel (c :: seen) rest

def pieces (cs : List Char) : List Piece :=
  piecesFrom (cs.length + 1) [] cs

/-! ## Tags -/

/-- A tag that is open: the style or handler it names, what stands behind its equals sign, and where the
text behind it starts. -/
structure OpenTag where
  name : String
  parameters : Option (List Char)
  start : Nat
  deriving Repr, DecidableEq

namespace OpenTag

/-- The style of an open tag: its name with its parameters. -/
def style (tag : OpenTag) : String :=
  match tag.parameters with
  | none => tag.name
  | some parameters => tag.name ++ " " ++ String.ofList parameters

def isHandler (tag : OpenTag) : Bool :=
  Text.startsWith tag.name "@"

def span (tag : OpenTag) (stop : Nat) : Span :=
  { start := tag.start, stop := stop, style := tag.style }

end OpenTag

/-- The style that a tag names, in normal form. -/
def styleName (cs : List Char) : Except MarkupError String :=
  match Style.normal cs with
  | .ok name => .ok name
  | .error e => .error (.style e)

/-- Takes out the last open tag of a name; the list starts with the last one. -/
def close? (name : String) : List OpenTag → Option (OpenTag × List OpenTag)
  | [] => none
  | first :: rest =>
    if first.name = name then some (first, rest)
    else (close? name rest).map fun (tag, rest) => (tag, first :: rest)

/-- What is read as a constant of the parameters of a handler: what stands in brackets behind a name, or
all when they have another form. -/
def handlerArguments (cs : List Char) : List Char :=
  let cs := Text.trimList Text.isBlank cs
  match cs.dropWhile fun c => Text.isWordChar c || c == '.' with
  | [] => "()".toList
  | '(' :: rest =>
    if rest.getLast? == some ')' && !rest.contains '\n' then '(' :: rest else cs
  | _ => cs

/-- The text so far, and the tags that are open, the last one first. -/
structure Rendering where
  text : Styled := { chars := [] }
  opened : List OpenTag := []
  deriving Inhabited

namespace Rendering

def place (r : Rendering) : Nat :=
  r.text.chars.length

def write (r : Rendering) (cs : List Char) : Rendering :=
  { r with text := r.text.padEnd cs }

def mark (r : Rendering) (p : Span) : Rendering :=
  { r with text := { r.text with spans := r.text.spans ++ [p] } }

/-- Closes a tag; the parameters of a handler have to be constants, and it has no style. -/
def close (r : Rendering) (tag : OpenTag) (rest : List OpenTag) : Except MarkupError Rendering :=
  let r := { r with opened := rest }
  if tag.isHandler then
    match tag.parameters with
    | some (c :: cs) =>
      if Constant.isConstant (handlerArguments (c :: cs)) then
        .ok (r.mark { start := tag.start, stop := r.place })
      else .error .notConstant
    | _ => .ok (r.mark { start := tag.start, stop := r.place })
  else .ok (r.mark (tag.span r.place))

def readTag (r : Rendering) (inside : List Char) : Except MarkupError Rendering :=
  match inside.takeWhile (· != '=') with
  | '/' :: name =>
    if (Text.trimList Text.isBlank name).isEmpty then
      match r.opened with
      | [] => .error .nothingOpen
      | tag :: rest => r.close tag rest
    else do
      let name ← styleName name
      match close? name r.opened with
      | some (tag, rest) => r.close tag rest
      | none => .error (.notOpen name)
  | name => do
    let name ← styleName name
    let parameters :=
      if inside.contains '=' then some ((inside.dropWhile (· != '=')).drop 1) else none
    return { r with opened := ⟨name, parameters, r.place⟩ :: r.opened }

end Rendering

/-- Whether a character moves the cursor and is therefore never shown. -/
def movesCursor (c : Char) : Bool :=
  [0x07, 0x08, 0x0b, 0x0c, 0x0d].contains c.toNat

def renderPieces (r : Rendering) : List Piece → Except MarkupError Rendering
  | [] => .ok r
  | .text cs :: rest => renderPieces (r.write ((Emoji.replace cs).filter (!movesCursor ·))) rest
  | .tag inside :: rest => do
    let r ← r.readTag inside
    renderPieces r rest

/-- A text without its tags, with the stretches that they mark.  A tag that stays open marks all up to
the end. -/
def render (s : String) : Except MarkupError Styled := do
  let r ← renderPieces {} (pieces s.toList)
  return (r.opened.foldl (fun r tag => r.mark (tag.span r.place)) r).text

end RepoAudit.Markup
