import RepoAudit.Decimal.Reader
import RepoAudit.Text.CharName
import RepoAudit.Text.CodePoint
import RepoAudit.Text.Lines
import RepoAudit.Text.Word
import RepoAudit.Value.Reader

/-! # Constants

The parameters of a handler in console text have to be constants: numbers, texts, "None" and truth values,
and tuples, sets and tables of constants.

Every reader takes the characters that are left and returns what it read with the characters after
it.  `fuel` bounds how many readers are entered.

* `Constant.Kind` – what is known about a constant;
* `Constant.Place` – how deep a constant lies in others;
* `Constant.isConstant` – whether a text is a constant.
-/

namespace RepoAudit.Constant

/-- What is known about a constant: how it may be used in a sum, next to another text, and as a member
of a set. -/
inductive Kind where
  /-- A number without sign. -/
  | number (imaginary : Bool)
  /-- A number with a sign. -/
  | signed (imaginary : Bool)
  /-- A text, or bytes. -/
  | text (bytes : Bool)
  /-- Anything else; `member` tells whether it can be a member of a set. -/
  | other (member : Bool)
  deriving Repr, DecidableEq

def Kind.isMember : Kind → Bool
  | .other member => member
  | _ => true

/-! ## Blanks -/

def dropComment (cs : List Char) : List Char :=
  cs.dropWhile (· != '\n')

/-- Drops blanks and comments, and between brackets also line ends; `fuel` is at least the number of
characters. -/
def skip (nested : Bool) : Nat → List Char → List Char
  | 0, cs => cs
  | fuel + 1, cs =>
    match cs with
    | '\\' :: '\n' :: rest => skip nested fuel rest
    | '#' :: rest => skip nested fuel (dropComment rest)
    | c :: rest =>
      if c == ' ' || c == '\t' || c.toNat == 0xc || (nested && c == '\n') then
        skip nested fuel rest
      else cs
    | [] => []

def skipAll (nested : Bool) (cs : List Char) : List Char :=
  skip nested cs.length cs

/-! ## Numbers -/

/-- Reads digits of a class, with single underscores between them. -/
def digits? (isDigit : Char → Bool) : List Char → Option (List Char × List Char)
  | [] => none
  | c :: rest =>
    if !isDigit c then none
    else match rest with
      | '_' :: rest =>
        (digits? isDigit rest).map fun (ds, rest) => (c :: ds, rest)
      | rest =>
        match digits? isDigit rest with
        | some (ds, rest) => some (c :: ds, rest)
        | none => if rest.head? == some '_' then none else some ([c], rest)

def digitsOrNone? (cs : List Char) : Option (List Char × List Char) :=
  if cs.head?.any Char.isDigit then digits? Char.isDigit cs else some ([], cs)

def exponent? (cs : List Char) : Option (Bool × List Char) :=
  match cs with
  | e :: rest =>
    if e == 'e' || e == 'E' then
      let (_, body) := Decimal.splitSign rest
      if body.head?.any Char.isDigit then
        (digits? Char.isDigit body).map fun (_, rest) => (true, rest)
      else some (false, cs)
    else some (false, cs)
  | [] => some (false, [])

/-- Reads a decimal number: digits, a fraction, an exponent, and the mark of an imaginary number.  A
plain whole number other than zero has no zero at the front and not too many digits. -/
def decimal? (cs : List Char) : Option (Bool × List Char) := do
  let (whole, rest) ← digitsOrNone? cs
  let (point, fraction, rest) ← match rest with
    | '.' :: rest => (digitsOrNone? rest).map fun (ds, rest) => (true, ds, rest)
    | rest => some (false, [], rest)
  if whole.isEmpty && fraction.isEmpty then none
  let (exponent, rest) ← exponent? rest
  let (imaginary, rest) := match rest with
    | 'j' :: rest | 'J' :: rest => (true, rest)
    | rest => (false, rest)
  let plain := !point && !exponent && !imaginary
  if plain && whole.any (· != '0')
      && (Decimal.maxDigits < whole.length || whole.head? == some '0') then none
  else some (imaginary, rest)

def number? (cs : List Char) : Option (Kind × List Char) := do
  let based (isDigit : Char → Bool) (rest : List Char) : Option (Bool × List Char) :=
    let rest := match rest with
      | '_' :: rest => rest
      | rest => rest
    (digits? isDigit rest).map fun (_, rest) => (false, rest)
  let (imaginary, rest) ← match cs with
    | '0' :: c :: rest =>
      if c == 'x' || c == 'X' then based (fun d => (Value.hexValue? d).isSome) rest
      else if c == 'o' || c == 'O' then based (fun d => '0' ≤ d && d ≤ '7') rest
      else if c == 'b' || c == 'B' then based (fun d => d == '0' || d == '1') rest
      else decimal? cs
    | cs => decimal? cs
  if rest.head?.any fun c => Text.isWordChar c || c == '.' then none
  else some (.number imaginary, rest)

/-! ## Texts -/

/-- Whether the characters behind a backslash are an escape of the given number of digits that spells
a character. -/
def escapeFits (count : Nat) (cs : List Char) : Bool :=
  let ds := cs.take count
  ds.length == count
    && (ds.foldlM (fun n d => (Value.hexValue? d).map (16 * n + ·)) 0).any (· ≤ 0x10ffff)

/-- Whether the characters behind a backslash and an N are the name of a character in braces. -/
def nameFits : List Char → Bool
  | '\x7b' :: rest => rest.contains '\x7d' && Text.CharName.isName (rest.takeWhile (· != '\x7d'))
  | _ => false

def escapeOk (raw bytes : Bool) : List Char → Bool
  | 'x' :: rest => raw || escapeFits 2 rest
  | 'u' :: rest => raw || bytes || escapeFits 4 rest
  | 'U' :: rest => raw || bytes || escapeFits 8 rest
  | 'N' :: rest => raw || bytes || nameFits rest
  | _ => true

/-- Drops a text up to its closing quotes; `escaped` tells whether a backslash stands before the
current character. -/
def closeText? (raw bytes long : Bool) (quote : Char) (escaped : Bool) :
    List Char → Option (List Char)
  | [] => none
  | c :: rest =>
    if bytes && 0x80 ≤ c.toNat then none
    else if escaped then closeText? raw bytes long quote false rest
    else if c == '\\' then
      if escapeOk raw bytes rest then closeText? raw bytes long quote true rest else none
    else if c == quote then
      if !long then some rest
      else match rest with
        | a :: b :: rest' =>
          if a == quote && b == quote then some rest'
          else closeText? raw bytes long quote false (a :: b :: rest')
        | _ => none
    else if c == '\n' && !long then none
    else closeText? raw bytes long quote false rest

def quoted? (raw bytes : Bool) (cs : List Char) : Option (Kind × List Char) :=
  match cs with
  | q :: rest =>
    if q != '"' && q != '\'' then none
    else match rest with
      | a :: b :: rest' =>
        if a == q && b == q then
          (closeText? raw bytes true q false rest').map fun rest => (.text bytes, rest)
        else (closeText? raw bytes false q false rest).map fun rest => (.text bytes, rest)
      | rest => (closeText? raw bytes false q false rest).map fun rest => (.text bytes, rest)
  | [] => none

/-- Reads a text with the letters before it that tell how it is to be read. -/
def text? (cs : List Char) : Option (Kind × List Char) :=
  let letters := (cs.takeWhile Char.isAlpha).map Char.toLower
  let rest := cs.dropWhile Char.isAlpha
  if letters.isEmpty || letters == ['u'] then quoted? false false rest
  else if letters == ['r'] then quoted? true false rest
  else if letters == ['b'] then quoted? false true rest
  else if letters == ['b', 'r'] || letters == ['r', 'b'] then quoted? true true rest
  else none

/-- Reads the texts that follow a text and make one with it; `fuel` is at least the number of
characters. -/
def texts? (nested bytes : Bool) : Nat → List Char → Option (Kind × List Char)
  | 0, cs => some (.text bytes, cs)
  | fuel + 1, cs =>
    match text? (skipAll nested cs) with
    | some (.text other, rest) => if other == bytes then texts? nested bytes fuel rest else none
    | _ => some (.text bytes, cs)

/-! ## Depth -/

/-- How deep a constant lies in others: the brackets around it, and the rules of the grammar that are open
where it starts. -/
structure Place where
  brackets : Nat
  rules : Nat
  deriving Repr, DecidableEq

namespace Place

def maxBrackets : Nat := 200

def maxRules : Nat := 6000

def outermost : Place := ⟨0, 25⟩

/-- A place below as many further rules. -/
def below (rules : Nat) (place : Place) : Place :=
  { place with rules := place.rules + rules }

/-- A place inside of a further bracket that opens as many rules. -/
def inside (rules : Nat) (place : Place) : Place :=
  ⟨place.brackets + 1, place.rules + rules⟩

def isTooDeep (place : Place) : Bool :=
  maxBrackets < place.brackets || maxRules < place.rules

/-- Whether a place is inside of brackets, where a line end is a blank. -/
def isNested (place : Place) : Bool :=
  place.brackets != 0

end Place

/-! ## Values -/

/-- The letters of the name of the empty set, each in all its forms. -/
def setLetters : List (Char × List Nat) :=
  [('s', [0x17f, 0x2e2, 0x209b, 0xff53, 0x1d42c, 0x1d460, 0x1d494, 0x1d4c8, 0x1d4fc, 0x1d530, 0x1d564,
     0x1d598, 0x1d5cc, 0x1d600, 0x1d634, 0x1d668, 0x1d69c]),
   ('e', [0x1d49, 0x2091, 0x212f, 0x2147, 0xff45, 0x1d41e, 0x1d452, 0x1d486, 0x1d4ee, 0x1d522, 0x1d556,
     0x1d58a, 0x1d5be, 0x1d5f2, 0x1d626, 0x1d65a, 0x1d68e]),
   ('t', [0x1d57, 0x209c, 0xff54, 0x1d42d, 0x1d461, 0x1d495, 0x1d4c9, 0x1d4fd, 0x1d531, 0x1d565, 0x1d599,
     0x1d5cd, 0x1d601, 0x1d635, 0x1d669, 0x1d69d])]

def isSetName (word : List Char) : Bool :=
  word.length == setLetters.length
    && (word.zip setLetters).all fun (c, letter, forms) => c == letter || forms.contains c.toNat

def word? (place : Place) (cs : List Char) : Option (Kind × List Char) :=
  let word := cs.takeWhile Text.isWordChar
  let rest := cs.dropWhile Text.isWordChar
  if ["None", "True", "False"].contains (String.ofList word) then some (.other true, rest)
  else if isSetName word && !(place.inside 24).isTooDeep then
    match skipAll place.isNested rest with
    | '(' :: rest =>
      match skipAll true rest with
      | ')' :: rest => some (.other false, rest)
      | _ => none
    | _ => none
  else none

/-- A sum of a number, perhaps with a sign, and an imaginary number without one. -/
def sum? : Kind → Kind → Option Kind
  | .number false, .number true | .signed false, .number true => some (.other true)
  | _, _ => none

mutual

/-- Reads a constant without a sign. -/
def atom? : Nat → Place → List Char → Option (Kind × List Char)
  | 0, _, _ => none
  | fuel + 1, place, cs =>
    match cs with
    | '(' :: rest =>
      let inner := place.inside 28
      if inner.isTooDeep then none
      else match skipAll true rest with
      | ')' :: rest => some (.other true, rest)
      | rest => do
        let (first, rest) ← expression? fuel inner rest
        match skipAll true rest with
        | ')' :: rest => some (first, rest)
        | ',' :: rest => do
          let (members, rest) ← items? fuel (inner.below 2) (inner.below 3) ')' rest
          some (.other (first.isMember && members), rest)
        | _ => none
    | '\x7b' :: rest =>
      let inner := place.inside 29
      if inner.isTooDeep then none
      else match skipAll true rest with
      | '\x7d' :: rest => some (.other false, rest)
      | rest => do
        let (first, rest) ← expression? fuel inner rest
        if !first.isMember then none
        match skipAll true rest with
        | '\x7d' :: rest => some (.other false, rest)
        | ',' :: rest => do
          let (members, rest) ← items? fuel (inner.below 1) (inner.below 1) '\x7d' rest
          if members then some (.other false, rest) else none
        | ':' :: rest => do
          let rest ← pairs? fuel inner (inner.below 1) rest
          some (.other false, rest)
        | _ => none
    | '.' :: '.' :: '.' :: rest => some (.other true, rest)
    | c :: _ =>
      if c.isDigit || c == '.' then number? cs
      else match text? cs with
        | some (.text bytes, rest) =>
          if (place.below 2).isTooDeep then none
          else texts? place.isNested bytes rest.length rest
        | _ => word? place cs
    | [] => none

/-- Reads a constant: a value, a number with a sign, or a sum. -/
def expression? : Nat → Place → List Char → Option (Kind × List Char)
  | 0, _, _ => none
  | fuel + 1, place, cs => do
    if place.isTooDeep then none
    let nested := place.isNested
    let (first, rest) ← match skipAll nested cs with
      | '+' :: rest | '-' :: rest =>
        if (place.below 1).isTooDeep then none
        else match atom? fuel (place.below 1) (skipAll nested rest) with
          | some (.number imaginary, rest) => some (.signed imaginary, rest)
          | _ => none
      | cs => atom? fuel place cs
    match skipAll nested rest with
    | '+' :: more | '-' :: more => do
      let (second, rest) ← atom? fuel place (skipAll nested more)
      let sum ← sum? first second
      some (sum, rest)
    | _ => some (first, rest)

/-- Reads the further items of a tuple or a set up to its closing bracket, behind a comma; tells
whether all can be members of a set.  The next item is read at `place` and those after it at `later`. -/
def items? : Nat → Place → Place → Char → List Char → Option (Bool × List Char)
  | 0, _, _, _, _ => none
  | fuel + 1, place, later, closing, cs =>
    if place.isTooDeep then none
    else match skipAll true cs with
    | c :: rest =>
      if c == closing then some (true, rest)
      else do
        let (item, rest) ← expression? fuel place (c :: rest)
        match skipAll true rest with
        | ',' :: rest => do
          let (members, rest) ← items? fuel later later closing rest
          some (item.isMember && members, rest)
        | d :: rest => if d == closing then some (item.isMember, rest) else none
        | [] => none
    | [] => none

/-- Reads the rest of a table behind a key and its colon.  The value is read at `place` and the pairs
after it at `later`. -/
def pairs? : Nat → Place → Place → List Char → Option (List Char)
  | 0, _, _, _ => none
  | fuel + 1, place, later, cs => do
    let (_, rest) ← expression? fuel place cs
    match skipAll true rest with
    | '\x7d' :: rest => some rest
    | ',' :: rest =>
      if later.isTooDeep then none
      else match skipAll true rest with
      | '\x7d' :: rest => some rest
      | rest => do
        let (key, rest) ← expression? fuel later rest
        match skipAll true rest with
        | ':' :: rest => if key.isMember then pairs? fuel later later rest else none
        | _ => none
    | _ => none

end

/-! ## Lines -/

/-- Whether what is left behind a constant says nothing: the rest of its line, and further lines without
anything but comments. -/
def isEmptyRest (cs : List Char) : Bool :=
  match skipAll false cs with
  | [] => true
  | '\n' :: rest => (skipAll true rest).isEmpty
  | _ => false

/-- Whether the rest of a tuple without brackets is in order; its next item is read at `place`. -/
def openTuple : Nat → Place → List Char → Bool
  | 0, _, _ => false
  | fuel + 1, place, cs =>
    isEmptyRest cs || match expression? fuel place cs with
      | some (_, rest) =>
        match skipAll false rest with
        | ',' :: rest => openTuple fuel (Place.outermost.below 2) rest
        | rest => isEmptyRest rest
      | none => false

/-- Drops lines without anything but comments, and the start of the first other line, which may not be
indented.  `column` is where the line stands, and `first` where its first physical line ended, if that
was not at its start; `fuel` is more than the number of characters. -/
def lineStart? : Nat → Nat → Nat → List Char → Option (List Char)
  | 0, _, _, _ => none
  | fuel + 1, column, first, cs =>
    match cs with
    | ' ' :: rest | '\t' :: rest => lineStart? fuel (column + 1) first rest
    | '\\' :: '\n' :: rest => lineStart? fuel column (if first = 0 then column else first) rest
    | '\n' :: rest => lineStart? fuel 0 0 rest
    | '#' :: rest => lineStart? fuel 0 0 ((dropComment rest).drop 1)
    | c :: rest =>
      if c.toNat = 0xc then lineStart? fuel 0 first rest
      else if (if first = 0 then column else first) = 0 then some (c :: rest)
      else none
    | [] => none

/-- Whether a text is a constant.  No reader goes on without a character, and between two characters
at most two readers are entered. -/
def isConstant (cs : List Char) : Bool :=
  let cs := Text.unifyLineEnds (cs.dropWhile fun c => c == ' ' || c == '\t')
  !cs.contains (Char.ofNat 0) && !(Text.points cs).any Text.isHalf
    && match lineStart? (cs.length + 1) 0 0 cs with
      | some cs => openTuple (2 * cs.length + 2) .outermost cs
      | none => false

end RepoAudit.Constant
