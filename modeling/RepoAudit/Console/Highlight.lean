import RepoAudit.Console.Styled
import RepoAudit.Text.Digit
import RepoAudit.Text.Pattern
import RepoAudit.Text.Width

/-! # Highlighted text

When a text is printed by itself, numbers, quoted texts, paths, addresses and the like become stretches
of their own.

* `Highlight.patterns` – what is highlighted;
* `Highlight.mark` – a text with its highlighted stretches.
-/

namespace RepoAudit.Highlight

open Text Text.Pattern

/-! ## Characters -/

def digit : Pattern := one Char.isDigit

def anyDigit : Pattern := one fun c => (digitValue? c).isSome

def hexDigit : Pattern :=
  one fun c => c.isDigit || ('a' ≤ c && c ≤ 'f') || ('A' ≤ c && c ≤ 'F')

def wordChar : Pattern := one isWordChar

def fileChar : Pattern := one fun c => isWordChar c || "-._+".toList.contains c

def addressChar : Pattern :=
  one fun c => c.isAlphanum || "-$_+!`(),.?/;:&=%#~".toList.contains c

/-! ## Values -/

/-- Something in angle brackets, up to the last closing one. -/
def element : Pattern :=
  all [capture (char '<'), capture (many (one fun c => isWordChar c || "-.:|".toList.contains c)),
    capture (many (one fun _ => true)), capture (char '>')]

/-- A name with an equals sign and perhaps a value. -/
def assignment : Pattern :=
  all [capture (upTo 1 50 wordChar), char '=',
    maybe (capture (all [maybe (char '"'), some1 wordChar, maybe (char '"')]))]

def bracket : Pattern := capture (oneOf "[]()\x7b\x7d")

def fourNumbers : Pattern :=
  all [exactly 3 (all [upTo 1 3 digit, char '.']), upTo 1 3 digit]

/-- Hexadecimal numbers with one or two colons between them. -/
def colonNumbers : Pattern :=
  all [upTo 1 7 (all [upTo 1 4 hexDigit, char ':', maybe (char ':')]), upTo 1 4 hexDigit]

/-- The address of a device: `pairs` times one or two digits before the last ones, or `fours` times four
digits. -/
def device (pairs fours : Nat) : Pattern :=
  let two := upTo 1 2 hexDigit
  let four := exactly 4 hexDigit
  firstOf [all [exactly pairs (all [two, char '-']), two], all [exactly pairs (all [two, char ':']), two],
    all [exactly fours (all [four, char '.']), four]]

/-- Thirty-two hexadecimal digits in five groups. -/
def identifier : Pattern :=
  all [exactly 8 hexDigit, exactly 3 (all [char '-', exactly 4 hexDigit]), char '-', exactly 12 hexDigit]

/-- The name before an opening bracket. -/
def call : Pattern :=
  all [capture (times 0 none false (one fun c => isWordChar c || c == '.')), char '(']

def keyword (s : String) : Pattern :=
  all [word true, capture (literal s), word true]

def decimals : Pattern :=
  all [some1 digit, maybe (char '.'), many digit]

/-- An exponent, with as many digits as possible if `greedy`. -/
def exponent (greedy : Bool) : Pattern :=
  all [char 'e', maybe (oneOf "-+"), times 1 none greedy anyDigit]

/-- A number that is not part of a word, up to its exponent. -/
def signed : Pattern :=
  all [notBehind isWordChar, maybe (char '-'), decimals, maybe (exponent false)]

def complex : Pattern :=
  all [signed, maybe (all [oneOf "-+", decimals, maybe (exponent true)]), char 'j']

def number : Pattern :=
  either (all [signed, word true]) (all [literal "0x", many hexDigit])

/-- A path up to its last slash, and the name behind it. -/
def path : Pattern :=
  all [capture (all [word false, many (all [char '/', some1 fileChar]), char '/']),
    maybe (capture (many fileChar))]

/-- A text between quotes on one line; a backslash before the closing quotes keeps it open. -/
def between (quotes : String) : Pattern :=
  all [maybe (char 'b'), literal quotes, times 0 none false (one (· != '\n')), notBehind (· == '\\'),
    literal quotes]

def quoted : Pattern :=
  both (notBehind fun c => isWordChar c || c == '\\')
    (capture (firstOf [between "'''", between "'", between "\"\"\"", between "\""]))

def address : Pattern :=
  capture (all [firstOf (["file", "https", "http", "ws", "wss"].map literal), literal "://",
    many addressChar])

/-- What is highlighted; the last pattern takes the first kind of value that fits. -/
def patterns : List Pattern :=
  [element, assignment, bracket,
   firstOf
    [capture fourNumbers, capture colonNumbers, capture (device 7 3), capture (device 5 2),
     capture identifier, call, keyword "True", keyword "False", keyword "None",
     capture (literal "..."), capture complex, capture number, path, quoted, address]]

/-! ## Marking -/

/-- The highlighted stretches of a text; empty ones do not count. -/
def spans (cs : List Char) : List Span :=
  (patterns.flatMap fun p => p.captures cs).filterMap fun (start, stop) =>
    if start < stop then some { start := start, stop := stop } else none

/-- A text with its highlighted stretches.  They change nothing but where it is measured in pieces, so
they are looked for only when a character acts on its neighbours. -/
def mark (s : Styled) : Styled :=
  if s.chars.contains joiner || s.chars.contains selector then
    { s with spans := spans s.chars ++ s.spans }
  else s

end RepoAudit.Highlight
