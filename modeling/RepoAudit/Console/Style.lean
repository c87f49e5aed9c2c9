import RepoAudit.Decimal.Reader
import RepoAudit.Text.Lower
import RepoAudit.Text.Split
import RepoAudit.Value.Reader

/-! # Styles of console text

A style is written as words: attributes, each of which may be negated; a colour; a colour behind "on" for
the background; and an address behind "link".  One style may be written in several ways, and its
*normal form* is the same for all of them.

* `Style` – a style;
* `Style.parse` – the style of some words;
* `Style.normal` – the normal form of the name of a style;
* `Style.check` – whether a style can be read at all.
-/

namespace RepoAudit

inductive StyleError where
  /-- A word is neither an attribute nor a colour, or one is missing. -/
  | unknown
  /-- A part of a colour has no digits. -/
  | noDigits
  deriving Repr, DecidableEq

/-- A style; attributes that are not mentioned are left as they are. -/
structure Style where
  attributes : List (String × Bool) := []
  color : Option String := none
  background : Option String := none
  link : Option String := none
  deriving Repr, DecidableEq, Inhabited

namespace Style

open Text

/-! ## Attributes -/

/-- The attributes, in the order in which a style lists them. -/
def attributeNames : List String :=
  ["bold", "dim", "italic", "underline", "blink", "blink2", "reverse", "conceal", "strike",
   "underline2", "frame", "encircle", "overline"]

def shortNames : List (String × String) :=
  [("b", "bold"), ("d", "dim"), ("i", "italic"), ("u", "underline"), ("r", "reverse"),
   ("c", "conceal"), ("s", "strike"), ("uu", "underline2"), ("o", "overline")]

def attribute? (word : String) : Option String :=
  if attributeNames.contains word then some word
  else (shortNames.find? (·.1 == word)).map (·.2)

/-! ## Colours -/

def colorNames : String := "
black red green yellow blue magenta cyan white bright_black bright_red bright_green
bright_yellow bright_blue bright_magenta bright_cyan bright_white grey0 gray0 navy_blue
dark_blue blue3 blue1 dark_green deep_sky_blue4 dodger_blue3 dodger_blue2 green4 spring_green4
turquoise4 deep_sky_blue3 dodger_blue1 green3 spring_green3 dark_cyan light_sea_green
deep_sky_blue2 deep_sky_blue1 spring_green2 cyan3 dark_turquoise turquoise2 green1
spring_green1 medium_spring_green cyan2 cyan1 dark_red deep_pink4 purple4 purple3 blue_violet
orange4 grey37 gray37 medium_purple4 slate_blue3 royal_blue1 chartreuse4 dark_sea_green4
pale_turquoise4 steel_blue steel_blue3 cornflower_blue chartreuse3 cadet_blue sky_blue3
steel_blue1 pale_green3 sea_green3 aquamarine3 medium_turquoise chartreuse2 sea_green2
sea_green1 aquamarine1 dark_slate_gray2 dark_magenta dark_violet purple light_pink4 plum4
medium_purple3 slate_blue1 yellow4 wheat4 grey53 gray53 light_slate_grey light_slate_gray
medium_purple light_slate_blue dark_olive_green3 dark_sea_green light_sky_blue3 sky_blue2
dark_sea_green3 dark_slate_gray3 sky_blue1 chartreuse1 light_green pale_green1
dark_slate_gray1 red3 medium_violet_red magenta3 dark_orange3 indian_red hot_pink3
medium_orchid3 medium_orchid medium_purple2 dark_goldenrod light_salmon3 rosy_brown grey63
gray63 medium_purple1 gold3 dark_khaki navajo_white3 grey69 gray69 light_steel_blue3
light_steel_blue yellow3 dark_sea_green2 light_cyan3 light_sky_blue1 green_yellow
dark_olive_green2 dark_sea_green1 pale_turquoise1 deep_pink3 magenta2 hot_pink2 orchid
medium_orchid1 orange3 light_pink3 pink3 plum3 violet light_goldenrod3 tan misty_rose3
thistle3 plum2 khaki3 light_goldenrod2 light_yellow3 grey84 gray84 light_steel_blue1 yellow2
dark_olive_green1 honeydew2 light_cyan1 red1 deep_pink2 deep_pink1 magenta1 orange_red1
indian_red1 hot_pink dark_orange salmon1 light_coral pale_violet_red1 orchid2 orchid1 orange1
sandy_brown light_salmon1 light_pink1 pink1 plum1 gold1 navajo_white1 misty_rose1 thistle1
yellow1 light_goldenrod1 khaki1 wheat1 cornsilk1 grey100 gray100 grey3 gray3 grey7 gray7
grey11 gray11 grey15 gray15 grey19 gray19 grey23 gray23 grey27 gray27 grey30 gray30 grey35
gray35 grey39 gray39 grey42 gray42 grey46 gray46 grey50 gray50 grey54 gray54 grey58 gray58
grey62 gray62 grey66 gray66 grey70 gray70 grey74 gray74 grey78 gray78 grey82 gray82 grey85
gray85 grey89 gray89 grey93 gray93
"

def isColorName (word : List Char) : Bool :=
  word == "default".toList || (colorNames.toList.splitBy fun a b =>
    a.isWhitespace == b.isWhitespace).contains word

/-- What stands between a name with an opening bracket and the closing bracket at the end. -/
def arguments? (name : String) (word : List Char) : Option (List Char) :=
  if name.toList.isPrefixOf word && word.getLast? == some ')' then
    some (word.drop name.length).dropLast
  else none

/-- Checks the three parts of a colour, which are numbers up to 255. -/
def checkParts (parts : List (List Char)) : Except StyleError Unit :=
  if parts.length != 3 then .error .unknown
  else match parts.mapM fun part => Decimal.wholeNumber? (String.ofList part) with
    | none => .error .noDigits
    | some numbers => if numbers.all (· ≤ 255) then .ok () else .error .unknown

/-- Checks that a word is a colour: a name, six hexadecimal digits, a number or three numbers. -/
def checkColor (word : List Char) : Except StyleError Unit :=
  if isColorName word then .ok ()
  else match word with
  | '#' :: digits =>
    if digits.length == 6 && digits.all fun d => (Value.hexValue? d).isSome then .ok ()
    else .error .unknown
  | _ =>
    match arguments? "color(" word, arguments? "rgb(" word with
    | some digits, _ =>
      if 1 ≤ digits.length && digits.length ≤ 3 && digits.all Char.isDigit
        && Decimal.digitsValue digits ≤ 255 then .ok () else .error .unknown
    | none, some parts =>
      if !parts.isEmpty && parts.all fun c => c == ',' || (digitValue? c).isSome then
        checkParts (splitChars ',' parts)
      else .error .unknown
    | none, none => .error .unknown

/-! ## Words -/

/-- Sets an attribute, or takes it back. -/
def withAttribute (s : Style) (name : String) (on : Bool) : Style :=
  { s with attributes := (name, on) :: s.attributes.filter (·.1 != name) }

/-- Reads words into a style.  Capital letters count as small ones, except in an attribute behind "not"
and in an address. -/
def readWords (s : Style) : List (List Char) → Except StyleError Style
  | [] => .ok s
  | first :: rest =>
    let word := lower (String.ofList first)
    if word == "on" then
      match rest with
      | [] => .error .unknown
      | color :: rest => do
        let color := lower (String.ofList color)
        checkColor color.toList
        readWords { s with background := some color } rest
    else if word == "not" then
      match rest with
      | [] => .error .unknown
      | name :: rest =>
        match attribute? (String.ofList name) with
        | some name => readWords (s.withAttribute name false) rest
        | none => .error .unknown
    else if word == "link" then
      match rest with
      | [] => .error .unknown
      | address :: rest => readWords { s with link := some (String.ofList address) } rest
    else match attribute? word with
      | some name => readWords (s.withAttribute name true) rest
      | none => do
        checkColor word.toList
        readWords { s with color := some word } rest

def wordsOf (cs : List Char) : List (List Char) :=
  (cs.splitBy fun a b => isBlank a == isBlank b).filter fun word => !word.head?.any isBlank

def parse (name : List Char) : Except StyleError Style :=
  if trimList isBlank name == "none".toList then .ok {} else readWords {} (wordsOf name)

/-- The words of a style: attributes in their order, colours, address. -/
def words (s : Style) : List String :=
  (attributeNames.filterMap fun name =>
      (s.attributes.find? (·.1 == name)).map fun a => if a.2 then name else "not " ++ name)
    ++ s.color.toList ++ (s.background.map ("on " ++ ·)).toList ++ (s.link.map ("link " ++ ·)).toList

/-- The normal form of the name of a style: its words in order, or the name in small letters when it
means nothing.  Only a colour without digits is an error. -/
def normal (name : List Char) : Except StyleError String :=
  match parse name with
  | .ok s => .ok (if s.words.isEmpty then "none" else " ".intercalate s.words)
  | .error .unknown => .ok (lower (String.ofList (trimList isBlank name)))
  | .error .noDigits => .error .noDigits

/-- Reads a style that may be without meaning; only a colour without digits is an error. -/
def check (name : List Char) : Except StyleError Unit :=
  match parse name with
  | .error .noDigits => .error .noDigits
  | _ => .ok ()

end Style

end RepoAudit
