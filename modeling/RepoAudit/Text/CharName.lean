import RepoAudit.Text.CharName.AtoB
import RepoAudit.Text.CharName.CtoD
import RepoAudit.Text.CharName.EtoH
import RepoAudit.Text.CharName.ItoL
import RepoAudit.Text.CharName.MtoR
import RepoAudit.Text.CharName.StoZ
import RepoAudit.Text.Ranges
import RepoAudit.Text.Split
import RepoAudit.Value.Reader

/-! # Names of characters

The names by which an escape may spell a character.  Most of them are listed; ideographs have the name
of their family and their number, and Korean syllables spell the sounds they are made of.  Capital and
small letters are the same in listed names only.

* `CharName.isListed` – whether a name is in the list;
* `CharName.isIdeograph`, `CharName.isSyllable` – the names that follow a rule;
* `CharName.isName` – whether some text is the name of a character.
-/

namespace RepoAudit.Text.CharName

/-! ## Listed names -/

def entries (table : String) : List (List Char) :=
  (table.toList.filter (· != '\n')).splitBy fun _ c => !c.isLower

/-- The words of a name, given those of the name before it. -/
def wordsOf (before : List (List Char)) : List Char → List (List Char)
  | [] => before
  | shared :: rest => before.take (shared.toNat - 'a'.toNat) ++ splitChars ' ' rest

/-- Whether a name is among those that follow the name `before`. -/
def holdsAfter (name before : List (List Char)) : List (List Char) → Bool
  | [] => false
  | entry :: rest =>
    let words := wordsOf before entry
    words == name || holdsAfter name words rest

def isListed (name : List Char) : Bool :=
  let name := splitChars ' ' (name.map Char.toUpper)
  [fromAtoB, fromCtoD, fromEtoH, fromItoL, fromMtoR, fromStoZ].any fun table =>
    holdsAfter name [] (entries table)

/-! ## Ideographs -/

def unifiedRanges : List CodeRange :=
  [(0x3400, 0x4dbf), (0x4e00, 0x9fff), (0x20000, 0x2a6df), (0x2a700, 0x2b738), (0x2b740, 0x2b81d),
   (0x2b820, 0x2cea1), (0x2ceb0, 0x2ebe0), (0x30000, 0x3134a)]

/-- The families whose names are listed with their numbers. -/
def families : List (String × List CodeRange) :=
  [("CJK COMPATIBILITY IDEOGRAPH-", [(0xf900, 0xfa6d), (0xfa70, 0xfad9), (0x2f800, 0x2fa1d)]),
   ("KHITAN SMALL SCRIPT CHARACTER-", [(0x18b00, 0x18cd5)]),
   ("NUSHU CHARACTER-", [(0x1b170, 0x1b2fb)])]

def behind? (start : String) (name : List Char) : Option (List Char) :=
  if start.toList.isPrefixOf name then some (name.drop start.length) else none

/-- The number that four or five hexadecimal digits spell, all of them in capital letters. -/
def number? (digits : List Char) : Option Nat :=
  if (digits.length == 4 || digits.length == 5) && !digits.any Char.isLower then
    digits.foldlM (fun n d => (Value.hexValue? d).map (16 * n + ·)) 0
  else none

def lies (ranges : List CodeRange) (n : Nat) : Bool :=
  ranges.any fun r => r.1 ≤ n && n ≤ r.2

/-- Whether a name is that of a unified ideograph; zeros before its number do not count. -/
def isIdeograph (name : List Char) : Bool :=
  ((behind? "CJK UNIFIED IDEOGRAPH-" name).bind number?).any (lies unifiedRanges)

/-- Whether a name is that of a family with a number, which has no zero before it. -/
def isNumbered (name : List Char) : Bool :=
  let name := name.map Char.toUpper
  families.any fun (family, ranges) =>
    match behind? family name with
    | some digits => digits.head? != some '0' && (number? digits).any (lies ranges)
    | none => false

/-! ## Syllables -/

/-- The sounds at the start of a syllable. -/
def initials : List String :=
  ["", "G", "GG", "N", "D", "DD", "R", "M", "B", "BB", "S", "SS", "J", "JJ", "C", "K", "T", "P", "H"]

def vowels : List String :=
  ["A", "AE", "YA", "YAE", "EO", "E", "YEO", "YE", "O", "WA", "WAE", "OE", "YO", "U", "WEO", "WE", "WI",
   "YU", "EU", "YI", "I"]

/-- The sounds at the end of a syllable. -/
def finals : List String :=
  ["", "G", "GG", "GS", "N", "NJ", "NH", "D", "L", "LG", "LM", "LB", "LS", "LT", "LP", "LH", "M", "B",
   "BS", "S", "SS", "NG", "J", "C", "K", "T", "P", "H"]

def dropSound? (sounds : List String) (cs : List Char) : Option (List Char) :=
  let fitting := (sounds.map String.toList).filter (·.isPrefixOf cs)
  if fitting.isEmpty then none else some (cs.drop (fitting.foldl (fun n s => max n s.length) 0))

def isSyllable (name : List Char) : Bool :=
  match (behind? "HANGUL SYLLABLE " name).bind (dropSound? initials) with
  | some rest => ((dropSound? vowels rest).bind (dropSound? finals)) == some []
  | none => false

def isName (name : List Char) : Bool :=
  isIdeograph name || isSyllable name || isNumbered name || isListed name

end RepoAudit.Text.CharName
