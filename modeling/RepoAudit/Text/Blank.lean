import RepoAudit.Text.Ranges

/-! # Blanks

The blanks of running text: white space of every script together with the control characters that
separate lines, files, groups and records.

* `isBlank` – the blanks;
* `trim` – a text without the blanks at its two ends;
* `joinBlanks` – every run of blanks replaced by one character.
-/

namespace RepoAudit.Text

def blankRanges : List CodeRange :=
  [(0x9, 0xd), (0x1c, 0x20), (0x85, 0x85), (0xa0, 0xa0), (0x1680, 0x1680), (0x2000, 0x200a),
   (0x2028, 0x2029), (0x202f, 0x202f), (0x205f, 0x205f), (0x3000, 0x3000)]

/-- White space of any script, and the separators U+001C to U+001F. -/
def isBlank (c : Char) : Bool :=
  inRanges blankRanges c

def trimList (p : Char → Bool) (cs : List Char) : List Char :=
  ((cs.dropWhile p).reverse.dropWhile p).reverse

def trim (s : String) : String :=
  String.ofList (trimList isBlank s.toList)

def trimRight (s : String) : String :=
  String.ofList (s.toList.reverse.dropWhile isBlank).reverse

/-- Replaces every run of blanks by `mark`.  `inRun` tells whether the previous character was a
blank, whose run is already marked. -/
def joinBlanksFrom (mark : Char) (inRun : Bool) : List Char → List Char
  | [] => []
  | c :: cs =>
    if isBlank c then
      if inRun then joinBlanksFrom mark true cs else mark :: joinBlanksFrom mark true cs
    else c :: joinBlanksFrom mark false cs

def joinBlanks (mark : Char) (s : String) : String :=
  String.ofList (joinBlanksFrom mark false s.toList)

end RepoAudit.Text
