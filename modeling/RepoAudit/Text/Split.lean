import RepoAudit.Text.CodePoint

/-! # Cutting texts

Plain operations on the characters of a text: cutting at a separator, and tests on the ends.
-/

namespace RepoAudit.Text

/-- Cuts a list of characters at every `sep`; there is always at least one part. -/
def splitChars (sep : Char) : List Char → List (List Char)
  | [] => [[]]
  | c :: cs =>
    if c = sep then [] :: splitChars sep cs
    else match splitChars sep cs with
      | part :: parts => (c :: part) :: parts
      | [] => [[c]]

def splitOn (sep : Char) (s : String) : List String :=
  (splitChars sep s.toList).map String.ofList

def joinWith (sep : Char) (parts : List String) : String :=
  (String.singleton sep).intercalate parts

def startsWith (s start : String) : Bool :=
  start.toList.isPrefixOf s.toList

def endsWith (s tail : String) : Bool :=
  tail.toList.isSuffixOf s.toList

/-- Whether a list of characters holds another as one piece. -/
def holdsChars (part : List Char) : List Char → Bool
  | [] => part.isEmpty
  | c :: cs => part.isPrefixOf (c :: cs) || holdsChars part cs

def holds (s part : String) : Bool :=
  holdsChars part.toList s.toList

def dropEnd (s : String) (n : Nat) : String :=
  String.ofList (s.toList.take (s.toList.length - n))

def dropStart (s : String) (n : Nat) : String :=
  String.ofList (s.toList.drop n)

/-- The first `n` code points of a text. -/
def takeStart (s : String) (n : Nat) : String :=
  ofPoints ((codePoints s).take n)

/-- The part of a text after the last separator; all of it when there is none. -/
def afterLast (sep : Char) (s : String) : String :=
  ((splitOn sep s).getLast?).getD s

/-- Cuts a list of characters at the first `limit` places where `sep` stands; `skip` characters of the
last separator are still to be dropped. -/
def cutFrom (sep : List Char) : Nat → Nat → List Char → List (List Char)
  | _, _, [] => [[]]
  | limit, skip + 1, _ :: cs => cutFrom sep limit skip cs
  | limit, 0, c :: cs =>
    if limit != 0 && sep.isPrefixOf (c :: cs) then
      [] :: cutFrom sep (limit - 1) (sep.length - 1) cs
    else match cutFrom sep limit 0 cs with
      | part :: parts => (c :: part) :: parts
      | [] => [[c]]

/-- Cuts a list of characters at the first `limit` places where `sep` stands. -/
def cutAt (sep : List Char) (limit : Nat) (cs : List Char) : List (List Char) :=
  cutFrom sep limit 0 cs

def cutAll (sep cs : List Char) : List (List Char) :=
  cutFrom sep cs.length 0 cs

def countOf (sep cs : List Char) : Nat :=
  (cutAll sep cs).length - 1

/-- Orders texts by code points. -/
def precedes (a b : String) : Bool :=
  !decide (codePoints b < codePoints a)

def sorted (texts : List String) : List String :=
  texts.mergeSort precedes

/-- Adds a text to a list without repetitions. -/
def insertText (texts : List String) (s : String) : List String :=
  if texts.contains s then texts else texts ++ [s]

end RepoAudit.Text
