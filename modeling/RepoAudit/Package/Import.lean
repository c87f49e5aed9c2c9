import RepoAudit.Package.Name
import RepoAudit.Text.Blank
import RepoAudit.Text.Word

/-! # Import statements

Finds the packages that a script imports by the look of its text alone.  Five forms count: imports
and exports with `from`, imports for their effect, and calls of `require` and `import`.  A form must
not start inside a word, and forms of one sort do not overlap.

* `ImportForm` – the forms;
* `ImportForm.match?` – a form at the front of a text;
* `importedPackages` – the packages of a text.
-/

namespace RepoAudit

open Text

inductive ImportForm where
  /-- `import … from "s"` -/
  | importFrom
  /-- `import "s"` -/
  | importEffect
  /-- `export … from "s"` -/
  | exportFrom
  /-- `require("s")` -/
  | requireCall
  /-- `import("s")` -/
  | importCall
  deriving Repr, DecidableEq

namespace ImportForm

def all : List ImportForm :=
  [.importFrom, .importEffect, .exportFrom, .requireCall, .importCall]

def isQuote (c : Char) : Bool :=
  c == '\'' || c == '"'

/-- What stands after a word, if the text starts with it. -/
def after? (word : String) (cs : List Char) : Option (List Char) :=
  if word.toList.isPrefixOf cs then some (cs.drop word.length) else none

/-- A quoted specifier at the front, which is not empty, and what follows it. -/
def quoted? : List Char → Option (List Char × List Char)
  | [] => none
  | q :: rest =>
    if isQuote q then
      let inside := rest.takeWhile (!isQuote ·)
      match rest.dropWhile (!isQuote ·) with
      | _ :: rest' => if inside.isEmpty then none else some (inside, rest')
      | [] => none
    else none

/-- Whether a clause has the form of what stands between the keyword and the quote: a blank,
anything, a blank, `from` and a blank. -/
def endsInFrom (clause : List Char) : Bool :=
  let back := clause.reverse
  let word := back.dropWhile isBlank
  match word with
  | 'm' :: 'o' :: 'r' :: 'f' :: before =>
    word.length < back.length && 2 ≤ before.length
      && (before.head?.any isBlank) && (clause.head?.any isBlank)
  | _ => false

/-- A statement with a clause and `from`; `allowed` tells which characters the clause may hold. -/
def withFrom? (keyword : String) (allowed : Char → Bool) (cs : List Char) :
    Option (List Char × List Char) := do
  let rest ← after? keyword cs
  let clause := rest.takeWhile (!isQuote ·)
  if clause.all allowed && endsInFrom clause then quoted? (rest.dropWhile (!isQuote ·)) else none

def call? (keyword : String) (cs : List Char) : Option (List Char × List Char) := do
  let rest ← after? keyword cs
  let (inside, rest) ← quoted? (rest.dropWhile isBlank)
  match rest.dropWhile isBlank with
  | ')' :: rest => some (inside, rest)
  | _ => none

/-- The form at the front of a text: its specifier, and what follows the form. -/
def match? (form : ImportForm) (cs : List Char) : Option (List Char × List Char) :=
  match form with
  | .importFrom => withFrom? "import" (fun _ => true) cs
  | .importEffect => do
    let rest ← after? "import" cs
    let body := rest.dropWhile isBlank
    if body.length < rest.length then quoted? body else none
  | .exportFrom => withFrom? "export" (· != ';') cs
  | .requireCall => call? "require(" cs
  | .importCall => call? "import(" cs

/-- The specifiers of one form, from left to right.  `skip` counts the characters that belong to the
last find, and `inWord` tells whether the character before is a word character. -/
def scan (form : ImportForm) (inWord : Bool) (skip : Nat) : List Char → List String
  | [] => []
  | c :: cs =>
    match skip with
    | skip + 1 => scan form (isWordChar c) skip cs
    | 0 =>
      match if inWord then none else form.match? (c :: cs) with
      | some (inside, rest) =>
        String.ofList inside :: scan form (isWordChar c) (cs.length - rest.length) cs
      | none => scan form (isWordChar c) 0 cs

def specifiers (form : ImportForm) (content : String) : List String :=
  form.scan false 0 content.toList

end ImportForm

/-- Whether a specifier leads to a file rather than to a package. -/
def isFileSpecifier (specifier : String) : Bool :=
  startsWith specifier "." || startsWith specifier "/"

def importedPackages (content : String) : List String :=
  let specifiers := ImportForm.all.flatMap fun form => form.specifiers content
  ((specifiers.filter fun s => !isFileSpecifier s).map Package.ofSpecifier).eraseDups

end RepoAudit
