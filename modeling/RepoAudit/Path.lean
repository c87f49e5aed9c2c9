import RepoAudit.Text.CodePoint
import RepoAudit.Text.Split
import RepoAudit.Total

/-! # Paths as text

Paths are texts with slashes.  Import specifiers are resolved against the directory of the importing
module, and what comes out is normalised, so that equal places have equal texts.

* `Path.directory` – the directory part;
* `Path.join` – a path below a directory;
* `Path.normalize` – without empty parts, `.` and `..` where these can be removed;
* `Path.plain` – without empty parts and `.`, but with `..` kept;
* `Path.nameError?` – why no file can have a path.
-/

namespace RepoAudit.Path

open Text

def allSlashes (s : String) : Bool :=
  s.toList.all (· == '/')

/-- The directory part: what stands before the last slash, without the slashes at its end. -/
def directory (path : String) : String :=
  let head := String.ofList (path.toList.reverse.dropWhile (· != '/')).reverse
  if allSlashes head then head
  else String.ofList (head.toList.reverse.dropWhile (· == '/')).reverse

/-- A path below a directory; a path that starts with a slash stands for itself. -/
def join (dir path : String) : String :=
  if startsWith path "/" then path
  else if dir.isEmpty || endsWith dir "/" then dir ++ path
  else dir ++ "/" ++ path

/-- The number of slashes that an absolute path keeps at its front: exactly two stay two, and any
other number becomes one. -/
def rootSlashes (path : String) : Nat :=
  if startsWith path "//" && !startsWith path "///" then 2
  else if startsWith path "/" then 1
  else 0

/-- Adds one part to the parts so far, last first: empty parts and `.` vanish, and `..` removes the
part before it.  At the front of a relative path `..` stays, and at the front of an absolute path it
vanishes. -/
def push (absolute : Bool) (parts : List String) (part : String) : List String :=
  if part = "" ∨ part = "." then parts
  else if part = ".." then
    match parts with
    | [] => if absolute then [] else [".."]
    | last :: rest => if last = ".." then ".." :: parts else rest
  else part :: parts

/-- A path without empty parts, `.` and removable `..`. -/
def normalize (path : String) : String :=
  let slashes := rootSlashes path
  let parts := ((splitOn '/' path).foldl (push (slashes != 0)) []).reverse
  let text := String.ofList (List.replicate slashes '/') ++ joinWith '/' parts
  if text.isEmpty then "." else text

/-- The parts of a path other than empty ones and `.`. -/
def plainParts (path : String) : List String :=
  (splitOn '/' path).filter fun part => part != "" && part != "."

/-- A path without empty parts and `.`; `..` is kept, because what it means depends on the file
system. -/
def plain (path : String) : String :=
  let text := String.ofList (List.replicate (rootSlashes path) '/') ++ joinWith '/' (plainParts path)
  if text.isEmpty then "." else text

def name (path : String) : String :=
  ((plainParts path).getLast?).getD ""

/-- The last dot of a name and what follows it, unless the dot is the first or the last character. -/
def suffix (name : String) : String :=
  let cs := name.toList
  let tail := (cs.reverse.takeWhile (· != '.')).reverse
  if tail.length + 1 < cs.length && !tail.isEmpty then String.ofList ('.' :: tail) else ""

/-! ## What names may hold -/

inductive NameError where
  /-- A zero byte would end the path. -/
  | zeroByte
  /-- Half a surrogate pair stands alone, so the path has no bytes. -/
  | loneHalf
  deriving Repr, DecidableEq

/-- Whether a code point stands for a byte that belongs to no character.  Names may hold such bytes;
the halves U+DC80 to U+DCFF stand for them. -/
def isStrayByte (n : Nat) : Bool :=
  0xdc80 ≤ n && n ≤ 0xdcff

def nameError? (path : String) : Option NameError :=
  if (codePoints path).any fun n => isHalf n && !isStrayByte n then some .loneHalf
  else if (codePoints path).contains 0 then some .zeroByte
  else none

/-- Why a path cannot be resolved: the first part on the way that no file can have. -/
def resolveError? (path : String) : Option NameError :=
  (plainParts path).findSome? nameError?

def maxNameBytes : Nat := 255

def maxPathBytes : Nat := 4095

def byteCount (path : String) : Nat :=
  total ((codePoints path).map fun n => if isStrayByte n then 1 else (Char.ofNat n).utf8Size)

end RepoAudit.Path
