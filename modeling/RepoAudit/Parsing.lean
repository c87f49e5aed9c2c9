import RepoAudit.Discovery
import RepoAudit.Language
import RepoAudit.Source
import RepoAudit.Value.Printer

/-! # From files to sources

A file becomes a source when its language is known and available, its bytes can be read, and the
grammar accepts them.  The first of these that fails is reported.

* `ParseError` – why a file cannot be analysed;
* `Parsing.parse` – the source of a path;
* `Parsing.parseAll` – the sources of several paths, without those that fail.
-/

namespace RepoAudit

inductive Unreadable where
  | missing
  | throughFile
  | isDirectory
  | tooLong
  deriving Repr, DecidableEq

inductive ParseError where
  | unsupported
  | noGrammar (language : String)
  /-- No file can have the path. -/
  | unnameable (e : Path.NameError)
  | unreadable (cause : Unreadable)
  | malformed
  deriving Repr, DecidableEq

/-- The system's words for an unreadable path. -/
def Unreadable.message (path : String) : Unreadable → String
  | .missing => "[Errno 2] No such file or directory: " ++ Value.quoteText path
  | .throughFile => "[Errno 20] Not a directory: " ++ Value.quoteText path
  | .isDirectory => "[Errno 21] Is a directory: " ++ Value.quoteText path
  | .tooLong => "[Errno 36] File name too long: " ++ Value.quoteText path

def ParseError.reason (path : String) : ParseError → String
  | .unsupported => "unsupported file type"
  | .noGrammar language => "no grammar loaded for " ++ language
  | .unnameable .zeroByte => "embedded null byte"
  | .unnameable .loneHalf => "surrogates not allowed"
  | .unreadable cause => "unreadable (" ++ cause.message path ++ ")"
  | .malformed => "syntax error"

def ParseError.message (path : String) (e : ParseError) : String :=
  path ++ ": " ++ e.reason path

namespace Parsing

def readFile (v : Volume) (start : Place) (path : String) : Except Unreadable File :=
  match v.locatePath start path with
  | .error .missing => .error .missing
  | .error .throughFile => .error .throughFile
  | .error .tooLong => .error .tooLong
  | .ok p =>
    match v.fileAt? p with
    | some f => .ok f
    | none => .error .isDirectory

/-- The source of a path seen from a place.  Its own path is relative to the root of the project.
Languages in `unavailable` have no grammar. -/
def parse (v : Volume) (root : Place) (unavailable : List String) (start : Place) (path : String) :
    Except ParseError Source :=
  match Language.ofPath path with
  | none => .error .unsupported
  | some language =>
    if unavailable.contains language then .error (.noGrammar language)
    else match Path.nameError? path, readFile v start path with
      | some e, _ => .error (.unnameable e)
      | none, .error cause => .error (.unreadable cause)
      | none, .ok file =>
        match file.tree with
        | none => .error .malformed
        | some tree =>
          .ok { path := v.relative root ((Volume.resolve start path).getD [])
                language := language, bytes := file.bytes, tree := tree }

/-- The sources of several paths, in order, without those that fail.  A path that no file can have
breaks everything off. -/
def parseAll (v : Volume) (root : Place) (unavailable : List String) (start : Place) :
    List String → Except Path.NameError (List Source)
  | [] => .ok []
  | path :: paths =>
    match parse v root unavailable start path with
    | .ok source => (parseAll v root unavailable start paths).map (source :: ·)
    | .error (.unnameable e) => .error e
    | .error _ => parseAll v root unavailable start paths

/-- The sources of the script files below the root of a project, without those that fail. -/
def parseProject (v : Volume) (root : Place) : List Source :=
  (Discovery.findDefault v root).filterMap fun way =>
    (parse v root [] root (Text.joinWith '/' way)).toOption

end Parsing

end RepoAudit
