import RepoAudit.Command.Count

/-! # Arguments

The grammar of the command line.  A long option may have its value after an equals sign, a short one
directly after its letter; letters of options without a value may stand together.  After two dashes
nothing is an option.

* `OptionRule` – an option and its spellings;
* `Arguments.parse` – options and plain arguments;
* `Invocation` – what the user asks for;
* `Invocation.ofArguments` – reads it.
-/

namespace RepoAudit

inductive UsageError where
  | unknownOption (name : String)
  | missingValue (name : String)
  | unexpectedValue (name : String)
  | badNumber (name : String)
  | missingCommand
  | unknownCommand (name : String)
  | extraArgument (argument : String)
  /-- The repository is a file. -/
  | notDirectory (path : String)
  /-- No directory can have the path of the repository. -/
  | unnameable (path : String)
  deriving Repr, DecidableEq

def UsageError.message : UsageError → String
  | .unknownOption name => "No such option: " ++ name
  | .missingValue name => "Option '" ++ name ++ "' requires an argument."
  | .unexpectedValue name => "Option '" ++ name ++ "' does not take a value."
  | .badNumber name => "Invalid value for '" ++ name ++ "'."
  | .missingCommand => "Missing command."
  | .unknownCommand name => "No such command '" ++ name ++ "'."
  | .extraArgument argument => "Got unexpected extra argument (" ++ argument ++ ")"
  | .notDirectory path => "Directory '" ++ path ++ "' is a file."
  | .unnameable path => "Directory '" ++ path ++ "' cannot be named."

/-- An option: its meaning, its long and its short spellings, and whether it takes a value. -/
structure OptionRule (α : Type) where
  meaning : α
  long : List String
  short : List Char := []
  takesValue : Bool := false

/-- The options, each with its value, and the plain arguments, both in order. -/
structure Arguments (α : Type) where
  options : List (α × String) := []
  plain : List String := []

namespace Arguments

variable {α : Type}

/-- Reads the value of an option: `attached` if there is one, else the next argument. -/
def value (name : String) (attached : Option String) (rest : List String) :
    Except UsageError (String × List String) :=
  match attached, rest with
  | some v, rest => .ok (v, rest)
  | none, v :: rest => .ok (v, rest)
  | none, [] => .error (.missingValue name)

def long (r : OptionRule α) (name : String) (attached : Option String) (rest : List String) :
    Except UsageError (List (α × String) × List String) :=
  if r.takesValue then do
    let (v, rest) ← value name attached rest
    return ([(r.meaning, v)], rest)
  else
    match attached with
    | some _ => .error (.unexpectedValue name)
    | none => .ok ([(r.meaning, "")], rest)

def letters (rules : List (OptionRule α)) (rest : List String) :
    List Char → Except UsageError (List (α × String) × List String)
  | [] => .ok ([], rest)
  | c :: cs =>
    match rules.find? (·.short.contains c) with
    | none => .error (.unknownOption (String.ofList ['-', c]))
    | some r =>
      if r.takesValue then do
        let attached := if cs.isEmpty then none else some (String.ofList cs)
        let (v, rest) ← value (String.ofList ['-', c]) attached rest
        return ([(r.meaning, v)], rest)
      else do
        let (others, rest) ← letters rules rest cs
        return ((r.meaning, "") :: others, rest)

def option (rules : List (OptionRule α)) (argument : List Char) (rest : List String) :
    Except UsageError (List (α × String) × List String) :=
  let name := String.ofList (argument.takeWhile (· != '='))
  let attached :=
    if argument.contains '=' then some (String.ofList ((argument.dropWhile (· != '=')).drop 1))
    else none
  match rules.find? (·.long.contains name), argument with
  | some r, _ => long r name attached rest
  | none, '-' :: '-' :: _ => .error (.unknownOption name)
  | none, argument => letters rules rest argument.tail

def isOption (argument : String) : Bool :=
  match argument.toList with
  | '-' :: _ :: _ => true
  | _ => false

/-- Reads options and plain arguments.  Unless they may be `mixed`, options end at the first plain
argument.  `fuel` is more than the number of arguments. -/
def parseFrom (rules : List (OptionRule α)) (mixed : Bool) :
    Nat → Arguments α → List String → Except UsageError (Arguments α)
  | 0, a, rest => .ok { a with plain := a.plain ++ rest }
  | _ + 1, a, [] => .ok a
  | fuel + 1, a, first :: rest =>
    if first = "--" then .ok { a with plain := a.plain ++ rest }
    else if isOption first then do
      let (found, rest) ← option rules first.toList rest
      parseFrom rules mixed fuel { a with options := a.options ++ found } rest
    else if mixed then parseFrom rules mixed fuel { a with plain := a.plain ++ [first] } rest
    else .ok { a with plain := a.plain ++ first :: rest }

def parse (rules : List (OptionRule α)) (mixed : Bool) (arguments : List String) :
    Except UsageError (Arguments α) :=
  parseFrom rules mixed (arguments.length + 1) {} arguments

end Arguments

/-! ## What can be asked for -/

inductive GlobalOption where
  | version
  | help
  | verbose
  deriving Repr, DecidableEq

inductive CommandOption where
  | help
  | asJson
  | publish
  | noPublish
  | limit
  | workers
  deriving Repr, DecidableEq

def globalRules : List (OptionRule GlobalOption) :=
  [{ meaning := .version, long := ["--version"], short := ['V'] },
   { meaning := .verbose, long := ["--verbose"], short := ['v'] },
   { meaning := .help, long := ["--help"] }]

def helpRule : OptionRule CommandOption := { meaning := .help, long := ["--help"] }

def jsonRule : OptionRule CommandOption := { meaning := .asJson, long := ["--json"] }

def analyzeRules : List (OptionRule CommandOption) :=
  [jsonRule, { meaning := .publish, long := ["--publish"] },
   { meaning := .noPublish, long := ["--no-publish"] },
   { meaning := .limit, long := ["--limit"], short := ['n'], takesValue := true }, helpRule]

def deadCodeRules : List (OptionRule CommandOption) :=
  [jsonRule, { meaning := .workers, long := ["--workers"], short := ['w'], takesValue := true },
   helpRule]

def depsRules : List (OptionRule CommandOption) := [helpRule]

inductive Invocation where
  | version
  | help
  | analyze (repository : Option String) (asJson publish : Bool) (limit : Nat)
  | deadCode (repository : Option String) (asJson : Bool)
  | deps (repository : Option String)
  deriving Repr, DecidableEq

namespace Invocation

def defaultLimit : Nat := 10

def positive (name s : String) : Except UsageError Nat :=
  match Count.parse? s with
  | some n => if 1 ≤ n then .ok n else .error (.badNumber name)
  | none => .error (.badNumber name)

def lastValue? (o : CommandOption) (a : Arguments CommandOption) : Option String :=
  ((a.options.filter (·.1 = o)).getLast?).map Prod.snd

def numberOf (name : String) (o : CommandOption) (a : Arguments CommandOption) :
    Except UsageError (Option Nat) :=
  match lastValue? o a with
  | some s => (positive name s).map some
  | none => .ok none

def given (o : CommandOption) (a : Arguments CommandOption) : Bool :=
  a.options.any (·.1 = o)

/-- Whether findings are to be published: as the last option about it says, and otherwise they
are. -/
def publishing (a : Arguments CommandOption) : Bool :=
  match (a.options.filter fun o => o.1 = .publish || o.1 = .noPublish).getLast? with
  | some o => o.1 = .publish
  | none => true

def repositoryOf (a : Arguments CommandOption) : Except UsageError (Option String) :=
  match a.plain with
  | [] => .ok none
  | [path] => .ok (some path)
  | _ :: extra :: _ => .error (.extraArgument extra)

def analyzeOf (a : Arguments CommandOption) : Except UsageError Invocation := do
  let limit ← numberOf "--limit" .limit a
  let repository ← repositoryOf a
  return .analyze repository (given .asJson a) (publishing a) (limit.getD defaultLimit)

/-- Reads the arguments of the search for dead code.  The number of workers never changes what is
found, so it is only checked. -/
def deadCodeOf (a : Arguments CommandOption) : Except UsageError Invocation := do
  let _ ← numberOf "--workers" .workers a
  let repository ← repositoryOf a
  return .deadCode repository (given .asJson a)

def depsOf (a : Arguments CommandOption) : Except UsageError Invocation :=
  (repositoryOf a).map .deps

/-- Reads the arguments of a command; a request for help comes before anything else. -/
def commandWith (rules : List (OptionRule CommandOption))
    (read : Arguments CommandOption → Except UsageError Invocation) (arguments : List String) :
    Except UsageError Invocation := do
  let a ← Arguments.parse rules true arguments
  if given .help a then return .help
  read a

def commandOf (name : String) (arguments : List String) : Except UsageError Invocation :=
  if name = "analyze" then commandWith analyzeRules analyzeOf arguments
  else if name = "dead-code" then commandWith deadCodeRules deadCodeOf arguments
  else if name = "deps" then commandWith depsRules depsOf arguments
  else .error (.unknownCommand name)

/-- Reads a command line.  Of version and help the one asked for first is given. -/
def ofArguments (arguments : List String) : Except UsageError Invocation := do
  let a ← Arguments.parse globalRules false arguments
  match a.options.find? (·.1 ≠ .verbose), a.plain with
  | some (.version, _), _ => return .version
  | some _, _ => return .help
  | none, [] => .error .missingCommand
  | none, name :: rest => commandOf name rest

end Invocation

end RepoAudit
