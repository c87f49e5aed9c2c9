import RepoAudit.Command.Run
import RepoAudit.Snapshot.Outside

/-! # The program

Takes a command line, reads a snapshot of the outside from standard input, runs the command and
prints what it says.
-/

open RepoAudit

/-- Runs the command line on the snapshot that is on standard input. -/
def main (arguments : List String) : IO UInt32 := do
  let input ← (← IO.getStdin).readToEnd
  match Value.parseWithin input.length (Text.ofPlain input) with
  | .error _ =>
    IO.eprintln "standard input holds no snapshot"
    return 2
  | .ok snapshot =>
    let env := Snapshot.environment "/root" snapshot
    let outside := Snapshot.outside "" snapshot
    let (outcome, _) :=
      Command.run (Snapshot.configFile snapshot) env (arguments.map Text.ofPlain) outside
    for line in outcome.output do
      IO.println (Text.shownForm line)
    if let some e := outcome.usage then IO.eprintln (Text.shownForm e.message)
    if outcome.fault.isSome then IO.eprintln "the command broke off"
    return outcome.exitCode.toUInt32
