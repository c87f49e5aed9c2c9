import RepoAudit.Audit
import RepoAudit.Snapshot

/-! # Snapshots of the outside

Besides the files, a snapshot describes what else a run meets: the environment, the configuration
file, what the package manager prints, and what the services reply.

* `Snapshot.wire` – the replies of a service;
* `Snapshot.manager` – the outcome of asking the package manager;
* `Snapshot.environment`, `Snapshot.configFile` – where settings come from;
* `Snapshot.outside` – all that a run sees and whom it talks to.
-/

namespace RepoAudit.Snapshot

def textIn (v : Value) (key : String) : String :=
  match v.getD key with
  | .text s => s
  | _ => ""

def items : Value → List Value
  | .list vs => vs
  | _ => []

/-- A reply: a document, or how it failed and with which words. -/
def reply (v : Value) : Reply :=
  let message := textIn v "message"
  match v.field? "raise" with
  | some (.text "value") => .unreadable message
  | some _ => .failed message
  | none => .body (v.getD "json")

def wire (v : Value) : Wire :=
  { replies := (items v).map reply }

def manager (v : Value) : ManagerOutcome :=
  if (v.getD "timeout").truthy then .timedOut
  else match v.field? "stdout" with
    | some (.text s) => .printed (some s)
    | some _ => .printed none
    | none => .missing

/-- The home directories of the accounts that a system has from the start. -/
def systemHomes : List (String × String) :=
  [("root", "/root"), ("daemon", "/usr/sbin"), ("bin", "/bin"), ("sys", "/dev"), ("sync", "/bin"),
   ("games", "/usr/games"), ("man", "/var/cache/man"), ("lp", "/var/spool/lpd"),
   ("mail", "/var/mail"), ("news", "/var/spool/news"), ("uucp", "/var/spool/uucp"),
   ("proxy", "/bin"), ("www-data", "/var/www"), ("backup", "/var/backups"), ("list", "/var/list"),
   ("irc", "/run/ircd"), ("_apt", "/nonexistent"), ("nobody", "/nonexistent")]

def environment (homeDirectory : String) (v : Value) : Environment :=
  { bindings := match v.getD "env" with
      | .object fields => fields.filterMap fun (name, value) =>
          match value with
          | .text s => some (name, s)
          | _ => none
      | _ => []
    homeDirectory := homeDirectory
    otherHomes := systemHomes }

def configFile (v : Value) : Option (List UInt8) :=
  bytesOf v "toml" "toml_hex"

/-- All that a run sees and whom it talks to; the base of the volume has the absolute path `base`. -/
def outside (base : String) (v : Value) : Outside :=
  { volume := volume base (items (v.getD "files")), manager := manager (v.getD "npm")
    llm := wire (v.getD "http"), tracker := wire (v.getD "gitlab_http") }

end RepoAudit.Snapshot
