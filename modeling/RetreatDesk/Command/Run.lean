import RetreatDesk.Command.Arguments
import RetreatDesk.Command.FileTree
import RetreatDesk.Command.Walkthrough
import RetreatDesk.Json.Writer
import RetreatDesk.Settings.LogFilter

/-!
# Running a command

* `Failure`: why a command fails.
* `run`: what a command line does, given the environment and the files.
* `serve`: the address to listen on and the desk to serve from.
-/

namespace RetreatDesk

/-! ## Failures -/

/-- Why a command fails. -/
inductive Failure where
  | settings (e : SettingsError)
  /-- The filter for log messages is refused. -/
  | logFilter (value : String)
  /-- The file under a path cannot be opened. -/
  | closedFile (path : String) (fault : FileFault)
  /-- A file holds no snapshot. -/
  | badSnapshot (problem : Problem)
  /-- The desk has no answer. -/
  | desk (e : DeskError)

namespace Failure

/-- The wording of a failure. -/
def message : Failure → String
  | settings e => "configuration error: " ++ e.message
  | logFilter value => "telemetry error: invalid log level/filter '" ++ value ++ "': unable to build EnvFilter"
  | closedFile path fault =>
    "snapshot error: failed to read registry snapshot " ++ Text.quoted path ++ ": " ++ fault.message
  | badSnapshot problem => "snapshot error: invalid registry snapshot: " ++ problem.message
  | desk e => "registration error: " ++ e.message

end Failure

/-- Runs the desk's part of a command. -/
def atDesk {α : Type} (r : Except DeskError α) : Except Failure α :=
  match r with
  | .ok a => .ok a
  | .error e => .error (.desk e)

/-- Runs the part of a command that looks at settings. -/
def atSettings {α : Type} (r : Except SettingsError α) : Except Failure α :=
  match r with
  | .ok a => .ok a
  | .error e => .error (.settings e)

/-! ## Snapshots -/

/-- The snapshot under a path, or the one for demonstrations where no path is given. -/
def loadSnapshot (files : Files) : Option String → Except Failure Snapshot
  | none => .ok Demo.snapshot
  | some path =>
    match files path with
    | .error fault => .error (.closedFile path fault)
    | .ok .directory => .error (.badSnapshot (.unreadable .unfinished))
    | .ok .binary => .error (.badSnapshot (.unreadable .malformed))
    | .ok (.text s) =>
      match Snapshot.ofText s with
      | .ok snapshot => .ok snapshot
      | .error problem => .error (.badSnapshot problem)

/-- The desk of a command that runs once. A path of its own goes before the environment, which is then not
even looked at. -/
def openDesk (env : Environment) (files : Files) (own : Option String) : Except Failure Desk := do
  let path ← match own with
    | some path => .ok (some path)
    | none => do
      let settings ← atSettings (Settings.load env)
      .ok settings.snapshotPath
  return Desk.ofSnapshot (← loadSnapshot files path)

/-! ## Commands -/

/-- What a command comes to. -/
inductive Outcome where
  | printed (text : String)
  | listening (address : SocketAddress) (desk : Desk)
  | failed (failure : Failure)
  /-- The command line leads nowhere. -/
  | refused (refusal : Refusal)

/-- The address to listen on and the desk to serve from. Options go before the environment. The filter of the
settings counts only where no sound one is asked for from outside. -/
def serve (env : Environment) (files : Files) (host : Option String) (port : Option Nat)
    (snapshot : Option String) : Except Failure (SocketAddress × Desk) := do
  let loaded ← atSettings (Settings.load env)
  let settings := { loaded with
    host := host.getD loaded.host
    port := port.getD loaded.port
    snapshotPath := snapshot.or loaded.snapshotPath }
  if env.logFilter.any isLogFilter || isLogFilter settings.logLevel then
    let records ← loadSnapshot files settings.snapshotPath
    let address ← atSettings settings.address
    return (address, Desk.ofSnapshot records)
  else .error (.logFilter settings.logLevel)

/-- What is printed about a person and a pool. -/
def eligibility (env : Environment) (files : Files) (pool participant aid : String) (own : Option String) :
    Except Failure String := do
  let d ← openDesk env files own
  let belongs ← atDesk (d.isMember pool participant aid)
  return participant ++ " in " ++ pool ++ " for " ++ aid ++ ": " ++ (if belongs then "true" else "false") ++ "\n"

/-- What is printed of a view. -/
def showView (env : Environment) (files : Files) (view : String) (request : ViewRequest) (asJson : Bool)
    (own : Option String) : Except Failure String := do
  let d ← openDesk env files own
  let output ← atDesk (d.view view request)
  return if asJson then output.toJson.pretty ++ "\n" else output.table false

/-- The outcome of a command that prints. -/
def printing (r : Except Failure String) : Outcome :=
  match r with
  | .ok text => .printed text
  | .error failure => .failed failure

/-- What an invocation comes to. -/
def Invocation.run (env : Environment) (files : Files) : Invocation → Outcome
  | .serve host port snapshot =>
    match RetreatDesk.serve env files host port snapshot with
    | .ok (address, desk) => .listening address desk
    | .error failure => .failed failure
  | .eligibility pool participant aid own => printing (RetreatDesk.eligibility env files pool participant aid own)
  | .view key request asJson own => printing (showView env files key request asJson own)
  | .demo showHidden => printing (atDesk (Demo.walkthrough showHidden))

/-- What a command line comes to. -/
def runCommand (env : Environment) (files : Files) (args : List String) : Outcome :=
  match Invocation.ofArguments args with
  | .ok invocation => invocation.run env files
  | .error refusal => .refused refusal

end RetreatDesk
