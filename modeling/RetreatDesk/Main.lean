import RetreatDesk.Command.Run

/-!
# The program

* `main`: runs a command line. The environment and the files are read here, everything else is decided by `runCommand`.
-/

namespace RetreatDesk

/-- The variables that settings are taken from. -/
def settingNames : List String :=
  ["APP_ENV", "APP_HOST", "APP_PORT", "APP_LOG_LEVEL", "APP_LOG_ANSI", "APP_SNAPSHOT_PATH"]

/-- The variables that settings are taken from, with the values they have now. -/
def readEnvironment : IO Environment := do
  let values ← settingNames.mapM fun name => do return (name, ← IO.getEnv name)
  return ⟨fun name => (values.lookup name).join, ← IO.getEnv "RUST_LOG"⟩

/-- The number that a system gave to an error. -/
def errorCode : IO.Error → Nat
  | .noFileOrDirectory _ code _ | .inappropriateType _ code _ | .invalidArgument _ code _
  | .permissionDenied _ code _ => code.toNat
  | _ => 0

/-- What stands under a path. -/
def readEntry (path : String) : IO (Except FileFault FileEntry) := do
  try
    return .ok (.text (← IO.FS.readFile path))
  catch e =>
    let code := errorCode e
    return match FileFault.ofCode? code with
    | some fault => .error fault
    | none => .ok (if code = 21 then .directory else .binary)

/-- The path that a command line or the environment names. -/
def snapshotPath? (env : Environment) (args : List String) : Option String :=
  let own := match Invocation.ofArguments args with
    | .ok (.serve _ _ path) | .ok (.eligibility _ _ _ path) | .ok (.view _ _ _ path) => path
    | _ => none
  own.or (((env.value? "APP_SNAPSHOT_PATH").map Text.trim).filter (!·.isEmpty))

/-- How the program is called. -/
def usage : String :=
  "Usage: retreat-desk [serve|eligibility|view|demo] [options]\n" ++
  "  serve [--host HOST] [--port PORT] [--snapshot FILE]\n" ++
  "  eligibility --pool POOL --participant ID --aid EVENT [--snapshot FILE]\n" ++
  "  view --view KEY --aid EVENT [--sub-event NAME] [--search TEXT] [--json] [--snapshot FILE]\n" ++
  "  demo [--show-hidden]\n"

end RetreatDesk

open RetreatDesk in
/-- Runs a command line. -/
def main (args : List String) : IO UInt32 := do
  let env ← readEnvironment
  let files : Files ← match snapshotPath? env args with
    | some path => do
      let entry ← readEntry path
      pure fun p => if p = path then entry else .error .missing
    | none => pure fun _ => .error .missing
  match runCommand env files args with
  | .printed text =>
    IO.print text
    return 0
  | .listening address _ =>
    IO.println ("ready on " ++ address.text)
    return 0
  | .failed failure =>
    IO.eprintln ("application error: " ++ failure.message)
    return 1
  | .refused .help =>
    IO.print usage
    return 0
  | .refused .usage =>
    IO.eprint usage
    return 2
