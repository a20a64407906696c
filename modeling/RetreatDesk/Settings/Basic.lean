import RetreatDesk.Net.Address
import RetreatDesk.Text.Letter

/-!
# Settings

* `Environment`: what a process is started with.
* `Settings.load`: the settings that an environment asks for.
* `Settings.address`: the address to listen on.
* `SettingsError`: why an environment is refused.
-/

namespace RetreatDesk

/-- What a process is started with. -/
structure Environment where
  /-- The variables by name. -/
  value? : String → Option String
  /-- A filter for log messages that is asked for from outside, whatever the settings say. -/
  logFilter : Option String

/-- The stage that the service runs in. -/
inductive Stage where
  /-- While it is being worked on. -/
  | development
  /-- While it is being tested. -/
  | test
  /-- For the people. -/
  | production
  deriving DecidableEq

namespace Stage

/-- The stage that a word stands for. -/
def ofText (s : String) : Stage :=
  match Text.lowerLatin (Text.trim s) with
  | "prod" | "production" => production
  | "test" | "ci" => test
  | _ => development

def name : Stage → String
  | development => "development"
  | test => "test"
  | production => "production"

end Stage

/-- The settings of the service. -/
structure Settings where
  stage : Stage
  host : String
  port : Nat
  /-- The filter for log messages. -/
  logLevel : String
  /-- Whether log messages are coloured. -/
  ansi : Bool
  /-- Where the registry is read from. -/
  snapshotPath : Option String

/-- Why settings are refused. -/
inductive SettingsError where
  /-- The port is no port. -/
  | invalidPort
  /-- The host is no address. -/
  | invalidHost
  /-- A flag says neither yes nor no. -/
  | invalidFlag (name value : String)

namespace SettingsError

/-- The wording of an error. -/
def message : SettingsError → String
  | invalidPort => "APP_PORT must be a valid u16"
  | invalidHost => "APP_HOST must parse to an IPv4 or IPv6 address"
  | invalidFlag name value => name ++ " must be a boolean flag, found '" ++ value ++ "'"

/-- Whether another error stands behind it. -/
def hasCause : SettingsError → Bool
  | invalidHost => true
  | _ => false

end SettingsError

/-- The number of a port: digits, perhaps after a plus sign, below `2 ^ 16`. -/
def port? (s : String) : Option Nat := (Decimal.natural? s.toList).filter (· ≤ 65535)

/-- What a flag says. -/
def flag? (s : String) : Option Bool :=
  match Text.lowerLatin (Text.trim s) with
  | "1" | "true" | "yes" | "on" => some true
  | "0" | "false" | "no" | "off" | "" => some false
  | _ => none

namespace Settings

/-- The settings that an environment asks for. The port is looked at before the flag. -/
def load (env : Environment) : Except SettingsError Settings := do
  let port ← match port? ((env.value? "APP_PORT").getD "3000") with
    | some n => .ok n
    | none => .error .invalidPort
  let ansi ← match env.value? "APP_LOG_ANSI" with
    | none => .ok false
    | some raw =>
      match flag? raw with
      | some b => .ok b
      | none => .error (.invalidFlag "APP_LOG_ANSI" raw)
  return {
    stage := .ofText ((env.value? "APP_ENV").getD "development")
    host := (env.value? "APP_HOST").getD "127.0.0.1"
    port := port
    logLevel := (env.value? "APP_LOG_LEVEL").getD "info"
    ansi := ansi
    snapshotPath := ((env.value? "APP_SNAPSHOT_PATH").map Text.trim).filter (!·.isEmpty) }

/-- The address to listen on. -/
def address (s : Settings) : Except SettingsError SocketAddress :=
  if Text.lowerLatin s.host = "localhost" then .ok ⟨.v4 [127, 0, 0, 1], s.port⟩
  else
    match IpAddress.ofText? s.host with
    | some ip => .ok ⟨ip, s.port⟩
    | none => .error .invalidHost

end Settings

end RetreatDesk
