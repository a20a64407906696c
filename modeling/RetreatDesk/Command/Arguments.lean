import RetreatDesk.Web.Encoding
import RetreatDesk.Registry.View
import RetreatDesk.Settings.Basic

/-!
# Command lines

* `Invocation`: what a command line asks for.
* `Invocation.ofArguments`: the invocation of a list of arguments, or the refusal.
* `Options.ofArguments`: options with values and flags, each at most once.
-/

namespace RetreatDesk

/-- Why a command line leads nowhere. -/
inductive Refusal where
  | help
  /-- It cannot be understood. -/
  | usage
  deriving DecidableEq

/-! ## Options -/

/-- The options of a command. -/
structure Options where
  /-- Options with their values. -/
  values : List (String × String) := []
  flags : List String := []

namespace Options

def value? (o : Options) (name : String) : Option String := o.values.lookup name

def given (o : Options) (name : String) : Bool := o.flags.contains name || (o.value? name).isSome

/-- Whether an argument looks like an option and so cannot be a value that stands alone. -/
def looksLikeOption (s : String) : Bool := s.startsWith "-" && s ≠ "-"

/-- The options of a list of arguments, after those already read. Each option with a value comes with the test
that its value has to pass. -/
def ofArguments (valued : List (String × (String → Bool))) (flags : List String) (o : Options) :
    List String → Except Refusal Options
  | [] => .ok o
  | arg :: rest =>
    if arg = "--" then if rest.isEmpty then .ok o else .error .usage
    else if arg.startsWith "--" then
      let (name, attached) := Web.cut '=' (String.ofList (arg.toList.drop 2))
      if o.given name then .error .usage
      else
        match valued.lookup name, attached, rest with
        | some fits, some v, rest =>
          if fits v then ofArguments valued flags { o with values := (name, v) :: o.values } rest
          else .error .usage
        | some fits, none, v :: rest =>
          if !looksLikeOption v && fits v then
            ofArguments valued flags { o with values := (name, v) :: o.values } rest
          else .error .usage
        | some _, none, [] => .error .usage
        | none, some _, _ => .error .usage
        | none, none, rest =>
          if flags.contains name then ofArguments valued flags { o with flags := name :: o.flags } rest
          else if name = "help" then .error .help
          else .error .usage
    else if arg.startsWith "-h" then .error .help
    else .error .usage

end Options

/-! ## Values -/

/-- The port of an option: a number with an optional sign, below `2 ^ 16`. -/
def portOption? (s : String) : Option Nat :=
  match s.toList with
  | '-' :: rest => if !rest.isEmpty && rest.all (· = '0') then some 0 else none
  | _ => port? s

/-- Any text will do. -/
def anyText (_ : String) : Bool := true

/-- A path may not be empty. -/
def isPath (s : String) : Bool := !s.isEmpty

/-- Whether a text is the port of an option. -/
def isPortOption (s : String) : Bool := (portOption? s).isSome

/-! ## Invocations -/

/-- What a command line asks for. -/
inductive Invocation where
  /-- Serve requests. -/
  | serve (host : Option String) (port : Option Nat) (snapshot : Option String)
  /-- Tell whether a person belongs to a pool. -/
  | eligibility (pool participant aid : String) (snapshot : Option String)
  | view (view : String) (request : ViewRequest) (asJson : Bool) (snapshot : Option String)
  /-- Walk through the demonstration. -/
  | demo (showHidden : Bool)

namespace Invocation

/-- The value of an option that has to be there. -/
def required (o : Options) (name : String) : Except Refusal String :=
  match o.value? name with
  | some v => .ok v
  | none => .error .usage

/-- The names of the commands. -/
def commands : List String := ["serve", "eligibility", "view", "demo"]

/-- Help is asked for on the whole program or on one command. -/
def help (topic : List String) : Refusal :=
  match topic with
  | [] => .help
  | [name] => if name = "help" || commands.contains name then .help else .usage
  | _ => .usage

/-- The invocation of a list of arguments. Without a command the service is asked for. -/
def ofArguments (args : List String) : Except Refusal Invocation :=
  match args with
  | [] | ["--"] => .ok (.serve none none none)
  | "serve" :: rest => do
    let o ← Options.ofArguments [("host", anyText), ("port", isPortOption), ("snapshot", isPath)] [] {} rest
    return .serve (o.value? "host") ((o.value? "port").bind portOption?) (o.value? "snapshot")
  | "eligibility" :: rest => do
    let o ← Options.ofArguments
      [("pool", anyText), ("participant", anyText), ("aid", anyText), ("snapshot", isPath)] [] {} rest
    return .eligibility (← required o "pool") (← required o "participant") (← required o "aid")
      (o.value? "snapshot")
  | "view" :: rest => do
    let o ← Options.ofArguments
      [("view", anyText), ("aid", anyText), ("sub-event", anyText), ("search", anyText), ("snapshot", isPath)]
      ["json"] {} rest
    let request : ViewRequest := ⟨← required o "aid", o.value? "sub-event", o.value? "search"⟩
    return .view (← required o "view") request (o.given "json") (o.value? "snapshot")
  | "demo" :: rest => do
    let o ← Options.ofArguments [] ["show-hidden"] {} rest
    return .demo (o.given "show-hidden")
  | "help" :: topic => .error (help topic)
  | arg :: _ =>
    if arg = "--help" || arg = "--version" || arg.startsWith "-h" || arg.startsWith "-V" then .error .help
    else .error .usage

end Invocation

end RetreatDesk
