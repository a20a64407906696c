import RetreatDesk.Proofs.Command.Given
import RetreatDesk.Proofs.Reading.Outcome

/-!
# Options go before the environment

* `Environment.AgreeBut`: environments that differ in one variable at most.
* `launch`: what the service does once its settings are known.
* `serve_eq_invalidPort_iff`: a variable for the port that is no port is refused, whatever the options say.
* `runCommand_precedence`: an option goes before its variable, save that the variable for the port is looked at all the
  same.
* `not_runCommand_precedence`: so it does not always help to give the port on the command line.
-/

namespace RetreatDesk

/-! ## Environments -/

namespace Environment

/-- The environments differ in one variable at most. -/
structure AgreeBut (name : String) (env env' : Environment) : Prop where
  value?_eq : ∀ other, other ≠ name → env.value? other = env'.value? other
  logFilter_eq : env.logFilter = env'.logFilter

variable (env : Environment)

/-- The port that the environment asks for, if its variable is a port. -/
def port? : Option Nat := RetreatDesk.port? ((env.value? "APP_PORT").getD "3000")

/-- Whether the environment asks for colours. -/
def ansi : Except SettingsError Bool :=
  match env.value? "APP_LOG_ANSI" with
  | none => .ok false
  | some raw =>
    match flag? raw with
    | some b => .ok b
    | none => .error (.invalidFlag "APP_LOG_ANSI" raw)

/-- The settings that the environment asks for besides. -/
def settings (port : Nat) (ansi : Bool) : Settings where
  stage := .ofText ((env.value? "APP_ENV").getD "development")
  host := (env.value? "APP_HOST").getD "127.0.0.1"
  port := port
  logLevel := (env.value? "APP_LOG_LEVEL").getD "info"
  ansi := ansi
  snapshotPath := ((env.value? "APP_SNAPSHOT_PATH").map Text.trim).filter (!·.isEmpty)

theorem load_of_port? {port : Nat} (h : env.port? = some port) :
    Settings.load env = env.ansi.map (env.settings port) := by
  unfold port? at h
  unfold Settings.load ansi
  rw [h]
  cases env.value? "APP_LOG_ANSI" with
  | none => rfl
  | some raw =>
    cases hflag : flag? raw with
    | none => simp [hflag, bind, Except.bind, Except.map]
    | some b => simp [hflag, bind, Except.bind, pure, Except.pure, Except.map, settings]

theorem load_of_no_port? (h : env.port? = none) : Settings.load env = .error .invalidPort := by
  unfold port? at h
  unfold Settings.load
  rw [h]
  rfl

theorem ansi_ne_invalidPort : env.ansi ≠ .error .invalidPort := by
  unfold ansi
  split
  · exact fun h => by cases h
  · split
    · exact fun h => by cases h
    · exact fun h => by cases h

end Environment

/-! ## The service -/

/-- The settings with the options in place of what the environment asks for. -/
def Settings.override (host : Option String) (port : Option Nat) (snapshot : Option String) (s : Settings) : Settings :=
  { s with
    host := host.getD s.host
    port := port.getD s.port
    snapshotPath := snapshot.or s.snapshotPath }

/-- The address to listen on and the desk to serve from, once the settings are known. -/
def launch (logFilter : Option String) (files : Files) (s : Settings) : Except Failure (SocketAddress × Desk) :=
  if logFilter.any isLogFilter || isLogFilter s.logLevel then do
    let records ← loadSnapshot files s.snapshotPath
    let address ← atSettings s.address
    return (address, Desk.ofSnapshot records)
  else .error (.logFilter s.logLevel)

section
variable {env env' : Environment} {files : Files} {host snapshot : Option String} {port : Option Nat}

theorem serve_of_no_port? (h : env.port? = none) :
    serve env files host port snapshot = .error (.settings .invalidPort) := by
  unfold serve
  rw [env.load_of_no_port? h]
  rfl

theorem serve_of_port? {n : Nat} (h : env.port? = some n) :
    serve env files host port snapshot =
      (atSettings (env.ansi.map fun b => (env.settings n b).override host port snapshot)).bind
        (launch env.logFilter files) := by
  unfold serve
  rw [env.load_of_port? h]
  cases env.ansi with
  | error e => rfl
  | ok b => rfl

theorem loadSnapshot_ne_settings {e : SettingsError} (path : Option String) :
    loadSnapshot files path ≠ .error (.settings e) := by
  cases path with
  | none => exact fun h => by cases h
  | some path =>
    simp only [loadSnapshot]
    split
    · exact fun h => by cases h
    · exact fun h => by cases h
    · exact fun h => by cases h
    · split
      · exact fun h => by cases h
      · exact fun h => by cases h

theorem address_ne_invalidPort (s : Settings) : s.address ≠ .error .invalidPort := by
  unfold Settings.address
  split
  · exact fun h => by cases h
  · split
    · exact fun h => by cases h
    · exact fun h => by cases h

theorem launch_ne_invalidPort (logFilter : Option String) (s : Settings) :
    launch logFilter files s ≠ .error (.settings .invalidPort) := by
  unfold launch
  split
  · cases hload : loadSnapshot files s.snapshotPath with
    | error failure =>
      rintro ⟨⟩
      exact loadSnapshot_ne_settings _ hload
    | ok records =>
      cases haddress : s.address with
      | error e =>
        rintro ⟨⟩
        exact address_ne_invalidPort s haddress
      | ok address => exact fun h => by cases h
  · exact fun h => by cases h

/-- A variable for the port that is no port is refused, whatever the options say, and nothing else is refused so. -/
theorem serve_eq_invalidPort_iff :
    serve env files host port snapshot = .error (.settings .invalidPort) ↔ env.port? = none := by
  constructor
  · intro h
    cases hport : env.port? with
    | none => rfl
    | some n =>
      rw [serve_of_port? hport] at h
      cases hansi : env.ansi with
      | error e =>
        rw [hansi] at h
        cases h
        exact absurd hansi env.ansi_ne_invalidPort
      | ok b =>
        rw [hansi] at h
        exact absurd h (launch_ne_invalidPort _ _)
  · exact serve_of_no_port?

/-! ## Options given -/

/-- Where two environments agree on the flag and on the filter, they come to the same once the options have made their
other settings alike. -/
theorem serve_congr {n n' : Nat} (hport : env.port? = some n) (hport' : env'.port? = some n')
    (hansi : env.ansi = env'.ansi) (hlog : env.logFilter = env'.logFilter)
    (hsettings : ∀ b, (env.settings n b).override host port snapshot =
      (env'.settings n' b).override host port snapshot) :
    serve env files host port snapshot = serve env' files host port snapshot := by
  rw [serve_of_port? hport, serve_of_port? hport', hansi, hlog, funext hsettings]

namespace Environment.AgreeBut

variable {name : String}

theorem port?_eq (h : env.AgreeBut name env') (hname : "APP_PORT" ≠ name) : env.port? = env'.port? := by
  rw [port?, port?, h.value?_eq _ hname]

theorem ansi_eq (h : env.AgreeBut name env') (hname : "APP_LOG_ANSI" ≠ name) : env.ansi = env'.ansi := by
  rw [ansi, ansi, h.value?_eq _ hname]

theorem serve_host_eq (h : env.AgreeBut "APP_HOST" env') (host : String) :
    serve env files (some host) port snapshot = serve env' files (some host) port snapshot := by
  have hsame := h.port?_eq (by decide)
  cases hport : env.port? with
  | none => rw [serve_of_no_port? hport, serve_of_no_port? (hsame ▸ hport)]
  | some n =>
    refine serve_congr hport (hsame ▸ hport) (h.ansi_eq (by decide)) h.logFilter_eq fun b => ?_
    simp [Settings.override, settings, h.value?_eq]

theorem serve_snapshot_eq (h : env.AgreeBut "APP_SNAPSHOT_PATH" env') (path : String) :
    serve env files host port (some path) = serve env' files host port (some path) := by
  have hsame := h.port?_eq (by decide)
  cases hport : env.port? with
  | none => rw [serve_of_no_port? hport, serve_of_no_port? (hsame ▸ hport)]
  | some n =>
    refine serve_congr hport (hsame ▸ hport) (h.ansi_eq (by decide)) h.logFilter_eq fun b => ?_
    simp [Settings.override, settings, h.value?_eq]

/-- The variable for the port counts even if the port is given: not for its value, but for being a port. -/
theorem serve_port_eq_iff (h : env.AgreeBut "APP_PORT" env') (port : Nat) :
    serve env files host (some port) snapshot = serve env' files host (some port) snapshot ↔
      (env.port? = none ↔ env'.port? = none) := by
  constructor
  · intro hsame
    rw [← serve_eq_invalidPort_iff, hsame, serve_eq_invalidPort_iff]
  · intro hboth
    cases hport : env.port? with
    | none => rw [serve_of_no_port? hport, serve_of_no_port? (hboth.mp hport)]
    | some n =>
      have hsome : env'.port? ≠ none := fun hnone => by rw [hboth.mpr hnone] at hport; cases hport
      obtain ⟨n', hport'⟩ := Option.ne_none_iff_exists'.mp hsome
      refine serve_congr hport hport' (h.ansi_eq (by decide)) h.logFilter_eq fun b => ?_
      simp [Settings.override, settings, h.value?_eq]

end Environment.AgreeBut

/-! ## Command lines -/

variable {args : List String}

theorem runCommand_of_error {refusal : Refusal} (h : Invocation.ofArguments args = .error refusal) :
    runCommand env files args = .refused refusal := by
  rw [runCommand, h]

theorem runCommand_of_ok {invocation : Invocation} (h : Invocation.ofArguments args = .ok invocation) :
    runCommand env files args = invocation.run env files := by
  rw [runCommand, h]

/-- A command line that is refused is refused in every environment. -/
theorem runCommand_congr (h : ∀ invocation, Invocation.ofArguments args = .ok invocation →
    invocation.run env files = invocation.run env' files) : runCommand env files args = runCommand env' files args := by
  cases hline : Invocation.ofArguments args with
  | error refusal => rw [runCommand_of_error hline, runCommand_of_error hline]
  | ok invocation => rw [runCommand_of_ok hline, runCommand_of_ok hline, h invocation hline]

theorem run_serve_eq_iff :
    Invocation.run env files (.serve host port snapshot) = Invocation.run env' files (.serve host port snapshot) ↔
      serve env files host port snapshot = serve env' files host port snapshot := by
  simp only [Invocation.run]
  cases serve env files host port snapshot with
  | error failure =>
    cases serve env' files host port snapshot with
    | error failure' => simp
    | ok served' => simp
  | ok served =>
    cases serve env' files host port snapshot with
    | error failure' => simp
    | ok served' => simp [Prod.ext_iff]

theorem value_of_gives {valued : List (String × (String → Bool))} {flags : List String} {o : Options}
    (h : Options.ofArguments valued flags {} args = .ok o) {name : String} (hname : '=' ∉ name.toList) (hne : name ≠ "")
    {fits : String → Bool} (hvalued : valued.lookup name = some fits) (hgives : Gives name args) :
    ∃ value, o.value? name = some value ∧ fits value = true := by
  have haccepts := Options.accepts_of_ok h
  obtain ⟨value, hvalue⟩ := haccepts.value_of_given hname hne hvalued hgives
  obtain ⟨fits', hvalued', hfits⟩ := haccepts.fits (fun _ _ hnothing => by cases hnothing) hvalue
  rw [hvalued] at hvalued'
  cases hvalued'
  exact ⟨value, hvalue, hfits⟩

/-- What an accepted command line asks of the service, and which options it gives. -/
theorem serve_of_accepted {invocation : Invocation} (h : Invocation.ofArguments ("serve" :: args) = .ok invocation) :
    ∃ host port snapshot, invocation = .serve host port snapshot ∧ (Gives "host" args → host.isSome) ∧
      (Gives "port" args → port.isSome) ∧ (Gives "snapshot" args → snapshot.isSome) := by
  obtain ⟨o, ho, hinvocation⟩ := bind_eq_ok.mp h
  cases hinvocation
  refine ⟨_, _, _, rfl, fun hgives => ?_, fun hgives => ?_, fun hgives => ?_⟩
  · obtain ⟨value, hvalue, -⟩ := value_of_gives ho (by decide) (by decide) rfl hgives
    rw [hvalue]
    rfl
  · obtain ⟨value, hvalue, hfits⟩ := value_of_gives ho (by decide) (by decide) rfl hgives
    rw [hvalue]
    exact hfits
  · obtain ⟨value, hvalue, -⟩ := value_of_gives ho (by decide) (by decide) rfl hgives
    rw [hvalue]
    rfl

theorem eligibility_of_accepted {invocation : Invocation}
    (h : Invocation.ofArguments ("eligibility" :: args) = .ok invocation) (hgives : Gives "snapshot" args) :
    ∃ pool participant aid path, invocation = .eligibility pool participant aid (some path) := by
  obtain ⟨o, ho, h⟩ := bind_eq_ok.mp h
  obtain ⟨pool, -, h⟩ := bind_eq_ok.mp h
  obtain ⟨participant, -, h⟩ := bind_eq_ok.mp h
  obtain ⟨aid, -, h⟩ := bind_eq_ok.mp h
  obtain ⟨path, hpath, -⟩ := value_of_gives ho (by decide) (by decide) rfl hgives
  cases h
  exact ⟨pool, participant, aid, path, by rw [hpath]⟩

theorem view_of_accepted {invocation : Invocation} (h : Invocation.ofArguments ("view" :: args) = .ok invocation)
    (hgives : Gives "snapshot" args) :
    ∃ key request asJson path, invocation = .view key request asJson (some path) := by
  obtain ⟨o, ho, h⟩ := bind_eq_ok.mp h
  obtain ⟨aid, -, h⟩ := bind_eq_ok.mp h
  obtain ⟨key, -, h⟩ := bind_eq_ok.mp h
  obtain ⟨path, hpath, -⟩ := value_of_gives ho (by decide) (by decide) rfl hgives
  cases h
  exact ⟨key, _, _, path, by rw [hpath]⟩

end

/-- An option on the command line goes before its variable in the environment: with the host or the snapshot given, the
service comes to the same whatever the variable says, and a command that runs once does not look at the environment at
all if its snapshot is given. The variable for the port is looked at even if the port is given: what it says does not
count, but it has to be a port, unless the command line is refused anyway. -/
theorem runCommand_precedence (files : Files) (args : List String) :
    (Gives "host" args → ∀ env env', env.AgreeBut "APP_HOST" env' →
      runCommand env files ("serve" :: args) = runCommand env' files ("serve" :: args)) ∧
    (Gives "snapshot" args → ∀ env env', env.AgreeBut "APP_SNAPSHOT_PATH" env' →
      runCommand env files ("serve" :: args) = runCommand env' files ("serve" :: args)) ∧
    (Gives "port" args → ∀ env env', env.AgreeBut "APP_PORT" env' →
      (runCommand env files ("serve" :: args) = runCommand env' files ("serve" :: args) ↔
        (∃ refusal, Invocation.ofArguments ("serve" :: args) = .error refusal) ∨
          (env.port? = none ↔ env'.port? = none))) ∧
    (Gives "snapshot" args → ∀ env env',
      runCommand env files ("eligibility" :: args) = runCommand env' files ("eligibility" :: args) ∧
        runCommand env files ("view" :: args) = runCommand env' files ("view" :: args)) := by
  refine ⟨fun hgives env env' h => runCommand_congr fun invocation hline => ?_,
    fun hgives env env' h => runCommand_congr fun invocation hline => ?_, fun hgives env env' h => ?_,
    fun hgives env env' => ⟨runCommand_congr fun invocation hline => ?_, runCommand_congr fun invocation hline => ?_⟩⟩
  · obtain ⟨host, port, snapshot, rfl, hhost, -, -⟩ := serve_of_accepted hline
    obtain ⟨host, rfl⟩ := Option.isSome_iff_exists.mp (hhost hgives)
    exact run_serve_eq_iff.mpr (h.serve_host_eq host)
  · obtain ⟨host, port, snapshot, rfl, -, -, hsnapshot⟩ := serve_of_accepted hline
    obtain ⟨path, rfl⟩ := Option.isSome_iff_exists.mp (hsnapshot hgives)
    exact run_serve_eq_iff.mpr (h.serve_snapshot_eq path)
  · cases hline : Invocation.ofArguments ("serve" :: args) with
    | error refusal =>
      rw [runCommand_of_error hline, runCommand_of_error hline]
      exact ⟨fun _ => .inl ⟨refusal, rfl⟩, fun _ => rfl⟩
    | ok invocation =>
      obtain ⟨host, port, snapshot, rfl, -, hport, -⟩ := serve_of_accepted hline
      obtain ⟨port, rfl⟩ := Option.isSome_iff_exists.mp (hport hgives)
      rw [runCommand_of_ok hline, runCommand_of_ok hline, run_serve_eq_iff, h.serve_port_eq_iff]
      simp
  · obtain ⟨pool, participant, aid, path, rfl⟩ := eligibility_of_accepted hline hgives
    rfl
  · obtain ⟨key, request, asJson, path, rfl⟩ := view_of_accepted hline hgives
    rfl

/-- The environment with one variable. -/
def Environment.lone (name value : String) : Environment := ⟨fun n => if n = name then some value else none, none⟩

theorem Environment.agreeBut_lone (name value value' : String) : (lone name value).AgreeBut name (lone name value') :=
  ⟨fun other hother => by simp [lone, hother], rfl⟩

/-- No file stands under any path. -/
def noFiles : Files := fun _ => .error .missing

/-- All options of the service. -/
def serviceLine : List String := ["--host", "127.0.0.1", "--port=80", "--snapshot", "/nope"]

/-- Options that ask who belongs to a pool. -/
def poolLine : List String := ["--pool", "helpers", "--participant", "p-001", "--aid", "sw2025", "--snapshot", "/nope"]

theorem gives_serviceLine : Gives "host" serviceLine ∧ Gives "port" serviceLine ∧ Gives "snapshot" serviceLine :=
  ⟨⟨"--host", by simp [serviceLine], .inl rfl⟩, ⟨"--port=80", by simp [serviceLine], .inr ⟨"80", rfl⟩⟩,
    ⟨"--snapshot", by simp [serviceLine], .inl rfl⟩⟩

theorem gives_poolLine : Gives "snapshot" poolLine := ⟨"--snapshot", by simp [poolLine], .inl rfl⟩

theorem accepted_serviceLine : ∃ host port snapshot,
    Invocation.ofArguments ("serve" :: serviceLine) = .ok (.serve host (some port) snapshot) := by
  have hok : (Invocation.ofArguments ("serve" :: serviceLine)).isOk = true := by decide +kernel
  cases hline : Invocation.ofArguments ("serve" :: serviceLine) with
  | error refusal =>
    rw [hline] at hok
    cases hok
  | ok invocation =>
    obtain ⟨host, port, snapshot, rfl, -, hport, -⟩ := serve_of_accepted hline
    obtain ⟨port, rfl⟩ := Option.isSome_iff_exists.mp (hport gives_serviceLine.2.1)
    exact ⟨host, port, snapshot, rfl⟩

theorem port?_lone_http : (Environment.lone "APP_PORT" "http").port? = none := rfl

theorem port?_lone_number : (Environment.lone "APP_PORT" "8080").port? = some 8080 := rfl

theorem runCommand_precedence_serviceLine :
    runCommand (.lone "APP_HOST" "nowhere") noFiles ("serve" :: serviceLine) =
        runCommand (.lone "APP_HOST" "::1") noFiles ("serve" :: serviceLine) ∧
      runCommand (.lone "APP_SNAPSHOT_PATH" "a.json") noFiles ("serve" :: serviceLine) =
        runCommand (.lone "APP_SNAPSHOT_PATH" "b.json") noFiles ("serve" :: serviceLine) ∧
      runCommand (.lone "APP_PORT" "http") noFiles ("serve" :: serviceLine) ≠
        runCommand (.lone "APP_PORT" "8080") noFiles ("serve" :: serviceLine) ∧
      runCommand (.lone "APP_PORT" "http") noFiles ("eligibility" :: poolLine) =
        runCommand (.lone "APP_PORT" "8080") noFiles ("eligibility" :: poolLine) := by
  obtain ⟨hhost, hsnapshot, hport, -⟩ := runCommand_precedence noFiles serviceLine
  obtain ⟨-, -, -, honce⟩ := runCommand_precedence noFiles poolLine
  obtain ⟨hgiveshost, hgivesport, hgivessnapshot⟩ := gives_serviceLine
  refine ⟨hhost hgiveshost _ _ (Environment.agreeBut_lone ..),
    hsnapshot hgivessnapshot _ _ (Environment.agreeBut_lone ..), fun hsame => ?_, (honce gives_poolLine _ _).1⟩
  rcases (hport hgivesport _ _ (Environment.agreeBut_lone ..)).mp hsame with ⟨refusal, hrefused⟩ | hboth
  · obtain ⟨_, _, _, haccepted⟩ := accepted_serviceLine
    rw [haccepted] at hrefused
    cases hrefused
  · rw [port?_lone_number] at hboth
    cases hboth.mp port?_lone_http

/-- To give the port on the command line does not always help: a variable for the port that is no port is refused all
the same. -/
theorem not_runCommand_precedence :
    ¬∀ (files : Files) (args : List String), Gives "port" args → ∀ env env', env.AgreeBut "APP_PORT" env' →
      runCommand env files ("serve" :: args) = runCommand env' files ("serve" :: args) := by
  intro hall
  have hsame := hall noFiles serviceLine gives_serviceLine.2.1 _ _ (Environment.agreeBut_lone "APP_PORT" "http" "8080")
  obtain ⟨_, _, _, haccepted⟩ := accepted_serviceLine
  rw [runCommand_of_ok haccepted, runCommand_of_ok haccepted, run_serve_eq_iff,
    (Environment.agreeBut_lone "APP_PORT" "http" "8080").serve_port_eq_iff, port?_lone_number] at hsame
  cases hsame.mp port?_lone_http

end RetreatDesk
