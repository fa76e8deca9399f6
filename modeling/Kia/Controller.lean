import Kia.Context

/-!
# The state loop of the controller

`controller.c`: the eight state handlers and the loop of `controller_run`.
One iteration of the loop invokes the handler of the current state with the
answers its collaborators give; the loop runs while `ctx->running` holds and
the state is not `STATE_EXIT`, and stops early when a handler fails and leaves
`STATE_EXIT` behind. `controller_run` returns the code of the last handler.

A run is a finite list of iterations: `controllerRun` returns no result when
the inputs run out before the loop stops. `Reaches start` holds of every
machine and trace a run from `start` passes through, so a statement over
reachable machines is a statement over every prefix of every run.

The `default` branch of the loop's `switch` is not modelled: `app_state_t`
values are the nine states, and every handler stores one of them.
-/

namespace Kia

/-- `KIA_VERSION`. -/
def kiaVersion : String := "1.0.0"

/-- `KIA_CONFIG_PATH`. -/
def kiaConfigPath : String := "/etc/kia/config"

/-- The outcome of one handler: its return code, the process after it and what
it did. -/
structure Step where
  result : Status
  machine : Machine
  events : List Event

/-- The machine with a new context. -/
def Machine.withCtx (m : Machine) (ctx : AppContext) : Machine := { m with ctx := ctx }

@[simp] theorem Machine.withCtx_ctx (m : Machine) (ctx : AppContext) : (m.withCtx ctx).ctx = ctx := rfl

@[simp] theorem Machine.withCtx_globals (m : Machine) (ctx : AppContext) :
    (m.withCtx ctx).globals = m.globals := rfl

@[simp] theorem Machine.withCtx_creds (m : Machine) (ctx : AppContext) :
    (m.withCtx ctx).creds = m.creds := rfl

/-- `handle_init`: `auth_init`, then `tui_init`; either failing is fatal. -/
def handleInit (m : Machine) (input : Input) : Step :=
  let started := [Event.log .info "Kia display manager started (version %s)" [.text kiaVersion]] ++
    authInit.2
  if authInit.1 ≠ .success then
    ⟨authInit.1, m.withCtx { m.ctx with state := .exit },
      started ++ [.log .error "Failed to initialize authentication module" []]⟩
  else if tuiInit input.tuiInit ≠ .success then
    ⟨tuiInit input.tuiInit, m.withCtx { m.ctx with state := .exit },
      started ++ [.log .error "Failed to initialize TUI" []]⟩
  else
    ⟨.success, m.withCtx { m.ctx with state := .loadConfig }, started⟩

/-- `handle_load_config`: a failed load and a failed validation are only
reported; no session is fatal. -/
def handleLoadConfig (m : Machine) (input : Input) : Step :=
  let loaded := if input.loadResult ≠ .success then
      [Event.log .warn "Failed to load config from %s, using defaults" [.text kiaConfigPath]]
    else []
  let validated := if configValidate input.loaded ≠ .success then
      [Event.log .warn "Configuration validation failed, using defaults" []]
    else []
  let ctx := { m.ctx with config := input.loaded, sessions := input.discovery.sessions }
  let discovered := loaded ++ validated ++ input.discovery.events
  if input.discovery.result ≠ .success ∨ input.discovery.sessions = [] then
    ⟨.errorSession, m.withCtx { ctx with state := .exit },
      discovered ++ [.log .error "No sessions found" [],
        .showError "No sessions available. Please install a desktop environment." []]⟩
  else
    ⟨.success, m.withCtx { ctx with state := .checkAutologin },
      discovered ++ [.log .info "Discovered %d session(s)" [.int input.discovery.sessions.length]]⟩

/-- `handle_check_autologin`: an enabled autologin of an existing account with a
usable default session skips the login screen; every other case falls back to it. -/
def handleCheckAutologin (m : Machine) (input : Input) : Step :=
  let config := m.ctx.config
  let user := config.autologinUser
  let manual := m.withCtx { m.ctx with state := .showLogin }
  if config.autologinEnabled ∧ user.bytes ≠ [] then
    if user.bytes.length = 0 ∨ 256 ≤ user.bytes.length then
      ⟨.success, manual,
        [.log .error "Invalid autologin username length: %zu" [.int user.bytes.length],
          .showError "Invalid autologin configuration. Falling back to manual login." []]⟩
    else
      let known := userExists user input.autologinLookup
      let checked := known.2 ++ [.userExists user known.1]
      if known.1 = false then
        ⟨.success, manual,
          checked ++ [.log .error "Autologin user '%s' does not exist" [.str user],
            .showError "Autologin user not found. Falling back to manual login." []]⟩
      else
        let username := Buffer.ofStr 256 user
        let found := findDefaultSession m.ctx.sessions config.defaultSession
        let ctx := { m.ctx with username := username, selectedSession := found.1 }
        let chosen := checked ++ [.username username.str] ++ found.2
        match selectedEntry m.ctx.sessions found.1 with
        | none =>
          ⟨.success, m.withCtx { ctx with state := .showLogin },
            chosen ++ [.log .error "Invalid session index for autologin: %d" [.int found.1],
              .showError "Invalid session configuration. Falling back to manual login." []]⟩
        | some session =>
          ⟨.success, m.withCtx { ctx with state := .startSession },
            chosen ++ [.log .info "Autologin enabled for user '%s' with session '%s'"
              [.str username.str, .str session.name]]⟩
  else
    ⟨.success, manual, []⟩

/-- `handle_show_login`. Drawing the screen changes nothing the model tracks. -/
def handleShowLogin (m : Machine) : Step :=
  ⟨.success, m.withCtx { m.ctx with state := .getCredentials }, []⟩

/-- `handle_get_credentials`: the terminal writes both arrays; a read failure
and every invalid entry go back to the login screen. -/
def handleGetCredentials (m : Machine) (input : Input) : Step :=
  let read := input.credentials
  let ctx := { m.ctx with username := read.username, password := read.password }
  let typed := [Event.username read.username.str]
  let retry := m.withCtx { ctx with state := .showLogin }
  if read.result ≠ .success then
    ⟨read.result, retry,
      typed ++ [.log .error "Failed to get credentials from TUI: %d" [.int read.result.code],
        .showError "Failed to read credentials. Please try again." []]⟩
  else if read.username.str.bytes = [] then
    ⟨.success, retry,
      typed ++ [.log .warn "Empty username provided" [], .showError "Username cannot be empty." []]⟩
  else if 255 < read.username.str.bytes.length then
    let cleared := { ctx with username := Buffer.zero 256, password := Buffer.zero 256 }
    ⟨.success, m.withCtx { cleared with state := .showLogin },
      typed ++ [.log .warn "Username too long: %zu characters" [.int read.username.str.bytes.length],
        .showError "Username too long." [], .username CStr.empty]⟩
  else if read.password.str.bytes = [] then
    ⟨.success, retry,
      typed ++ [.log .warn "Empty password provided for user '%s'" [.str read.username.str],
        .showError "Password cannot be empty." []]⟩
  else
    ⟨.success, m.withCtx { ctx with state := .selectSession }, typed⟩

/-- `handle_select_session`: the terminal's choice is kept even when it is out
of range. -/
def handleSelectSession (m : Machine) (input : Input) : Step :=
  let proposed := findDefaultSession m.ctx.sessions m.ctx.config.defaultSession
  let ctx := { m.ctx with selectedSession := input.selection }
  let asked := proposed.2 ++ [Event.selectSession input.selection]
  match selectedEntry m.ctx.sessions input.selection with
  | none =>
    ⟨.errorSession, m.withCtx { ctx with state := .showLogin },
      asked ++ [.log .error "Invalid session selection: %d" [.int input.selection],
        .showError "Invalid session selection." []]⟩
  | some session =>
    ⟨.success, m.withCtx { ctx with state := .authenticate },
      asked ++ [.log .info "User '%s' selected session: %s" [.str m.ctx.username.str, .str session.name]]⟩

/-- `handle_authenticate`: the lockout check, then one attempt; the secret is
cleared after either. -/
def handleAuthenticate (m : Machine) (input : Input) : Step :=
  let user := m.ctx.username.str
  let checked := authIsLockedOut m.ctx.authState input.clock
  if checked.1 then
    ⟨.success,
      m.withCtx { m.ctx with authState := checked.2, password := Buffer.zero 256, state := .showLogin },
      [.log .warn "User '%s' is locked out" [.str user],
        .showError "Too many failed attempts. Please wait before trying again." []]⟩
  else
    let call := authAuthenticate (some user) (some m.ctx.password.str) (some m.ctx.config)
      (some checked.2) m.globals input.auth
    let attempted := call.state.getD checked.2
    let ctx := { m.ctx with password := Buffer.zero 256 }
    let reported := call.events ++ [.authenticate user call.result]
    if call.result = .success then
      ⟨.success,
        ⟨{ ctx with authState := authResetAttempts attempted, state := .startSession },
          call.globals, m.creds⟩,
        reported ++ [.log .info "User '%s' authenticated successfully" [.str user]]⟩
    else
      ⟨.success, ⟨{ ctx with authState := attempted, state := .showLogin }, call.globals, m.creds⟩,
        reported ++ [.log .error "Authentication failed for user '%s' (attempt %d/%d)"
            [.str user, .int attempted.failedAttempts, .int m.ctx.config.maxAttempts],
          .showError "Authentication failed. Attempt %d of %d."
            [.int attempted.failedAttempts, .int m.ctx.config.maxAttempts]]⟩

/-- `handle_start_session`: a launch that succeeds ends the manager; one that
fails goes back to the login screen with the launcher's code. -/
def handleStartSession (m : Machine) (input : Input) : Step :=
  let user := m.ctx.username.str
  match selectedEntry m.ctx.sessions m.ctx.selectedSession with
  | none =>
    ⟨.errorSession, m.withCtx { m.ctx with state := .showLogin },
      [.log .error "Invalid session index: %d" [.int m.ctx.selectedSession],
        .showError "Invalid session. Please try again." []]⟩
  | some session =>
    let launched := sessionStart session user m.creds m.globals.files input.launch
    let started := [Event.log .info "Starting %s session '%s' for user '%s'"
        [.text session.type.label, .str session.name, .str user],
      .showMessage "Starting session...", .sessionStart session user] ++ launched.2
    if launched.1 ≠ .success then
      ⟨launched.1, m.withCtx { m.ctx with state := .showLogin },
        started ++ [.log .error "Failed to start session for user '%s'" [.str user],
          .showError "Failed to start session. Please try again." []]⟩
    else
      ⟨.success, m.withCtx { m.ctx with state := .exit },
        started ++ [.log .info "Session started successfully, exiting display manager" []]⟩

/-- The loop's invocation of the handler of `state`. -/
def Step.invoked (state : AppState) (step : Step) : Step :=
  { step with events := .handler state :: step.events }

/-- One iteration of the loop of `controller_run`, entered with the code the
previous handler returned. -/
def controllerStep (result : Status) (m : Machine) (input : Input) : Step :=
  match m.ctx.state with
  | .init => (handleInit m input).invoked .init
  | .loadConfig => (handleLoadConfig m input).invoked .loadConfig
  | .checkAutologin => (handleCheckAutologin m input).invoked .checkAutologin
  | .showLogin => (handleShowLogin m).invoked .showLogin
  | .getCredentials => (handleGetCredentials m input).invoked .getCredentials
  | .selectSession => (handleSelectSession m input).invoked .selectSession
  | .authenticate => (handleAuthenticate m input).invoked .authenticate
  | .startSession => (handleStartSession m input).invoked .startSession
  | .exit => ⟨result, m, []⟩

/-- The loop condition `ctx->running && ctx->state != STATE_EXIT`. -/
def Machine.Active (m : Machine) : Prop := m.ctx.running = true ∧ m.ctx.state ≠ .exit

instance (m : Machine) : Decidable m.Active := inferInstanceAs (Decidable (_ ∧ _))

/-- A finished or interrupted run of the loop: the code `controller_run`
returns, if the loop stopped, the process after it and what it did. -/
structure Run where
  result : Option Status
  machine : Machine
  events : List Event

/-- The loop of `controller_run` over the answers of successive iterations,
entered with `result` as the last handler's code. -/
def controllerRun (m : Machine) (result : Status) : List Input → Run
  | [] => if m.Active then ⟨none, m, []⟩ else ⟨some result, m, []⟩
  | input :: rest =>
    if m.Active then
      let step := controllerStep result m input
      if step.result ≠ .success ∧ step.machine.ctx.state = .exit then
        ⟨some step.result, step.machine, step.events⟩
      else
        let after := controllerRun step.machine step.result rest
        ⟨after.result, after.machine, step.events ++ after.events⟩
    else
      ⟨some result, m, []⟩

/-- The manager entering `controller_run` straight after `controller_init`,
with the process state and credentials main left it. -/
def Machine.initial (globals : Globals) (creds : Creds) : Machine := ⟨controllerInit, globals, creds⟩

/-- The machines and traces a run of the loop from `start` passes through. -/
inductive Reaches (start : Machine) : Machine → List Event → Prop
  | init : Reaches start start []
  | step {m : Machine} {history : List Event} (result : Status) (input : Input) :
      Reaches start m history → m.Active →
      Reaches start (controllerStep result m input).machine
        (history ++ (controllerStep result m input).events)

/-! ## What one iteration leaves alone -/

section Frame

variable (m : Machine) (input : Input)

/-- Only the exit branch reads the previous handler's code. -/
theorem controller_step_result_irrelevant (result other : Status) (entered : m.ctx.state ≠ .exit) :
    controllerStep result m input = controllerStep other m input := by
  unfold controllerStep
  split <;> first | rfl | contradiction

/-- No handler clears `ctx->running`. -/
theorem controller_step_running (result : Status) :
    (controllerStep result m input).machine.ctx.running = m.ctx.running := by
  unfold controllerStep
  split <;> simp only [Step.invoked, handleInit, handleLoadConfig, handleCheckAutologin,
    handleShowLogin, handleGetCredentials, handleSelectSession, handleAuthenticate,
    handleStartSession, apply_ite (fun s : Step => s.machine.ctx.running)] <;> (repeat' split) <;> rfl

/-- The process credentials are the manager's throughout. -/
theorem controller_step_creds (result : Status) :
    (controllerStep result m input).machine.creds = m.creds := by
  unfold controllerStep
  split <;> simp only [Step.invoked, handleInit, handleLoadConfig, handleCheckAutologin,
    handleShowLogin, handleGetCredentials, handleSelectSession, handleAuthenticate,
    handleStartSession, apply_ite (fun s : Step => s.machine.creds)] <;> (repeat' split) <;> rfl

end Frame

/-! ## Runs and reachable machines -/

/-- Every run passes through reachable machines only.

Proof: by induction on the inputs; each iteration the run makes is a `step`
of `Reaches` from an active machine. -/
theorem controller_run_reaches {start m : Machine} {history : List Event}
    (reached : Reaches start m history) (result : Status) (inputs : List Input) :
    Reaches start (controllerRun m result inputs).machine
      (history ++ (controllerRun m result inputs).events) := by
  induction inputs generalizing m result history with
  | nil =>
    unfold controllerRun
    split_ifs <;> simpa using reached
  | cons input rest inductionHypothesis =>
    unfold controllerRun
    dsimp only
    split_ifs with active stopped
    · exact Reaches.step result input reached active
    · simpa only [List.append_assoc] using
        inductionHypothesis (Reaches.step result input reached active) _
    · simpa using reached

/-- A reachable machine is running when its start was. -/
theorem reaches_running {start m : Machine} {history : List Event} (reached : Reaches start m history)
    (running : start.ctx.running = true) : m.ctx.running = true := by
  induction reached with
  | init => exact running
  | step result input _ _ inductionHypothesis =>
    rw [controller_step_running]
    exact inductionHypothesis

end Kia
