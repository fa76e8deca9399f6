import Kia.LockoutWindow

/-!
# The manager process

`main.c` and the parts of `logger.c` and `controller.c` it drives around the
loop: the preamble that opens the log file, loads the configuration and
reopens the log file as the configuration says, the loop, and the clean-up.

Two things the process carries across the loop matter here. The descriptors
open when the loop starts are inherited by every launched session: the log
file stays open for the whole loop and no descriptor is opened with
close-on-exec, while the VT-lock descriptor is closed at the end of every
attempt. And `signal_handler` sets `g_shutdown_requested`, which nothing in
the loop reads: a run with the flag set is the run without it.
-/

namespace Kia

/-- `DEFAULT_CONFIG_PATH`. -/
def defaultConfigPath : String := "/etc/kia/config"

/-- `logger_init(path, enabled)`: a log file is opened for appending only when
logging is enabled; `opened` is the outcome of `fopen`, whose `NULL` is stored
in `log_file` and disables logging. A stream opened before is not closed. -/
def loggerInit (globals : Globals) (enabled opened : Bool) : Status × Globals :=
  if ¬enabled then
    (.success, { globals with loggingEnabled := false })
  else if opened then
    (.success, { globals with files := .logFile :: globals.files, logFile := true, loggingEnabled := true })
  else
    (.errorSystem, { globals with logFile := false, loggingEnabled := false })

/-- `logger_close`. -/
def loggerClose (globals : Globals) : Globals :=
  if globals.logFile then
    { globals with files := globals.files.erase .logFile, logFile := false, loggingEnabled := false }
  else
    { globals with loggingEnabled := false }

/-- `controller_cleanup`: clears the secret, frees the catalogue, releases the
VT lock and closes the log file. -/
def controllerCleanup (m : Machine) (unlock : Option Nat) : Machine × List Event :=
  (⟨{ m.ctx with password := Buffer.zero 256, sessions := [] },
      loggerClose (authCleanup m.globals unlock).1, m.creds⟩,
    (authCleanup m.globals unlock).2)

/-- The clean-up clears every byte of the secret. -/
theorem controller_cleanup_clears (m : Machine) (unlock : Option Nat) :
    (controllerCleanup m unlock).1.ctx.password.Zeroed :=
  Buffer.zero_zeroed 256

/-- `signal_handler`. -/
def signalHandler (globals : Globals) : Globals := { globals with shutdownRequested := true }

/-- The machine with `g_shutdown_requested` set to `requested`. -/
def Machine.withShutdown (m : Machine) (requested : Bool) : Machine :=
  { m with globals := { m.globals with shutdownRequested := requested } }

/-! ## The loop does not read the shutdown flag -/

@[simp] theorem Machine.withShutdown_ctx (m : Machine) (requested : Bool) :
    (m.withShutdown requested).ctx = m.ctx := rfl

@[simp] theorem Machine.withShutdown_active (m : Machine) (requested : Bool) :
    (m.withShutdown requested).Active ↔ m.Active := Iff.rfl

@[simp] theorem Machine.withShutdown_globals (m : Machine) (requested : Bool) :
    (m.withShutdown requested).globals = { m.globals with shutdownRequested := requested } := rfl

@[simp] theorem Machine.withShutdown_creds (m : Machine) (requested : Bool) :
    (m.withShutdown requested).creds = m.creds := rfl

theorem tty_lock_shutdown (globals : Globals) (outcome : TtyOutcome) (requested : Bool) :
    ttyLock { globals with shutdownRequested := requested } outcome =
      ({ (ttyLock globals outcome).1 with shutdownRequested := requested }, (ttyLock globals outcome).2) := by
  cases outcome <;> rfl

theorem tty_unlock_shutdown (globals : Globals) (unlock : Option Nat) (requested : Bool) :
    ttyUnlock { globals with shutdownRequested := requested } unlock =
      ({ (ttyUnlock globals unlock).1 with shutdownRequested := requested },
        (ttyUnlock globals unlock).2) := by
  unfold ttyUnlock
  split_ifs <;> rfl

theorem pam_stage_shutdown (user : CStr) (config : KiaConfig) (state : AuthState) (globals : Globals)
    (world : AuthWorld) (requested : Bool) :
    pamStage user config state { globals with shutdownRequested := requested } world =
      { pamStage user config state globals world with
        globals := { (pamStage user config state globals world).globals with
          shutdownRequested := requested } } := by
  unfold pamStage
  simp only [tty_unlock_shutdown]
  split_ifs <;> rfl

theorem auth_authenticate_shutdown (username password : Option CStr) (config : Option KiaConfig)
    (state : Option AuthState) (globals : Globals) (world : AuthWorld) (requested : Bool) :
    authAuthenticate username password config state { globals with shutdownRequested := requested } world =
      { authAuthenticate username password config state globals world with
        globals := { (authAuthenticate username password config state globals world).globals with
          shutdownRequested := requested } } := by
  unfold authAuthenticate
  split
  · dsimp only
    split_ifs
    · rfl
    · simp only [tty_lock_shutdown, pam_stage_shutdown]
  · rfl

/-- No handler reads the flag: each does the same with it set or not. -/
theorem handle_init_shutdown (m : Machine) (input : Input) (requested : Bool) :
    handleInit (m.withShutdown requested) input =
      { handleInit m input with machine := (handleInit m input).machine.withShutdown requested } := by
  simp only [handleInit, apply_ite (fun s : Step => { s with machine := s.machine.withShutdown requested })]
  rfl

theorem handle_load_config_shutdown (m : Machine) (input : Input) (requested : Bool) :
    handleLoadConfig (m.withShutdown requested) input =
      { handleLoadConfig m input with machine := (handleLoadConfig m input).machine.withShutdown requested } := by
  simp only [handleLoadConfig, apply_ite (fun s : Step => { s with machine := s.machine.withShutdown requested })]
  rfl

theorem handle_check_autologin_shutdown (m : Machine) (input : Input) (requested : Bool) :
    handleCheckAutologin (m.withShutdown requested) input =
      { handleCheckAutologin m input with
        machine := (handleCheckAutologin m input).machine.withShutdown requested } := by
  simp only [handleCheckAutologin, Machine.withShutdown_ctx,
    apply_ite (fun s : Step => { s with machine := s.machine.withShutdown requested })]
  -- the branches agree but for the match on the default session's entry
  refine ite_congr rfl (fun _ => ite_congr rfl (fun _ => rfl) fun _ => ite_congr rfl (fun _ => rfl) fun _ => ?_)
    fun _ => rfl
  split <;> rfl

theorem handle_get_credentials_shutdown (m : Machine) (input : Input) (requested : Bool) :
    handleGetCredentials (m.withShutdown requested) input =
      { handleGetCredentials m input with
        machine := (handleGetCredentials m input).machine.withShutdown requested } := by
  simp only [handleGetCredentials, apply_ite (fun s : Step => { s with machine := s.machine.withShutdown requested })]
  rfl

theorem handle_select_session_shutdown (m : Machine) (input : Input) (requested : Bool) :
    handleSelectSession (m.withShutdown requested) input =
      { handleSelectSession m input with
        machine := (handleSelectSession m input).machine.withShutdown requested } := by
  simp only [handleSelectSession, Machine.withShutdown_ctx]
  split <;> rfl

theorem handle_authenticate_shutdown (m : Machine) (input : Input) (requested : Bool) :
    handleAuthenticate (m.withShutdown requested) input =
      { handleAuthenticate m input with
        machine := (handleAuthenticate m input).machine.withShutdown requested } := by
  simp only [handleAuthenticate, Machine.withShutdown_ctx, Machine.withShutdown_globals, auth_authenticate_shutdown,
    apply_ite (fun s : Step => { s with machine := s.machine.withShutdown requested })]
  rfl

theorem handle_start_session_shutdown (m : Machine) (input : Input) (requested : Bool) :
    handleStartSession (m.withShutdown requested) input =
      { handleStartSession m input with
        machine := (handleStartSession m input).machine.withShutdown requested } := by
  simp only [handleStartSession, Machine.withShutdown_ctx, Machine.withShutdown_globals,
    Machine.withShutdown_creds]
  split
  · rfl
  · simp only [apply_ite (fun s : Step => { s with machine := s.machine.withShutdown requested })]
    rfl

/-- An iteration does the same whether the shutdown flag is set or not, and
leaves it as it found it. -/
theorem controller_step_shutdown (m : Machine) (input : Input) (result : Status) (requested : Bool) :
    controllerStep result (m.withShutdown requested) input =
      { controllerStep result m input with
        machine := (controllerStep result m input).machine.withShutdown requested } := by
  cases state : m.ctx.state <;>
    simp only [controllerStep, state, Machine.withShutdown_ctx, handle_init_shutdown,
      handle_load_config_shutdown, handle_check_autologin_shutdown, handle_get_credentials_shutdown,
      handle_select_session_shutdown, handle_authenticate_shutdown, handle_start_session_shutdown] <;>
    rfl

/-- A run of the loop does the same whether the shutdown flag is set or not:
the flag never stops it. -/
theorem controller_run_shutdown (m : Machine) (result : Status) (inputs : List Input)
    (requested : Bool) :
    controllerRun (m.withShutdown requested) result inputs =
      { controllerRun m result inputs with
        machine := (controllerRun m result inputs).machine.withShutdown requested } := by
  induction inputs generalizing m result with
  | nil => by_cases running : m.Active <;> simp [controllerRun, running]
  | cons input rest inductionHypothesis =>
    unfold controllerRun
    simp only [Machine.withShutdown_active, controller_step_shutdown, Machine.withShutdown_ctx]
    split_ifs <;> simp [inductionHypothesis]

/-! ## The descriptors a session inherits -/

/-- Every `exec` of a launch inherits the parent's open descriptors. -/
theorem session_start_inherited {session : SessionInfo} {username : CStr} {parent : Creds}
    {files : List FileKind} {world : LaunchWorld} {file : String} {ids : Ids} {groups : List Nat}
    {inherited : List FileKind}
    (member : Event.exec file ids groups inherited ∈ (sessionStart session username parent files world).2) :
    inherited = files := by
  rcases session_start_cases session username parent files world with
    ⟨entry, home, pid, before, -, -, -, quiet, launched⟩ | ⟨-, quiet⟩
  · rw [launched] at member
    simp only [List.mem_append] at member
    rcases member with (member | member) | member
    · exact absurd member (quiet _ _ _ _)
    · exact (child_run_exec session entry home parent files world.child member).2.2.1
    · exact absurd member (wait_child_no_exec world _ _ _ _ _)
  · exact absurd member (quiet _ _ _ _)

/-- An iteration entered with no VT lock held leaves the process state as it
found it. -/
theorem controller_step_globals (m : Machine) (input : Input) (result : Status)
    (unlocked : m.globals.ttyFd = false) :
    (controllerStep result m input).machine.globals = m.globals := by
  have attempted := fun username password config state =>
    auth_authenticate_globals m.globals username password config state input.auth unlocked
  cases state : m.ctx.state <;>
    simp only [controllerStep, state, Step.invoked, handleInit, handleLoadConfig,
      handleCheckAutologin, handleShowLogin, handleGetCredentials, handleSelectSession,
      handleAuthenticate, handleStartSession, apply_ite (fun s : Step => s.machine.globals),
      Machine.withCtx_globals, ite_self, attempted]
  all_goals (repeat' split) <;> simp only [Machine.withCtx_globals, apply_ite, ite_self]

/-- Every `exec` an iteration makes inherits the descriptors open when it
started. -/
theorem controller_step_inherited (m : Machine) (input : Input) (result : Status) {file : String}
    {ids : Ids} {groups : List Nat} {inherited : List FileKind}
    (member : Event.exec file ids groups inherited ∈ (controllerStep result m input).events) :
    inherited = m.globals.files := by
  have discovered := Event.not_mem_of_all input.discovery.logged (.exec file ids groups inherited) rfl
  have known := Event.not_mem_of_all (user_exists_logs m.ctx.config.autologinUser input.autologinLookup)
    (.exec file ids groups inherited) rfl
  have proposed := Event.not_mem_of_all
    (find_default_session_logs m.ctx.sessions m.ctx.config.defaultSession) (.exec file ids groups inherited) rfl
  have attempted := Event.not_mem_of_all (auth_authenticate_attempt (some m.ctx.username.str)
    (some m.ctx.password.str) (some m.ctx.config) (some (authIsLockedOut m.ctx.authState input.clock).2)
    m.globals input.auth) (.exec file ids groups inherited) rfl
  cases state : m.ctx.state <;>
    simp only [controllerStep, state, Step.invoked, handleInit, handleLoadConfig,
      handleCheckAutologin, handleShowLogin, handleGetCredentials, handleSelectSession,
      handleAuthenticate, handleStartSession, Machine.withCtx,
      apply_ite (fun s : Step => Event.exec file ids groups inherited ∈ s.events),
      List.mem_cons, List.mem_append, List.mem_singleton, List.mem_ite_nil_right, reduceCtorEq,
      false_or, or_false, and_false, List.not_mem_nil, discovered, known, proposed, attempted,
      authInit, ite_self, if_false_left, if_false_right] at member
  all_goals
    split at member <;>
      simp only [apply_ite (fun s : Step => Event.exec file ids groups inherited ∈ s.events),
        List.mem_cons, List.mem_append, List.mem_singleton, reduceCtorEq, false_or, or_false, and_false,
        List.not_mem_nil, known, proposed, ite_self] at member
  exact session_start_inherited member

/-- A run of the loop entered with no VT lock held leaves the process state as
it found it, and every `exec` it makes inherits the descriptors open when it
started. -/
theorem controller_run_globals (m : Machine) (result : Status) (inputs : List Input)
    (unlocked : m.globals.ttyFd = false) :
    (controllerRun m result inputs).machine.globals = m.globals ∧
      ∀ file ids groups inherited,
        Event.exec file ids groups inherited ∈ (controllerRun m result inputs).events →
          inherited = m.globals.files := by
  induction inputs generalizing m result with
  | nil => by_cases running : m.Active <;> simp [controllerRun, running]
  | cons input rest inductionHypothesis =>
    have kept := controller_step_globals m input result unlocked
    obtain ⟨after, inheritedAfter⟩ := inductionHypothesis (controllerStep result m input).machine
      (controllerStep result m input).result (kept ▸ unlocked)
    unfold controllerRun
    dsimp only
    split_ifs
    · exact ⟨kept, fun _ _ _ _ member => controller_step_inherited m input result member⟩
    · refine ⟨after.trans kept, fun file ids groups inherited member => ?_⟩
      rcases List.mem_append.mp member with here | later
      · exact controller_step_inherited m input result here
      · exact kept ▸ inheritedAfter file ids groups inherited later
    · simp

/-! ## main -/

/-- The loop of `controller_run` in a process that receives a SIGTERM or
SIGINT after `delay` iterations, if the loop has not stopped by then. -/
def signalledRun (m : Machine) (result : Status) (inputs : List Input) : Option Nat → Run
  | none => controllerRun m result inputs
  | some delay =>
    let before := controllerRun m result (inputs.take delay)
    match before.result with
    | some _ => before
    | none =>
      let after := controllerRun { before.machine with globals := signalHandler before.machine.globals }
        result (inputs.drop delay)
      ⟨after.result, after.machine, before.events ++ .signal :: after.events⟩

/-- What main's collaborators answer around the loop. -/
structure Startup where
  /-- The command-line arguments after the program name. -/
  arguments : List String
  /-- Both `sigaction` calls succeed. -/
  handlers : Bool
  /-- `fopen` of the log file succeeds in the first and in the second `logger_init`. -/
  firstOpen : Bool
  secondOpen : Bool
  /-- What `config_load` leaves in `app_context.config`, and its code. -/
  loaded : KiaConfig
  loadResult : Status
  /-- The errno of a failed `VT_UNLOCKSWITCH` in `auth_cleanup`, if it fails. -/
  unlock : Option Nat

/-- `parse_arguments`: only the first argument is looked at; `1` to exit after
`--version` or `--help`, `-1` after an unknown option, `0` to run. -/
def parseArguments : List String → Int
  | [] => 0
  | argument :: _ => if argument = "--version" ∨ argument = "--help" then 1 else -1

/-- The process state entering `controller_run`: the log file is opened, closed
and reopened as the loaded configuration says. -/
def loopGlobals (startup : Startup) : Globals :=
  (loggerInit (loggerClose (loggerInit Globals.initial true startup.firstOpen).2)
    startup.loaded.enableLogs startup.secondOpen).2

/-- `main` for a process with credentials `creds`, with the loop's iterations
answered by `inputs` and a signal after `signal` iterations, if any: the exit
status, once the loop stops, and what the process did. -/
def kiaMain (creds : Creds) (startup : Startup) (inputs : List Input) (signal : Option Nat) :
    Option Int × List Event :=
  if parseArguments startup.arguments ≠ 0 then
    (some (if 0 < parseArguments startup.arguments then 0 else 1), [])
  else if creds.ids.euid ≠ 0 then
    (some 1, [])
  else if startup.handlers = false then
    (some 1, [])
  else
    let preamble := [Event.log .info "Kia display manager v%s starting" [.text kiaVersion]] ++
      (if startup.loadResult ≠ .success then
        [Event.log .warn "Failed to load config from %s, using defaults" [.text defaultConfigPath]]
      else []) ++
      [.log .info "Configuration loaded, logging %s"
        [.text (if startup.loaded.enableLogs then "enabled" else "disabled")],
        .log .info "Starting main controller loop" []]
    let run := signalledRun ⟨{ controllerInit with config := startup.loaded }, loopGlobals startup, creds⟩
      .success inputs signal
    match run.result with
    | none => (none, preamble ++ run.events)
    | some result =>
      let reported := if result ≠ .success then
          [Event.log .error "Controller exited with error: %d" [.int result.code]]
        else []
      let noticed := if run.machine.globals.shutdownRequested then
          [Event.log .info "Shutdown requested by signal" []]
        else []
      (some (if result = .success then 0 else 1),
        preamble ++ run.events ++ reported ++ noticed ++ (controllerCleanup run.machine startup.unlock).2 ++
          [.log .info "Kia display manager shutting down" []])

/-- A signalled run entered with no VT lock held makes every `exec` inherit the
descriptors open when it started. -/
theorem signalled_run_inherited (m : Machine) (result : Status) (inputs : List Input)
    (signal : Option Nat) (unlocked : m.globals.ttyFd = false) (file : String) (ids : Ids)
    (groups : List Nat) (inherited : List FileKind)
    (member : Event.exec file ids groups inherited ∈ (signalledRun m result inputs signal).events) :
    inherited = m.globals.files := by
  cases signal with
  | none => exact (controller_run_globals m result inputs unlocked).2 _ _ _ _ member
  | some delay =>
    obtain ⟨kept, inheritedBefore⟩ := controller_run_globals m result (inputs.take delay) unlocked
    simp only [signalledRun] at member
    split at member
    · exact inheritedBefore _ _ _ _ member
    · have signalled : ({ (controllerRun m result (inputs.take delay)).machine with
          globals := signalHandler (controllerRun m result (inputs.take delay)).machine.globals } :
          Machine).globals.ttyFd = false := by simp [signalHandler, kept, unlocked]
      simp only [List.mem_append, List.mem_cons, reduceCtorEq, false_or] at member
      rcases member with before | after
      · exact inheritedBefore _ _ _ _ before
      · simpa [signalHandler, kept] using (controller_run_globals _ result _ signalled).2 _ _ _ _ after

/-- The descriptors open when the loop starts: the log file exactly when the
loaded configuration enables logging and its second open succeeds. -/
theorem loop_globals_files (startup : Startup) :
    (loopGlobals startup).files =
        (if startup.loaded.enableLogs && startup.secondOpen then [.logFile] else []) ∧
      (loopGlobals startup).ttyFd = false := by
  cases first : startup.firstOpen <;> cases enabled : startup.loaded.enableLogs <;>
    cases opened : startup.secondOpen <;>
    simp [loopGlobals, loggerInit, loggerClose, Globals.initial, first, enabled, opened]

theorem controller_cleanup_logs (m : Machine) (unlock : Option Nat) :
    (controllerCleanup m unlock).2.all Event.isLog := by
  unfold controllerCleanup authCleanup ttyUnlock
  split_ifs <;> (try split) <;> rfl

/-- Every `exec` of main is one of its loop. -/
theorem kia_main_exec {creds : Creds} {startup : Startup} {inputs : List Input} {signal : Option Nat}
    {file : String} {ids : Ids} {groups : List Nat} {inherited : List FileKind}
    (member : Event.exec file ids groups inherited ∈ (kiaMain creds startup inputs signal).2) :
    Event.exec file ids groups inherited ∈ (signalledRun ⟨{ controllerInit with config := startup.loaded },
      loopGlobals startup, creds⟩ .success inputs signal).events := by
  have cleaned := fun m => Event.not_mem_of_all (controller_cleanup_logs m startup.unlock)
    (.exec file ids groups inherited) rfl
  unfold kiaMain at member
  by_cases arguments : parseArguments startup.arguments ≠ 0
  · rw [if_pos arguments] at member
    exact absurd member (List.not_mem_nil _)
  by_cases root : creds.ids.euid ≠ 0
  · rw [if_neg arguments, if_pos root] at member
    exact absurd member (List.not_mem_nil _)
  by_cases handlers : startup.handlers = false
  · rw [if_neg arguments, if_neg root, if_pos handlers] at member
    exact absurd member (List.not_mem_nil _)
  rw [if_neg arguments, if_neg root, if_neg handlers] at member
  generalize signalledRun ⟨{ controllerInit with config := startup.loaded }, loopGlobals startup, creds⟩
    .success inputs signal = run at member ⊢
  rcases run with ⟨_ | result, machine, events⟩ <;> dsimp only at member <;>
    simpa only [List.mem_append, List.mem_cons, List.mem_singleton, List.mem_ite_nil_right, reduceCtorEq,
      and_false, false_or, or_false, List.not_mem_nil, cleaned] using member

/-- Every session main launches inherits the log file exactly when the loaded
configuration enables logging and the log file opened, and no other descriptor
the manager opened: the VT-lock descriptor of an attempt is closed before the
attempt returns, and nothing is opened with close-on-exec.

Proof: the loop leaves the process state as main left it
(`controller_run_globals`), so every `exec` inherits the descriptors open when
the loop started (`loop_globals_files`). -/
theorem session_inherits_log_file (creds : Creds) (startup : Startup) (inputs : List Input)
    (signal : Option Nat) (file : String) (ids : Ids) (groups : List Nat) (inherited : List FileKind)
    (member : Event.exec file ids groups inherited ∈ (kiaMain creds startup inputs signal).2) :
    inherited = if startup.loaded.enableLogs && startup.secondOpen then [.logFile] else [] := by
  obtain ⟨files, unlocked⟩ := loop_globals_files startup
  rw [← files]
  exact signalled_run_inherited _ .success inputs signal unlocked file ids groups inherited
    (kia_main_exec member)

/-- A root manager run without arguments: the handlers install, both opens of
the log file succeed and `autologinConfig` loads. -/
def rootStartup : Startup := ⟨[], true, true, true, autologinConfig, .success, none⟩

theorem root_autologin_execs :
    Event.exec "/bin/sh" ⟨1000, 1000, 1000, 1000⟩ [0] [.logFile] ∈
      (kiaMain rootCreds rootStartup (List.replicate 4 autologinInput) none).2 := by
  decide

/-- The session of the autologin run starts with the log file open. -/
theorem log_file_reaches_session :
    Event.exec "/bin/sh" ⟨1000, 1000, 1000, 1000⟩ [0] [.logFile] ∈
      (kiaMain rootCreds rootStartup (List.replicate 4 autologinInput) none).2 :=
  root_autologin_execs

/-- The autologin run's session inherits what the configuration says. -/
theorem autologin_session_inherits :
    Event.exec "/bin/sh" ⟨1000, 1000, 1000, 1000⟩ [0] [.logFile] ∈
        (kiaMain rootCreds rootStartup (List.replicate 4 autologinInput) none).2 ∧
      [FileKind.logFile] =
        if rootStartup.loaded.enableLogs && rootStartup.secondOpen then [.logFile] else [] :=
  ⟨root_autologin_execs, session_inherits_log_file rootCreds rootStartup _ none _ _ _ _
    root_autologin_execs⟩

/-- A SIGTERM after the first iteration of the autologin run: the request is
recorded, and the loop still goes on to the configuration and the launch of
the session; main only notices the request once the loop has returned. -/
theorem shutdown_request_ignored :
    Event.handler .loadConfig ∈
        (kiaMain rootCreds rootStartup (List.replicate 4 autologinInput) (some 1)).2.dropWhile
          (· != .signal) ∧
      Event.sessionStart waylandSession ⟨[117], by decide⟩ ∈
        (kiaMain rootCreds rootStartup (List.replicate 4 autologinInput) (some 1)).2.dropWhile
          (· != .signal) ∧
      Event.log .info "Shutdown requested by signal" [] ∈
        (kiaMain rootCreds rootStartup (List.replicate 4 autologinInput) (some 1)).2 := by
  decide

end Kia
