import Kia.Controller

/-!
# How the loop ends

Only two kinds of iteration leave `STATE_EXIT`: a fatal failure of
`handle_init` or `handle_load_config`, and a successful launch by
`handle_start_session`. The first returns a nonzero code, the second
`KIA_SUCCESS`. A stopped loop stopped at one of its own iterations and returns
its code (`controller_run_stopped_at`), and conversely an iteration of either
kind makes the loop return its code, whatever inputs follow
(`controller_run_exit_after`). Every other failure (`Refused`), whatever code
its handler returns, moves back to `STATE_SHOW_LOGIN` and the loop goes on.

The fatal failure of `STATE_INIT` rests on `tui_init` seeing `initscr` return
`NULL`, which ncurses never does: it exits the process instead. The branch is
modelled as the source writes it, and no result here needs it to be taken.
-/

namespace Kia

/-- The moves the handlers make: along the login path, back to the login
screen, or out. -/
def Moves : AppState → AppState → Prop
  | .init, next => next = .loadConfig ∨ next = .exit
  | .loadConfig, next => next = .checkAutologin ∨ next = .exit
  | .checkAutologin, next => next = .showLogin ∨ next = .startSession
  | .showLogin, next => next = .getCredentials
  | .getCredentials, next => next = .selectSession ∨ next = .showLogin
  | .selectSession, next => next = .authenticate ∨ next = .showLogin
  | .authenticate, next => next = .startSession ∨ next = .showLogin
  | .startSession, next => next = .exit ∨ next = .showLogin
  | .exit, next => next = .exit

/-- A fatal failure: `auth_init` or `tui_init` in `STATE_INIT`, or a discovery
that fails or finds nothing in `STATE_LOAD_CONFIG`. -/
def Fatal (m : Machine) (input : Input) : Prop :=
  (m.ctx.state = .init ∧ (authInit.1 ≠ .success ∨ tuiInit input.tuiInit ≠ .success)) ∨
    (m.ctx.state = .loadConfig ∧
      (input.discovery.result ≠ .success ∨ input.discovery.sessions = []))

/-- A launch of the selected session that `session_start` reports successful. -/
def Launched (m : Machine) (input : Input) : Prop :=
  m.ctx.state = .startSession ∧ ∃ session,
    selectedEntry m.ctx.sessions m.ctx.selectedSession = some session ∧
      (sessionStart session m.ctx.username.str m.creds m.globals.files input.launch).1 = .success

/-- A failure the handlers recover from: an autologin that cannot go ahead, a
failed credential read, an empty or over-long name or an empty secret, a
selection out of range (a cancelled one included), a lockout, a rejected
attempt, and a launch that cannot be made or fails. -/
def Refused (m : Machine) (input : Input) : Prop :=
  (m.ctx.state = .checkAutologin ∧ m.ctx.config.autologinEnabled = true ∧ m.ctx.config.autologinUser.bytes ≠ [] ∧
      (256 ≤ m.ctx.config.autologinUser.bytes.length ∨
        (userExists m.ctx.config.autologinUser input.autologinLookup).1 = false ∨
        selectedEntry m.ctx.sessions (findDefaultSession m.ctx.sessions m.ctx.config.defaultSession).1 = none)) ∨
    (m.ctx.state = .getCredentials ∧
      (input.credentials.result ≠ .success ∨ input.credentials.username.str.bytes = [] ∨
        255 < input.credentials.username.str.bytes.length ∨ input.credentials.password.str.bytes = [])) ∨
    (m.ctx.state = .selectSession ∧ selectedEntry m.ctx.sessions input.selection = none) ∨
    (m.ctx.state = .authenticate ∧
      ((authIsLockedOut m.ctx.authState input.clock).1 = true ∨
        (authAuthenticate (some m.ctx.username.str) (some m.ctx.password.str) (some m.ctx.config)
          (some (authIsLockedOut m.ctx.authState input.clock).2) m.globals input.auth).result ≠ .success)) ∨
    (m.ctx.state = .startSession ∧ ∀ session, selectedEntry m.ctx.sessions m.ctx.selectedSession = some session →
      (sessionStart session m.ctx.username.str m.creds m.globals.files input.launch).1 ≠ .success)

section Step

variable (m : Machine) (input : Input)

theorem controller_step_moves (result : Status) :
    Moves m.ctx.state (controllerStep result m input).machine.ctx.state := by
  unfold controllerStep
  split <;> rename_i state <;> simp only [Step.invoked, handleInit, handleLoadConfig, handleCheckAutologin,
    handleShowLogin, handleGetCredentials, handleSelectSession, handleAuthenticate,
    handleStartSession, Machine.withCtx, state, apply_ite (fun s : Step => s.machine.ctx.state)] <;>
    (repeat' split) <;> simp [Moves]

theorem controller_step_exit_iff (entered : m.ctx.state ≠ .exit) :
    (controllerStep .success m input).machine.ctx.state = .exit ↔ Fatal m input ∨ Launched m input := by
  unfold controllerStep Fatal Launched
  split <;> rename_i state <;> simp only [Step.invoked, handleInit, handleLoadConfig, handleCheckAutologin,
    handleShowLogin, handleGetCredentials, handleSelectSession, handleAuthenticate,
    handleStartSession, Machine.withCtx, state, apply_ite (fun s : Step => s.machine.ctx.state)] <;>
    (repeat' split) <;> simp_all

theorem fatal_step_result (fatal : Fatal m input) : (controllerStep .success m input).result ≠ .success := by
  rcases fatal with ⟨state, failed⟩ | ⟨state, failed⟩
  · simp only [controllerStep, state, Step.invoked, handleInit]
    split_ifs <;> simp_all
  · simp only [controllerStep, state, Step.invoked, handleLoadConfig]
    split_ifs <;> simp_all

theorem launched_step_result (launched : Launched m input) :
    (controllerStep .success m input).result = .success := by
  obtain ⟨state, session, selected, started⟩ := launched
  simp [controllerStep, state, Step.invoked, handleStartSession, selected, started]

/-- Every refusal moves to the login screen, whatever code its handler returns. -/
theorem refused_step_show_login (result : Status) (refused : Refused m input) :
    (controllerStep result m input).machine.ctx.state = .showLogin := by
  rcases refused with ⟨state, enabled, named, fallback⟩ | ⟨state, failed⟩ | ⟨state, invalid⟩ | ⟨state, failed⟩ |
    ⟨state, failed⟩
  · simp only [controllerStep, state, Step.invoked, handleCheckAutologin, if_pos (And.intro enabled named)]
    split_ifs with long unknown
    · rfl
    · rfl
    · rcases fallback with long' | unknown' | missing
      · exact absurd (.inr long') long
      · exact absurd unknown' unknown
      · simp only [missing, Machine.withCtx_ctx]
  · simp only [controllerStep, state, Step.invoked, handleGetCredentials, Machine.withCtx_ctx,
      apply_ite (fun s : Step => s.machine.ctx.state)]
    rcases failed with failed | failed | failed | failed <;>
      simp only [failed, ne_eq, not_false_eq_true, if_true, ite_self]
  · simp only [controllerStep, state, Step.invoked, handleSelectSession, invalid, Machine.withCtx_ctx]
  · simp only [controllerStep, state, Step.invoked, handleAuthenticate, Machine.withCtx_ctx,
      apply_ite (fun s : Step => s.machine.ctx.state)]
    rcases failed with failed | failed <;> simp only [failed, ne_eq, if_true, if_false, ite_self]
  · simp only [controllerStep, state, Step.invoked, handleStartSession]
    split
    · rfl
    · rename_i session selected
      simp [failed session selected]

theorem controller_step_failure (notFatal : ¬Fatal m input)
    (failed : (controllerStep .success m input).result ≠ .success) :
    (controllerStep .success m input).machine.ctx.state = .showLogin := by
  unfold Fatal at notFatal
  cases state : m.ctx.state <;> simp only [controllerStep, Step.invoked, handleInit, handleLoadConfig,
    handleCheckAutologin, handleShowLogin, handleGetCredentials, handleSelectSession,
    handleAuthenticate, handleStartSession, Machine.withCtx, state,
    apply_ite (fun s : Step => s.machine.ctx.state), apply_ite Step.result] at failed notFatal ⊢ <;>
    (repeat' split at failed) <;> simp_all

end Step

/-! ## The loop's code -/

section Run

variable {m : Machine} {result : Status}

/-- A loop that is not running stops on the spot with the code it entered with. -/
theorem controller_run_idle (idle : ¬m.Active) (inputs : List Input) :
    controllerRun m result inputs = ⟨some result, m, []⟩ := by
  cases inputs <;> simp only [controllerRun, if_neg idle]

/-- A run out of inputs on a running machine waits. -/
theorem controller_run_waiting (active : m.Active) : controllerRun m result [] = ⟨none, m, []⟩ := by
  rw [controllerRun, if_pos active]

/-- An iteration that does not leave `STATE_EXIT` hands the rest of the run to
the machine after it. -/
theorem controller_run_going {input : Input} (rest : List Input) (active : m.Active)
    (going : (controllerStep result m input).machine.ctx.state ≠ .exit) :
    controllerRun m result (input :: rest) =
      ⟨(controllerRun (controllerStep result m input).machine (controllerStep result m input).result rest).result,
        (controllerRun (controllerStep result m input).machine (controllerStep result m input).result rest).machine,
        (controllerStep result m input).events ++
          (controllerRun (controllerStep result m input).machine (controllerStep result m input).result rest).events⟩ := by
  rw [controllerRun, if_pos active, if_neg fun stopped => going stopped.2]

/-- An iteration that leaves `STATE_EXIT` ends the loop with its code and its
machine, whatever inputs follow. -/
theorem controller_run_exit_step {input : Input} (active : m.Active)
    (exited : (controllerStep .success m input).machine.ctx.state = .exit) (rest : List Input) :
    (controllerRun m result (input :: rest)).result = some (controllerStep .success m input).result ∧
      (controllerRun m result (input :: rest)).machine = (controllerStep .success m input).machine := by
  have idle : ¬(controllerStep .success m input).machine.Active := fun running => running.2 exited
  rw [controllerRun, if_pos active, controller_step_result_irrelevant m input result .success active.2]
  dsimp only
  split_ifs
  · exact ⟨rfl, rfl⟩
  · rw [controller_run_idle idle]
    exact ⟨rfl, rfl⟩

/-- A loop that has not stopped is still running. -/
theorem controller_run_waiting_active {inputs : List Input} (waiting : (controllerRun m result inputs).result = none) :
    (controllerRun m result inputs).machine.Active := by
  induction inputs generalizing m result with
  | nil =>
    unfold controllerRun at waiting ⊢
    split_ifs at waiting ⊢ with active
    exact active
  | cons input rest inductionHypothesis =>
    unfold controllerRun at waiting ⊢
    dsimp only at waiting ⊢
    split_ifs at waiting ⊢
    exact inductionHypothesis waiting

/-- The code a running loop enters with does not matter. -/
theorem controller_run_result_irrelevant {inputs : List Input} (active : m.Active) (other : Status) :
    controllerRun m result inputs = controllerRun m other inputs := by
  cases inputs with
  | nil => simp only [controllerRun, if_pos active]
  | cons input rest =>
    simp only [controllerRun, if_pos active, controller_step_result_irrelevant m input result other active.2]

/-- Inputs given after a loop that has not stopped continue it. -/
theorem controller_run_append (first second : List Input) (waiting : (controllerRun m result first).result = none) :
    (controllerRun m result (first ++ second)).result =
        (controllerRun (controllerRun m result first).machine .success second).result ∧
      (controllerRun m result (first ++ second)).machine =
        (controllerRun (controllerRun m result first).machine .success second).machine := by
  induction first generalizing m result with
  | nil =>
    have active := controller_run_waiting_active waiting
    have same : (controllerRun m result []).machine = m := by
      unfold controllerRun
      split_ifs <;> rfl
    rw [same] at active ⊢
    rw [List.nil_append, controller_run_result_irrelevant active .success]
    exact ⟨rfl, rfl⟩
  | cons input rest inductionHypothesis =>
    rw [List.cons_append, controllerRun, controllerRun]
    rw [controllerRun] at waiting
    dsimp only at waiting ⊢
    split_ifs at waiting ⊢ with active stopped
    exact inductionHypothesis waiting

/-- The iteration after `before` that leaves `STATE_EXIT`, a fatal failure or a
launch, makes the loop return its code, whatever inputs follow. -/
theorem controller_run_exit_after (before : List Input) {input : Input} (after : List Input)
    (waiting : (controllerRun m result before).result = none)
    (exited : (controllerStep .success (controllerRun m result before).machine input).machine.ctx.state = .exit) :
    (controllerRun m result (before ++ input :: after)).result =
      some (controllerStep .success (controllerRun m result before).machine input).result := by
  rw [(controller_run_append before _ waiting).1]
  exact (controller_run_exit_step (controller_run_waiting_active waiting) exited after).1

/-- A loop that stops from a running machine stops at one of its own
iterations: the loop is still going after the inputs before it, that iteration
leaves `STATE_EXIT`, and the loop returns its code and its machine.

Proof: by induction on the inputs. An iteration that leaves `STATE_EXIT` ends
the loop (`controller_run_exit_step`); any other hands the rest of the run to
the running machine after it (`controller_run_going`). -/
theorem controller_run_stopped_at {inputs : List Input} {code : Status} (active : m.Active)
    (finished : (controllerRun m result inputs).result = some code) :
    ∃ before input after, inputs = before ++ input :: after ∧ (controllerRun m result before).result = none ∧
      (controllerStep .success (controllerRun m result before).machine input).machine.ctx.state = .exit ∧
      (controllerStep .success (controllerRun m result before).machine input).result = code ∧
      (controllerStep .success (controllerRun m result before).machine input).machine =
        (controllerRun m result inputs).machine := by
  induction inputs generalizing m result with
  | nil => rw [controller_run_waiting active] at finished; cases finished
  | cons input rest inductionHypothesis =>
    have start : controllerRun m result [] = ⟨none, m, []⟩ := controller_run_waiting active
    by_cases exited : (controllerStep .success m input).machine.ctx.state = .exit
    · obtain ⟨returned, machine⟩ := @controller_run_exit_step m result input active exited rest
      refine ⟨[], input, rest, rfl, by rw [start], by rw [start]; exact exited, ?_, by rw [start, machine]⟩
      rw [start]
      exact Option.some.inj (returned.symm.trans finished)
    · rw [← controller_step_result_irrelevant m input result .success active.2] at exited
      have next : (controllerStep result m input).machine.Active :=
        ⟨(controller_step_running m input result).trans active.1, exited⟩
      rw [controller_run_going rest active exited] at finished ⊢
      obtain ⟨before, input', after, split, waiting, left, returned, machine⟩ := inductionHypothesis next finished
      refine ⟨input :: before, input', after, by rw [split, List.cons_append], ?_⟩
      rw [controller_run_going before active exited]
      exact ⟨waiting, left, returned, machine⟩

end Run

/-- The loop of a manager started by `controller_init` stops only in
`STATE_EXIT`, at one of its own iterations: the loop was still going after the
inputs before it, and that iteration was a fatal failure, whose nonzero code
the loop returns, or a successful launch, for which it returns `KIA_SUCCESS`.
Conversely, once the loop reaches an iteration of either kind it returns that
iteration's code, whatever inputs follow; and after an iteration that was a
refusal it is still going, on the login screen. Every iteration moves along
the login path, back to the login screen or out; only a fatal failure or a
launch moves out; every refusal, and every other iteration that fails, moves to
the login screen. -/
theorem controller_run_exit (globals : Globals) (creds : Creds) (inputs : List Input) :
    (∀ code, (controllerRun (Machine.initial globals creds) .success inputs).result = some code →
      (controllerRun (Machine.initial globals creds) .success inputs).machine.ctx.state = .exit ∧
      ∃ before input after, inputs = before ++ input :: after ∧
        (controllerRun (Machine.initial globals creds) .success before).result = none ∧
        (controllerStep .success (controllerRun (Machine.initial globals creds) .success before).machine input).result =
          code ∧
        ((Fatal (controllerRun (Machine.initial globals creds) .success before).machine input ∧ code ≠ .success) ∨
          (Launched (controllerRun (Machine.initial globals creds) .success before).machine input ∧
            code = .success))) ∧
    (∀ before input after, inputs = before ++ input :: after →
      (controllerRun (Machine.initial globals creds) .success before).result = none →
      ((Fatal (controllerRun (Machine.initial globals creds) .success before).machine input ∨
          Launched (controllerRun (Machine.initial globals creds) .success before).machine input) →
        (controllerRun (Machine.initial globals creds) .success inputs).result =
          some (controllerStep .success (controllerRun (Machine.initial globals creds) .success before).machine
            input).result) ∧
      (Refused (controllerRun (Machine.initial globals creds) .success before).machine input →
        (controllerRun (Machine.initial globals creds) .success (before ++ [input])).result = none ∧
        (controllerRun (Machine.initial globals creds) .success (before ++ [input])).machine.ctx.state =
          .showLogin)) ∧
    (∀ m input, m.ctx.state ≠ .exit →
      Moves m.ctx.state (controllerStep .success m input).machine.ctx.state ∧
      ((controllerStep .success m input).machine.ctx.state = .exit ↔ Fatal m input ∨ Launched m input) ∧
      (Refused m input → (controllerStep .success m input).machine.ctx.state = .showLogin) ∧
      (¬Fatal m input → (controllerStep .success m input).result ≠ .success →
        (controllerStep .success m input).machine.ctx.state = .showLogin)) := by
  have active : (Machine.initial globals creds).Active := ⟨rfl, by simp [Machine.initial, controllerInit]⟩
  refine ⟨fun code finished => ?_, fun before input after split waiting => ⟨fun stops => ?_, fun refused => ?_⟩,
    fun m input entered => ⟨controller_step_moves m input .success, controller_step_exit_iff m input entered,
      refused_step_show_login m input .success, controller_step_failure m input⟩⟩
  · obtain ⟨before, input, after, split, waiting, exited, returned, machine⟩ :=
      controller_run_stopped_at active finished
    have lastActive := controller_run_waiting_active waiting
    refine ⟨machine ▸ exited, before, input, after, split, waiting, returned, ?_⟩
    rcases (controller_step_exit_iff _ input lastActive.2).mp exited with fatal | launched
    · exact .inl ⟨fatal, returned ▸ fatal_step_result _ input fatal⟩
    · exact .inr ⟨launched, returned ▸ launched_step_result _ input launched⟩
  · have lastActive := controller_run_waiting_active waiting
    rw [split]
    exact controller_run_exit_after before after waiting ((controller_step_exit_iff _ input lastActive.2).mpr stops)
  · have lastActive := controller_run_waiting_active waiting
    have login := refused_step_show_login _ input .success refused
    have going : (controllerStep .success (controllerRun (Machine.initial globals creds) .success before).machine
        input).machine.ctx.state ≠ .exit := by rw [login]; decide
    obtain ⟨result, machine⟩ := controller_run_append before [input] waiting
    rw [result, machine, controller_run_going [] lastActive going,
      controller_run_waiting ⟨(controller_step_running _ input .success).trans lastActive.1, going⟩]
    exact ⟨rfl, login⟩

/-! ## The set-up states run once -/

/-- How far along the handlers' path a state lies: the three set-up states in
order, then the login loop, then the exit. -/
def AppState.phase : AppState → Nat
  | .init => 0
  | .loadConfig => 1
  | .checkAutologin => 2
  | .showLogin | .getCredentials | .selectSession | .authenticate | .startSession => 3
  | .exit => 4

/-- No move goes back along the path, and every move out of a set-up state goes forward. -/
theorem Moves.phase_le {state next : AppState} (moves : Moves state next) :
    state.phase ≤ next.phase ∧ (state.phase < 3 → state.phase < next.phase) := by
  cases state <;> simp only [Moves] at moves <;> rcases moves with rfl | rfl <;> decide

/-- Along a run the phase never decreases, and a run from a set-up state that
makes an iteration ends in a later phase. -/
theorem reaches_phase {m later : Machine} {history : List Event} (run : Reaches m later history) :
    m.ctx.state.phase ≤ later.ctx.state.phase ∧
      (m.ctx.state.phase < 3 → (later = m ∧ history = []) ∨ m.ctx.state.phase < later.ctx.state.phase) := by
  induction run with
  | init => exact ⟨le_refl _, fun _ => .inl ⟨rfl, rfl⟩⟩
  | @step before _ result input _ _ inductionHypothesis =>
    have moves := (controller_step_moves before input result).phase_le
    obtain ⟨monotone, left⟩ := inductionHypothesis
    refine ⟨monotone.trans moves.1, fun setup => .inr ?_⟩
    rcases left setup with ⟨rfl, -⟩ | advanced
    · exact moves.2 setup
    · exact lt_of_lt_of_le advanced moves.1

end Kia
