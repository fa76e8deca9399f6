import Kia.Secret

/-!
# The lockout window of the login loop

Once an attempt sets `lockout_until = L`, the login loop refuses every attempt
whose clock reading is below `L` in `handle_authenticate` itself, before
`auth_authenticate` is called: no identity-provider call, no launch, every
attempt back to the login screen. The window lasts as long as the readings
stay below `L`. A reading at or after `L` clears the expired lockout, and the
clock is read, not trusted to grow: once it has been cleared, a later reading
below `L` reaches the provider again.

A lockout is in force only during login rounds: it is set by a failed
attempt, which returns to the login screen, and a successful one clears it
before `STATE_START_SESSION`.
-/

namespace Kia

/-- The states of a login round. -/
def InLoginCycle (state : AppState) : Prop :=
  state = .showLogin ∨ state = .getCredentials ∨ state = .selectSession ∨ state = .authenticate

/-- A lockout is in force only in the states of a login round. -/
def LockoutConfined (m : Machine) : Prop :=
  m.ctx.authState.lockoutUntil ≠ 0 → InLoginCycle m.ctx.state

theorem lockout_confined_step {m : Machine} (confined : LockoutConfined m) (result : Status)
    (input : Input) : LockoutConfined (controllerStep result m input).machine := by
  unfold LockoutConfined InLoginCycle at confined
  cases state : m.ctx.state <;> simp only [state, reduceCtorEq, or_self, imp_false, not_not] at confined <;>
    simp only [controllerStep, state, Step.invoked, handleInit, handleLoadConfig,
      handleCheckAutologin, handleShowLogin, handleGetCredentials, handleSelectSession,
      handleAuthenticate, handleStartSession, Machine.withCtx,
      apply_ite (fun s : Step => LockoutConfined s.machine)] <;>
    (repeat' split) <;> simp [LockoutConfined, InLoginCycle, confined, authResetAttempts]

/-- Every reachable machine keeps its lockout to the login rounds. -/
theorem reaches_lockout_confined {globals : Globals} {creds : Creds} {m : Machine}
    {history : List Event} (reached : Reaches (Machine.initial globals creds) m history) :
    LockoutConfined m := by
  induction reached with
  | init => simp [LockoutConfined, Machine.initial, controllerInit, AuthState.zero]
  | step result input _ _ inductionHypothesis =>
    exact lockout_confined_step inductionHypothesis result input

/-- What a refused round may do: anything but a call into the identity
provider, the invocation of the handler of `STATE_START_SESSION` and a launch. -/
def Event.Refused (event : Event) : Prop :=
  ¬event.IsProviderCall ∧ event ≠ .handler .startSession ∧
    ∀ session user, event ≠ .sessionStart session user

theorem Event.refused_of_isLog {event : Event} (logged : event.isLog) : event.Refused := by
  cases event <;> simp_all [Event.isLog, Event.Refused, Event.IsProviderCall]

/-- The loop inside a login round, under the lockout `deadline`. -/
def LockedRound (deadline : Int) (m : Machine) : Prop :=
  m.ctx.authState.lockoutUntil = deadline ∧ InLoginCycle m.ctx.state ∧ m.ctx.running = true

section Window

variable {deadline : Int} (locked : deadline ≠ 0)

include locked in
/-- An iteration of a locked round whose clock reading is below the deadline
stays in the round and is refused. -/
theorem locked_round_step {m : Machine} (round : LockedRound deadline m) (input : Input)
    (early : input.clock < deadline) (result : Status) :
    LockedRound deadline (controllerStep result m input).machine ∧
      ∀ event ∈ (controllerStep result m input).events, event.Refused := by
  obtain ⟨lockout, cycle, running⟩ := round
  have proposed := find_default_session_logs m.ctx.sessions m.ctx.config.defaultSession
  have refusing : (authIsLockedOut m.ctx.authState input.clock) = (true, m.ctx.authState) := by
    simp only [authIsLockedOut, lockout, locked, if_false]
    rw [if_neg (by omega)]
  rcases cycle with state | state | state | state <;>
    simp only [controllerStep, state, Step.invoked, handleShowLogin, handleGetCredentials,
      handleSelectSession, handleAuthenticate, refusing, Machine.withCtx, if_true]
  · simp [LockedRound, InLoginCycle, lockout, running, Event.Refused, Event.IsProviderCall]
  · simp only [apply_ite (fun s : Step => LockedRound deadline s.machine ∧
      ∀ event ∈ Event.handler .getCredentials :: s.events, event.Refused)]
    simp [LockedRound, InLoginCycle, lockout, running, Event.Refused, Event.IsProviderCall]
  · split <;> refine ⟨by simp [LockedRound, InLoginCycle, lockout, running], fun event member => ?_⟩ <;>
      by_cases logged : event ∈ (findDefaultSession m.ctx.sessions m.ctx.config.defaultSession).2
    all_goals first
      | exact Event.refused_of_isLog (List.all_eq_true.mp proposed event logged)
      | simp only [List.cons_append, List.mem_cons, List.mem_append, logged, List.mem_singleton,
          false_or, List.not_mem_nil, or_false] at member
        rcases member with rfl | rfl | rfl | rfl <;> simp [Event.Refused, Event.IsProviderCall]
  · simp [LockedRound, InLoginCycle, lockout, running, Event.Refused, Event.IsProviderCall]

include locked in
/-- A run of a locked round whose clock readings all fall below the deadline
does not stop, stays in the round and is refused throughout. -/
theorem locked_round_run {m : Machine} (round : LockedRound deadline m) (inputs : List Input)
    (early : ∀ later ∈ inputs, later.clock < deadline) (result : Status) :
    (controllerRun m result inputs).result = none ∧
      LockedRound deadline (controllerRun m result inputs).machine ∧
      ∀ event ∈ (controllerRun m result inputs).events, event.Refused := by
  have active : m.Active := ⟨round.2.2, by rcases round.2.1 with state | state | state | state <;> simp [state]⟩
  induction inputs generalizing m result with
  | nil => simp [controllerRun, active, round]
  | cons input rest inductionHypothesis =>
    obtain ⟨next, refused⟩ := locked_round_step locked round input (early input (by simp)) result
    have continuing : (controllerStep result m input).machine.ctx.state ≠ .exit := by
      rcases next.2.1 with state | state | state | state <;> simp [state]
    obtain ⟨running, stays, quiet⟩ := inductionHypothesis next
      (fun later member => early later (List.mem_cons_of_mem _ member))
      (controllerStep result m input).result ⟨next.2.2, continuing⟩
    simp only [controllerRun, active, if_true, continuing, and_false]
    refine ⟨running, stays, fun event member => ?_⟩
    rcases List.mem_append.mp member with here | later
    · exact refused event here
    · exact quiet event later

end Window

/-- From any point of a run at which a lockout until `L` is in force, as long
as every clock reading stays below `L` the loop makes no call into the identity
provider, invokes no handler of `STATE_START_SESSION` and launches nothing:
every attempt goes back to the login screen, the loop does not stop and the
lockout stays `L`.

Proof: a reachable lockout is confined to the login rounds
(`reaches_lockout_confined`); there every attempt is refused by
`handle_authenticate`'s own check (`locked_round_step`). -/
theorem lockout_window {globals : Globals} {creds : Creds} {m : Machine} {history : List Event}
    (reached : Reaches (Machine.initial globals creds) m history)
    (locked : m.ctx.authState.lockoutUntil ≠ 0) (inputs : List Input)
    (early : ∀ later ∈ inputs, later.clock < m.ctx.authState.lockoutUntil) (result : Status) :
    (controllerRun m result inputs).result = none ∧
      (controllerRun m result inputs).machine.ctx.authState.lockoutUntil =
        m.ctx.authState.lockoutUntil ∧
      InLoginCycle (controllerRun m result inputs).machine.ctx.state ∧
      ∀ event ∈ (controllerRun m result inputs).events, event.Refused := by
  have round : LockedRound m.ctx.authState.lockoutUntil m :=
    ⟨rfl, reaches_lockout_confined reached locked, reaches_running reached rfl⟩
  obtain ⟨running, ⟨lockout, cycle, -⟩, refused⟩ := locked_round_run locked round inputs early result
  exact ⟨running, lockout, cycle, refused⟩

/-- The defaults with one attempt allowed. -/
def strictConfig : KiaConfig := { KiaConfig.defaults with maxAttempts := 1 }

/-- One iteration's answers: the configuration `strictConfig`, the catalogue
`[w]`, the entry `u`/`p`, the first session, the clock reading `clock`
throughout, and PAM answering `start` to `pam_start` and `verdict` to
`pam_authenticate`. -/
def attemptInput (clock start verdict : Int) : Input :=
  { cancelledInput with
    loaded := strictConfig
    selection := 0
    clock := clock
    auth := ⟨clock, clock, .locked, none, start, verdict, 0⟩ }

/-- Start-up, configuration and one round whose attempt PAM rejects at time
100, which locks `u` out until 160. -/
def lockedRun : Run :=
  controllerRun (Machine.initial Globals.initial rootCreds) .success
    (List.replicate 7 (attemptInput 100 0 7))

/-- Four more iterations at time 150 after the lockout until 160: the attempt
is refused and the lockout stays. -/
theorem locked_attempts_refused :
    Reaches (Machine.initial Globals.initial rootCreds) lockedRun.machine ([] ++ lockedRun.events) ∧
      lockedRun.machine.ctx.authState.lockoutUntil ≠ 0 ∧
      (∀ later ∈ List.replicate 4 (attemptInput 150 0 0),
        later.clock < lockedRun.machine.ctx.authState.lockoutUntil) ∧
      ((controllerRun lockedRun.machine .success (List.replicate 4 (attemptInput 150 0 0))).result = none ∧
        (controllerRun lockedRun.machine .success
            (List.replicate 4 (attemptInput 150 0 0))).machine.ctx.authState.lockoutUntil =
          lockedRun.machine.ctx.authState.lockoutUntil ∧
        InLoginCycle (controllerRun lockedRun.machine .success
          (List.replicate 4 (attemptInput 150 0 0))).machine.ctx.state ∧
        ∀ event ∈ (controllerRun lockedRun.machine .success
          (List.replicate 4 (attemptInput 150 0 0))).events, event.Refused) := by
  have reached : Reaches (Machine.initial Globals.initial rootCreds) lockedRun.machine
      ([] ++ lockedRun.events) :=
    controller_run_reaches Reaches.init .success _
  have locked : lockedRun.machine.ctx.authState.lockoutUntil ≠ 0 := by decide
  have early : ∀ later ∈ List.replicate 4 (attemptInput 150 0 0),
      later.clock < lockedRun.machine.ctx.authState.lockoutUntil := by decide
  exact ⟨reached, locked, early, lockout_window reached locked _ early .success⟩

/-- The run of `lockedRun` continued by a round at time 200, whose expired
lockout is cleared and whose `pam_start` fails, and by three iterations of a
round at time 150. -/
def rewoundRun : Run :=
  controllerRun (Machine.initial Globals.initial rootCreds) .success
    (List.replicate 7 (attemptInput 100 0 7) ++ List.replicate 4 (attemptInput 200 1 0) ++
      List.replicate 3 (attemptInput 150 0 0))

/-- After the lockout until 160 has been set, an attempt whose clock reading
is 150 calls `pam_start`: the clock was read at 200 in between. -/
theorem rewound_clock_reaches_provider :
    lockedRun.machine.ctx.authState.lockoutUntil = 160 ∧ (attemptInput 150 0 0).clock < 160 ∧
      Event.pamStart ⟨[117], by decide⟩ 0 ∈
        (controllerStep .success rewoundRun.machine (attemptInput 150 0 0)).events := by
  decide

end Kia
