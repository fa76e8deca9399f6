import Kia.Controller
import Kia.PrivilegeDrop

/-!
# No session without a login

Every call of `session_start` made by a run of the loop launches the
selected entry of the catalogue for the name in `ctx->username`, and is backed
either by the login round in progress, in which `auth_authenticate` accepted
that name after both PAM calls did and the terminal's selection is the one
launched, or, before any login round, by the configured autologin of an
account `user_exists` found.

A login round is the part of the trace since the last invocation of the
login screen's handler. The invariant says, state by state, what the trace
already guarantees; one lemma per handler shows that its iteration keeps it.
-/

namespace Kia

/-- The events since the last invocation of the login screen's handler: the
login round in progress, or the whole trace before the first round. -/
def currentRound (history : List Event) : List Event :=
  (history.reverse.takeWhile (· != .handler .showLogin)).reverse

theorem current_round_append (history events : List Event)
    (quiet : Event.handler .showLogin ∉ events) :
    currentRound (history ++ events) = currentRound history ++ events := by
  have kept : ∀ event ∈ events.reverse, (event != .handler .showLogin) = true := by
    intro event member
    simp only [bne_iff_ne, ne_eq]
    rintro rfl
    exact quiet (List.mem_reverse.mp member)
  simp only [currentRound, List.reverse_append, List.takeWhile_append_of_pos kept, List.reverse_reverse]

theorem current_round_login (history events : List Event)
    (quiet : Event.handler .showLogin ∉ events) :
    currentRound (history ++ Event.handler .showLogin :: events) = events := by
  rw [← List.singleton_append, ← List.append_assoc, current_round_append _ _ quiet]
  simp [currentRound]

/-- The selection the terminal returned in the round in progress: one index,
the one the context holds. -/
def SelectedInRound (m : Machine) (history : List Event) : Prop :=
  Event.selectSession m.ctx.selectedSession ∈ currentRound history ∧
    ∀ index, Event.selectSession index ∈ currentRound history → index = m.ctx.selectedSession

/-- The round in progress has `auth_authenticate` accept `user` after both
PAM calls did, and no write of `ctx->username` since. -/
def AcceptedInRound (user : CStr) (history : List Event) : Prop :=
  ∃ before after, currentRound history = before ++ .authenticate user .success :: after ∧
    Event.pamAuthenticate user 0 ∈ before ∧ Event.pamAcctMgmt user 0 ∈ before ∧
    ∀ written, Event.username written ∉ after

/-- Before any login round: autologin is enabled for a non-empty name that
`user_exists` accepted and that `ctx->username` holds. -/
def Autologin (m : Machine) (history : List Event) : Prop :=
  Event.handler .showLogin ∉ history ∧ m.ctx.config.autologinEnabled = true ∧
    m.ctx.config.autologinUser ≠ CStr.empty ∧
    Event.userExists m.ctx.config.autologinUser true ∈ history ∧
    m.ctx.username.str = m.ctx.config.autologinUser

/-- What the trace guarantees in each state of the login path. -/
def LoginInvariant (m : Machine) (history : List Event) : Prop :=
  match m.ctx.state with
  | .init | .loadConfig | .checkAutologin => Event.handler .showLogin ∉ history
  | .showLogin | .exit => True
  | .getCredentials | .selectSession =>
    Event.handler .showLogin ∈ history ∧ ∀ index, Event.selectSession index ∉ currentRound history
  | .authenticate => Event.handler .showLogin ∈ history ∧ SelectedInRound m history
  | .startSession =>
    (Event.handler .showLogin ∈ history ∧ SelectedInRound m history ∧
      AcceptedInRound m.ctx.username.str history) ∨ Autologin m history

section Step

variable {m : Machine} {history : List Event} (input : Input)

variable (result : Status)

theorem login_invariant_init (state : m.ctx.state = .init)
    (invariant : LoginInvariant m history) :
    LoginInvariant (controllerStep result m input).machine
      (history ++ (controllerStep result m input).events) := by
  simp only [LoginInvariant, state] at invariant
  simp only [controllerStep, state, Step.invoked, handleInit, Machine.withCtx]
  split_ifs <;> simp [LoginInvariant, invariant, authInit]

theorem login_invariant_load_config (state : m.ctx.state = .loadConfig)
    (invariant : LoginInvariant m history) :
    LoginInvariant (controllerStep result m input).machine
      (history ++ (controllerStep result m input).events) := by
  simp only [LoginInvariant, state] at invariant
  have discovered := Event.not_mem_of_all input.discovery.logged (.handler .showLogin) rfl
  simp only [controllerStep, state, Step.invoked, handleLoadConfig, Machine.withCtx]
  split_ifs <;> simp [LoginInvariant, invariant, discovered]

theorem login_invariant_check_autologin (state : m.ctx.state = .checkAutologin)
    (invariant : LoginInvariant m history) :
    LoginInvariant (controllerStep result m input).machine
      (history ++ (controllerStep result m input).events) := by
  simp only [LoginInvariant, state] at invariant
  simp only [controllerStep, state, Step.invoked, handleCheckAutologin, Machine.withCtx]
  split_ifs with enabled invalid unknown
  · simp [LoginInvariant]
  · simp [LoginInvariant]
  · split
    · simp [LoginInvariant]
    · simp only [LoginInvariant]
      refine .inr ⟨?_, enabled.1, ?_, ?_, Buffer.str_ofStr (by omega)⟩
      · simp [invariant, Event.not_mem_of_all (user_exists_logs _ _) (.handler .showLogin) rfl,
          Event.not_mem_of_all (find_default_session_logs _ _) (.handler .showLogin) rfl]
      · exact fun empty => enabled.2 (by rw [empty]; rfl)
      · simp_all
  · simp [LoginInvariant]

theorem login_invariant_show_login (state : m.ctx.state = .showLogin) :
    LoginInvariant (controllerStep result m input).machine
      (history ++ (controllerStep result m input).events) := by
  simp only [controllerStep, state, Step.invoked, handleShowLogin, Machine.withCtx]
  simp [LoginInvariant, current_round_login]

theorem login_invariant_get_credentials (state : m.ctx.state = .getCredentials)
    (invariant : LoginInvariant m history) :
    LoginInvariant (controllerStep result m input).machine
      (history ++ (controllerStep result m input).events) := by
  simp only [LoginInvariant, state] at invariant
  simp only [controllerStep, state, Step.invoked, handleGetCredentials, Machine.withCtx]
  split_ifs <;> simp [LoginInvariant, invariant, current_round_append]

theorem login_invariant_select_session (state : m.ctx.state = .selectSession)
    (invariant : LoginInvariant m history) :
    LoginInvariant (controllerStep result m input).machine
      (history ++ (controllerStep result m input).events) := by
  simp only [LoginInvariant, state] at invariant
  have proposed := find_default_session_logs m.ctx.sessions m.ctx.config.defaultSession
  simp only [controllerStep, state, Step.invoked, handleSelectSession, Machine.withCtx]
  split
  · simp [LoginInvariant]
  · simp only [LoginInvariant, SelectedInRound]
    have quiet := fun (event : Event) (rejected : event.isLog = false) =>
      Event.not_mem_of_all proposed event rejected
    simp [invariant, current_round_append, quiet (.handler .showLogin) rfl, quiet (.selectSession _) rfl]

theorem login_invariant_authenticate (state : m.ctx.state = .authenticate)
    (invariant : LoginInvariant m history) :
    LoginInvariant (controllerStep result m input).machine
      (history ++ (controllerStep result m input).events) := by
  simp only [LoginInvariant, SelectedInRound, state] at invariant
  obtain ⟨entered, selected, unique⟩ := invariant
  simp only [controllerStep, state, Step.invoked, handleAuthenticate, Machine.withCtx]
  split_ifs with locked accepted
  · simp [LoginInvariant]
  · have attempt := auth_authenticate_attempt (some m.ctx.username.str) (some m.ctx.password.str)
      (some m.ctx.config) (some (authIsLockedOut m.ctx.authState input.clock).2) m.globals input.auth
    have provider := auth_authenticate_success _ _ _ _ _ _ accepted
    generalize authAuthenticate _ _ _ _ _ _ = call at attempt provider accepted ⊢
    have quiet := fun (event : Event) (rejected : event.isAttempt = false) =>
      Event.not_mem_of_all attempt event rejected
    rw [accepted]
    simp only [LoginInvariant, SelectedInRound, AcceptedInRound]
    rw [current_round_append _ _ (by simp [quiet (.handler .showLogin) rfl])]
    refine .inl ⟨List.mem_append_left _ entered, ⟨List.mem_append_left _ selected, fun index member => ?_⟩,
      currentRound history ++ .handler .authenticate :: call.events,
      [.log .info "User '%s' authenticated successfully" [.str m.ctx.username.str]], by simp,
      by simp [provider.1],
      by simp [provider.2], by simp⟩
    simp only [List.mem_append, List.mem_cons, List.mem_singleton] at member
    rcases member with member | member | (member | member) | member | member
    · exact unique index member
    all_goals simp_all [quiet (.selectSession index) rfl]
  · simp [LoginInvariant]

theorem login_invariant_start_session (state : m.ctx.state = .startSession) :
    LoginInvariant (controllerStep result m input).machine
      (history ++ (controllerStep result m input).events) := by
  simp only [controllerStep, state, Step.invoked, handleStartSession, Machine.withCtx]
  split
  · simp [LoginInvariant]
  · split_ifs <;> simp [LoginInvariant]

/-- Every iteration keeps the invariant. -/
theorem login_invariant_step (invariant : LoginInvariant m history) :
    LoginInvariant (controllerStep result m input).machine
      (history ++ (controllerStep result m input).events) := by
  cases state : m.ctx.state with
  | init => exact login_invariant_init input result state invariant
  | loadConfig => exact login_invariant_load_config input result state invariant
  | checkAutologin => exact login_invariant_check_autologin input result state invariant
  | showLogin => exact login_invariant_show_login input result state
  | getCredentials => exact login_invariant_get_credentials input result state invariant
  | selectSession => exact login_invariant_select_session input result state invariant
  | authenticate => exact login_invariant_authenticate input result state invariant
  | startSession => exact login_invariant_start_session input result state
  | exit => simpa [controllerStep, state] using invariant

/-- Only the iteration of `STATE_START_SESSION` calls `session_start`, with the
selected entry and `ctx->username`. -/
theorem session_start_event {session : SessionInfo} {user : CStr}
    (called : Event.sessionStart session user ∈ (controllerStep result m input).events) :
    m.ctx.state = .startSession ∧ user = m.ctx.username.str ∧
      selectedEntry m.ctx.sessions m.ctx.selectedSession = some session := by
  have discovered := Event.not_mem_of_all input.discovery.logged (.sessionStart session user) rfl
  have known := Event.not_mem_of_all (user_exists_logs m.ctx.config.autologinUser input.autologinLookup)
    (.sessionStart session user) rfl
  have proposed := Event.not_mem_of_all
    (find_default_session_logs m.ctx.sessions m.ctx.config.defaultSession)
    (.sessionStart session user) rfl
  have attempted := Event.not_mem_of_all (auth_authenticate_attempt (some m.ctx.username.str)
    (some m.ctx.password.str) (some m.ctx.config) (some (authIsLockedOut m.ctx.authState input.clock).2)
    m.globals input.auth) (.sessionStart session user) rfl
  have launched := fun entry => Event.not_mem_of_all (session_start_launch entry m.ctx.username.str
    m.creds m.globals.files input.launch) (.sessionStart session user) rfl
  cases state : m.ctx.state <;>
    simp only [controllerStep, state, Step.invoked, handleInit, handleLoadConfig,
      handleCheckAutologin, handleShowLogin, handleGetCredentials, handleSelectSession,
      handleAuthenticate, handleStartSession, Machine.withCtx,
      apply_ite (fun s : Step => Event.sessionStart session user ∈ s.events),
      List.mem_cons, List.mem_append, List.mem_singleton, List.mem_ite_nil_right, reduceCtorEq,
      false_or, or_false, and_false, List.not_mem_nil, discovered, known, proposed, attempted, launched,
      authInit, Event.sessionStart.injEq, ite_self, if_false_left, if_false_right] at called
  all_goals (repeat' split at called) <;> simp_all

end Step

/-- Every reachable machine satisfies the invariant. -/
theorem reaches_login_invariant {globals : Globals} {creds : Creds} {m : Machine}
    {history : List Event} (reached : Reaches (Machine.initial globals creds) m history) :
    LoginInvariant m history := by
  induction reached with
  | init => simp [LoginInvariant, Machine.initial, controllerInit]
  | step result input _ _ inductionHypothesis => exact login_invariant_step input result inductionHypothesis

/-- Every call `session_start(s, u)` a run makes launches the selected entry
`s` of the catalogue, in range, for the name `u` in `ctx->username`. Either
the login round in progress backs it (the terminal's one selection of the
round is the entry launched, and `auth_authenticate` accepted `u` after both
PAM calls did, with no write of the name since), or no round has begun and
`u` is the configured autologin name of an account `user_exists` found.

Proof: only the iteration of `STATE_START_SESSION` calls `session_start`
(`session_start_event`), and the invariant of a reachable machine in that
state is the conclusion. -/
theorem session_start_authorized {globals : Globals} {creds : Creds} {m : Machine}
    {history : List Event} (reached : Reaches (Machine.initial globals creds) m history)
    (result : Status) (input : Input) {session : SessionInfo} {user : CStr}
    (called : Event.sessionStart session user ∈ (controllerStep result m input).events) :
    user = m.ctx.username.str ∧ 0 ≤ m.ctx.selectedSession ∧
      m.ctx.selectedSession < m.ctx.sessions.length ∧
      m.ctx.sessions.get? m.ctx.selectedSession.toNat = some session ∧
      ((Event.handler .showLogin ∈ history ∧ SelectedInRound m history ∧
          AcceptedInRound user history) ∨
        (Autologin m history ∧ user = m.ctx.config.autologinUser)) := by
  obtain ⟨state, named, selected⟩ := session_start_event input result called
  have invariant := reaches_login_invariant reached
  simp only [LoginInvariant, state] at invariant
  subst named
  obtain ⟨nonnegative, inRange, found⟩ := selected_entry_eq_some selected
  refine ⟨rfl, nonnegative, inRange, found, ?_⟩
  rcases invariant with round | autologin
  · exact .inl round
  · exact .inr ⟨autologin, autologin.2.2.2.2⟩

/-- Autologin of `u` into the session `w`. -/
def autologinConfig : KiaConfig :=
  { KiaConfig.defaults with
    autologinUser := ⟨[117], by decide⟩
    autologinEnabled := true
    defaultSession := ⟨[119], by decide⟩ }

/-- Collaborators that all succeed: the configuration `autologinConfig`, the
catalogue `[w]`, the account `u` and the launch `rootLaunch`. -/
def autologinInput : Input :=
  { tuiInit := true
    loaded := autologinConfig
    loadResult := .success
    discovery := ⟨.success, [waylandSession], [], rfl⟩
    autologinLookup := .found ordinaryAccount
    credentials := ⟨.success, Buffer.zero 256, Buffer.zero 256, by decide⟩
    selection := 0
    clock := 1
    auth := ⟨1, 1, .locked, none, 0, 0, 0⟩
    launch := rootLaunch }

/-- Three iterations of a root manager: start-up, configuration, autologin. -/
def autologinRun : Run :=
  controllerRun (Machine.initial Globals.initial rootCreds) .success
    [autologinInput, autologinInput, autologinInput]

/-- The autologin of `u` launches `w` on the fourth iteration, backed by the
configuration and the account lookup. -/
theorem autologin_launch_authorized :
    Reaches (Machine.initial Globals.initial rootCreds) autologinRun.machine
        ([] ++ autologinRun.events) ∧
      Event.sessionStart waylandSession ⟨[117], by decide⟩ ∈
        (controllerStep .success autologinRun.machine autologinInput).events ∧
      (⟨[117], by decide⟩ = autologinRun.machine.ctx.username.str ∧
        0 ≤ autologinRun.machine.ctx.selectedSession ∧
        autologinRun.machine.ctx.selectedSession < autologinRun.machine.ctx.sessions.length ∧
        autologinRun.machine.ctx.sessions.get? autologinRun.machine.ctx.selectedSession.toNat =
          some waylandSession ∧
        ((Event.handler .showLogin ∈ [] ++ autologinRun.events ∧
            SelectedInRound autologinRun.machine ([] ++ autologinRun.events) ∧
            AcceptedInRound ⟨[117], by decide⟩ ([] ++ autologinRun.events)) ∨
          (Autologin autologinRun.machine ([] ++ autologinRun.events) ∧
            (⟨[117], by decide⟩ : CStr) = autologinRun.machine.ctx.config.autologinUser))) := by
  have reached : Reaches (Machine.initial Globals.initial rootCreds) autologinRun.machine
      ([] ++ autologinRun.events) :=
    controller_run_reaches Reaches.init .success [autologinInput, autologinInput, autologinInput]
  have called : Event.sessionStart waylandSession ⟨[117], by decide⟩ ∈
      (controllerStep .success autologinRun.machine autologinInput).events := by
    decide
  exact ⟨reached, called, session_start_authorized reached .success autologinInput called⟩

end Kia
