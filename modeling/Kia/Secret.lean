import Kia.Authorization

/-!
# The secret

Where `ctx->password` is cleared, and what depends on it. The loop reads the
secret twice: `handle_get_credentials` tests whether it is empty, and
`handle_authenticate` passes it to `auth_authenticate`, which hands it to the
PAM conversation only. Two runs whose secrets differ, but agree round by round
on emptiness, therefore do and log the same things.

The secret is cleared after every attempt and after an over-long name, so no
secret is pending once a session is being started. It is not cleared when the
terminal fails part-way through the entry, nor when the session selection is
cancelled: the context then returns to the login screen with the secret in
place.
-/

namespace Kia

/-! ## Where the secret is cleared -/

/-- The states with no secret pending: before the first login round, and once
a session is being started. -/
def SecretFree : AppState → Prop
  | .init | .loadConfig | .checkAutologin | .startSession | .exit => True
  | .showLogin | .getCredentials | .selectSession | .authenticate => False

/-- Every byte of the secret is zero in the states with no secret pending. -/
def PasswordCleared (m : Machine) : Prop := SecretFree m.ctx.state → m.ctx.password.Zeroed

theorem password_cleared_step {m : Machine} (cleared : PasswordCleared m) (result : Status)
    (input : Input) : PasswordCleared (controllerStep result m input).machine := by
  unfold PasswordCleared at cleared ⊢
  cases state : m.ctx.state <;> simp only [state, SecretFree, true_implies] at cleared <;>
    simp only [controllerStep, state, Step.invoked, handleInit, handleLoadConfig,
      handleCheckAutologin, handleShowLogin, handleGetCredentials, handleSelectSession,
      handleAuthenticate, handleStartSession, Machine.withCtx_ctx,
      apply_ite (fun s : Step => SecretFree s.machine.ctx.state → s.machine.ctx.password.Zeroed),
      SecretFree.eq_1, SecretFree.eq_2, SecretFree.eq_3, SecretFree.eq_4, SecretFree.eq_5, SecretFree.eq_6,
      SecretFree.eq_7, SecretFree.eq_8, SecretFree.eq_9, Buffer.zero_zeroed, cleared, false_implies,
      implies_true, ite_self, if_true_left, if_true_right]
  -- what is left are the matches on the selected catalogue entry
  all_goals (repeat' split) <;> simp [SecretFree, cleared, Buffer.zero_zeroed]

/-- In every reachable context with no secret pending, every byte of
`ctx->password` is zero. -/
theorem reaches_password_cleared {globals : Globals} {creds : Creds} {m : Machine}
    {history : List Event} (reached : Reaches (Machine.initial globals creds) m history) :
    PasswordCleared m := by
  induction reached with
  | init => exact fun _ => Buffer.zero_zeroed 256
  | step result input _ _ inductionHypothesis => exact password_cleared_step inductionHypothesis result input

/-! ## What depends on the secret -/

/-- The input with another secret left by the terminal. -/
def Input.withSecret (input : Input) (secret : Buffer 256) : Input :=
  { input with credentials := { input.credentials with password := secret } }

/-- Two inputs alike but for the secret the terminal left, which is empty in
both or in neither. -/
def SameButSecret (first second : Input) : Prop :=
  ∃ secret, second = first.withSecret secret ∧
    (first.credentials.password.str.bytes = [] ↔ secret.str.bytes = [])

/-- Two machines alike but for the secret in the context. -/
def SameButPassword (first second : Machine) : Prop :=
  ∃ secret, second = first.withCtx { first.ctx with password := secret }

theorem SameButPassword.refl (m : Machine) : SameButPassword m m := ⟨m.ctx.password, rfl⟩

/-- Machines alike but for the secret are in the same state and both run or both stop. -/
theorem SameButPassword.active_iff {first second : Machine} (machines : SameButPassword first second) :
    first.ctx.state = second.ctx.state ∧ (first.Active ↔ second.Active) := by
  obtain ⟨password, rfl⟩ := machines
  exact ⟨rfl, Iff.rfl⟩

/-- The handlers other than those of the entry and of the attempt carry the
secret through untouched, and read nothing of it or of the terminal's. -/
theorem controller_step_carries_password (result : Status) (m : Machine) (input : Input)
    (password secret : Buffer 256) (entry : m.ctx.state ≠ .getCredentials)
    (attempt : m.ctx.state ≠ .authenticate) :
    controllerStep result (m.withCtx { m.ctx with password := password }) (input.withSecret secret) =
      { controllerStep result m input with
        machine := (controllerStep result m input).machine.withCtx
          { (controllerStep result m input).machine.ctx with password := password } } := by
  cases state : m.ctx.state <;> simp only [state, ne_eq, not_true_eq_false] at entry attempt <;>
    simp only [controllerStep, Machine.withCtx, Input.withSecret, state, handleInit, handleLoadConfig,
      handleCheckAutologin, handleShowLogin, handleSelectSession, handleStartSession] <;>
    (try split_ifs) <;> (repeat' split) <;> rfl

/-- The entry writes the terminal's secret over the old one and only tests it
for emptiness. -/
theorem handle_get_credentials_secret (m : Machine) (input : Input) (password secret : Buffer 256)
    (empty : input.credentials.password.str.bytes = [] ↔ secret.str.bytes = []) :
    (handleGetCredentials m input).result =
        (handleGetCredentials (m.withCtx { m.ctx with password := password })
          (input.withSecret secret)).result ∧
      (handleGetCredentials m input).events =
        (handleGetCredentials (m.withCtx { m.ctx with password := password })
          (input.withSecret secret)).events ∧
      SameButPassword (handleGetCredentials m input).machine
        (handleGetCredentials (m.withCtx { m.ctx with password := password })
          (input.withSecret secret)).machine := by
  unfold handleGetCredentials
  simp only [Machine.withCtx, Input.withSecret, empty]
  by_cases failed : input.credentials.result ≠ .success
  · simp only [if_pos failed, true_and]
    exact ⟨_, rfl⟩
  by_cases unnamed : input.credentials.username.str.bytes = []
  · simp only [if_neg failed, if_pos unnamed, true_and]
    exact ⟨_, rfl⟩
  by_cases long : 255 < input.credentials.username.str.bytes.length
  · simp only [if_neg failed, if_neg unnamed, if_pos long, true_and]
    exact ⟨_, rfl⟩
  simp only [if_neg failed, if_neg unnamed, if_neg long]
  by_cases blank : secret.str.bytes = []
  · simp only [if_pos blank, true_and]
    exact ⟨_, rfl⟩
  · simp only [if_neg blank, true_and]
    exact ⟨_, rfl⟩

/-- Iterations from machines and inputs alike but for the secret return the
same code, do the same things and leave machines alike but for the secret. -/
theorem controller_step_secret {first second : Machine} {firstInput secondInput : Input}
    (machines : SameButPassword first second) (inputs : SameButSecret firstInput secondInput)
    (result : Status) :
    (controllerStep result first firstInput).result = (controllerStep result second secondInput).result ∧
      (controllerStep result first firstInput).events =
        (controllerStep result second secondInput).events ∧
      SameButPassword (controllerStep result first firstInput).machine
        (controllerStep result second secondInput).machine := by
  obtain ⟨secret, rfl, empty⟩ := inputs
  obtain ⟨password, rfl⟩ := machines
  by_cases entry : first.ctx.state = .getCredentials
  · obtain ⟨results, events, machines⟩ := handle_get_credentials_secret first firstInput password secret empty
    have entered : ∀ m : Machine, m.ctx.state = .getCredentials → ∀ input,
        controllerStep result m input = (handleGetCredentials m input).invoked .getCredentials :=
      fun m state input => by simp only [controllerStep, state]
    rw [entered first entry, entered (first.withCtx { first.ctx with password := password }) entry]
    exact ⟨results, congrArg (List.cons _) events, machines⟩
  by_cases attempt : first.ctx.state = .authenticate
  · simp only [controllerStep, attempt, Step.invoked, handleAuthenticate,
      Machine.withCtx, Input.withSecret]
    rw [auth_authenticate_password password.str first.globals firstInput.auth _ first.ctx.password.str]
    split_ifs <;> exact ⟨rfl, rfl, _, rfl⟩
  rw [controller_step_carries_password result first firstInput password secret entry attempt]
  exact ⟨rfl, rfl, password, rfl⟩

/-- Runs from machines alike but for the secret, over inputs alike but for the
secret iteration by iteration, return the same code and do the same things. -/
theorem controller_run_secret {first second : Machine} (machines : SameButPassword first second)
    {firstInputs secondInputs : List Input}
    (inputs : List.Forall₂ SameButSecret firstInputs secondInputs) (result : Status) :
    (controllerRun first result firstInputs).result = (controllerRun second result secondInputs).result ∧
      (controllerRun first result firstInputs).events =
        (controllerRun second result secondInputs).events := by
  induction inputs generalizing first second result with
  | nil =>
    have active := (machines.active_iff).2
    by_cases running : first.Active <;> simp [controllerRun, running, active.mp, active.not.mp]
  | @cons firstInput secondInput _ _ same rest inductionHypothesis =>
    obtain ⟨results, events, after⟩ := controller_step_secret machines same result
    have active := (machines.active_iff).2
    have stateEq := (after.active_iff).1
    unfold controllerRun
    dsimp only
    rw [← results, ← events, ← stateEq]
    by_cases running : first.Active
    · obtain ⟨sameResult, sameEvents⟩ := inductionHypothesis after (controllerStep result first firstInput).result
      simp only [running, active.mp running, if_true]
      split_ifs <;> simp [sameResult, sameEvents]
    · simp [running, active.not.mp running]

/-- Two runs of the loop from the same start, whose inputs agree iteration by
iteration but for the secret the terminal left and agree on whether it is
empty, return the same code and make the same calls: every `logger_log` call,
with its level, format and arguments, is the same in both.

Proof: machines alike but for the secret stay so along both runs, and their
iterations return the same code and make the same calls
(`controller_step_secret`): the loop only tests the secret for emptiness, and
`auth_authenticate` does not inspect it. -/
theorem secret_unobservable (globals : Globals) (creds : Creds) {firstInputs secondInputs : List Input}
    (inputs : List.Forall₂ SameButSecret firstInputs secondInputs) :
    (controllerRun (Machine.initial globals creds) .success firstInputs).events =
        (controllerRun (Machine.initial globals creds) .success secondInputs).events ∧
      (controllerRun (Machine.initial globals creds) .success firstInputs).result =
        (controllerRun (Machine.initial globals creds) .success secondInputs).result :=
  (controller_run_secret (SameButPassword.refl _) inputs .success).symm

/-- The terminal's entry of name `u` and secret `p`: both strings, then zeros. -/
def entryOfP : Credentials :=
  ⟨.success, Buffer.ofStr 256 ⟨[117], by decide⟩, Buffer.ofStr 256 ⟨[112], by decide⟩, by decide⟩

/-- Collaborators that all succeed with the default configuration and the
catalogue `[w]`; the terminal reads `u` and `p` and the session selection is
cancelled with Escape, so `tui_select_session` returns `-1`. -/
def cancelledInput : Input :=
  { autologinInput with loaded := KiaConfig.defaults, credentials := entryOfP, selection := -1 }

/-- Start-up, configuration, no autologin, the login screen, the entry, the
cancelled selection. -/
def cancelledRun : Run :=
  controllerRun (Machine.initial Globals.initial rootCreds) .success (List.replicate 6 cancelledInput)

/-- A cancelled session selection returns to the login screen with the secret
`p` still in `ctx->password`. -/
theorem cancelled_selection_keeps_secret :
    cancelledRun.machine.ctx.state = .showLogin ∧ ¬cancelledRun.machine.ctx.password.Zeroed := by
  decide

/-- The entry of `cancelledInput` with secret `q` in place of `p`. -/
def cancelledOtherSecret : Input := cancelledInput.withSecret (Buffer.ofStr 256 ⟨[113], by decide⟩)

/-- The runs of six iterations with secret `p` and with secret `q` make the
same calls. -/
theorem secret_runs_agree :
    List.Forall₂ SameButSecret (List.replicate 6 cancelledInput)
        (List.replicate 6 cancelledOtherSecret) ∧
      (controllerRun (Machine.initial Globals.initial rootCreds) .success
          (List.replicate 6 cancelledInput)).events =
        (controllerRun (Machine.initial Globals.initial rootCreds) .success
          (List.replicate 6 cancelledOtherSecret)).events ∧
      (controllerRun (Machine.initial Globals.initial rootCreds) .success
          (List.replicate 6 cancelledInput)).result =
        (controllerRun (Machine.initial Globals.initial rootCreds) .success
          (List.replicate 6 cancelledOtherSecret)).result := by
  have alike : SameButSecret cancelledInput cancelledOtherSecret := ⟨_, rfl, by decide⟩
  have inputs : List.Forall₂ SameButSecret (List.replicate 6 cancelledInput)
      (List.replicate 6 cancelledOtherSecret) := by
    simp [List.replicate_succ, alike]
  exact ⟨inputs, secret_unobservable Globals.initial rootCreds inputs⟩

end Kia
