import Kia.ExitStatus
import Kia.Lockout
import Kia.ConfigFile

/-!
# The lockout policy over the manager's loop

The lockout invariant of `Lockout` (a counter in `[0, max_attempts]`, a
lockout exactly at the limit) is kept by every call into the authenticator
under a configuration with `max_attempts ≥ 1` and a nonnegative
`lockout_duration`. The manager's loop makes those calls from
`handle_authenticate`, and replaces its configuration once, in
`handle_load_config`. In the loop `main` runs, where `main` and
`handle_load_config` take their configuration from `config_load` and the
clock readings are positive, the invariant holds of every machine for the
configuration in its context, whatever signal arrives: `config_load` only
leaves configurations in range, the counter is still zero when
`handle_load_config` replaces the configuration, and an iteration of
`STATE_AUTHENTICATE` is a run of the authenticator's calls
(`main_loop_lockout_invariant`).
-/

namespace Kia

/-! ## What one iteration does to the configuration and the counter -/

section Step

variable (m : Machine) (input : Input) (result : Status)

/-- Only `handle_load_config` writes the configuration. -/
theorem controller_step_config (kept : m.ctx.state ≠ .loadConfig) :
    (controllerStep result m input).machine.ctx.config = m.ctx.config := by
  cases state : m.ctx.state <;> rw [state] at kept <;>
    simp only [controllerStep, state, Step.invoked, handleInit, handleCheckAutologin, handleShowLogin,
      handleGetCredentials, handleSelectSession, handleAuthenticate, handleStartSession,
      apply_ite (fun s : Step => s.machine.ctx.config), Machine.withCtx_ctx, ite_self]
  case loadConfig => exact absurd rfl kept
  all_goals (repeat' split) <;> rfl

/-- `handle_load_config` stores what `config_load` left. -/
theorem load_config_step_config (state : m.ctx.state = .loadConfig) :
    (controllerStep result m input).machine.ctx.config = input.loaded := by
  simp only [controllerStep, state, Step.invoked, handleLoadConfig,
    apply_ite (fun s : Step => s.machine.ctx.config), Machine.withCtx_ctx, ite_self]

/-- Only `handle_authenticate` writes the tracked state. -/
theorem controller_step_auth_state (kept : m.ctx.state ≠ .authenticate) :
    (controllerStep result m input).machine.ctx.authState = m.ctx.authState := by
  cases state : m.ctx.state <;> rw [state] at kept <;>
    simp only [controllerStep, state, Step.invoked, handleInit, handleLoadConfig, handleCheckAutologin,
      handleShowLogin, handleGetCredentials, handleSelectSession, handleStartSession,
      apply_ite (fun s : Step => s.machine.ctx.authState), Machine.withCtx_ctx, ite_self]
  case authenticate => exact absurd rfl kept
  all_goals (repeat' split) <;> rfl

/-- The calls an iteration of `STATE_AUTHENTICATE` makes on the tracked state:
the lockout check, then an attempt, then, when it succeeds, the reset. -/
def attemptCalls : List AuthOp :=
  [.isLockedOut input.clock, .authenticate (some m.ctx.username.str) (some m.ctx.password.str) m.globals input.auth,
    .resetAttempts]

/-- `handle_authenticate` leaves the tracked state a run of the authenticator's
calls leaves: the lockout check alone, or followed by the attempt, or by the
attempt and the reset. -/
theorem authenticate_auth_state (state : m.ctx.state = .authenticate) :
    ∃ ops, ops <+: attemptCalls m input ∧
      (controllerStep result m input).machine.ctx.authState = authRun m.ctx.config m.ctx.authState ops := by
  simp only [controllerStep, state, Step.invoked, handleAuthenticate]
  split_ifs
  · exact ⟨[.isLockedOut input.clock], ⟨_, rfl⟩, rfl⟩
  · exact ⟨attemptCalls m input, List.prefix_refl _, rfl⟩
  · exact ⟨(attemptCalls m input).take 2, List.take_prefix _ _, rfl⟩

end Step

/-- Every call of a run with positive clock readings keeps the invariant. -/
theorem auth_run_invariant {config : KiaConfig} (atLeastOne : 1 ≤ config.maxAttempts)
    (nonnegative : 0 ≤ config.lockoutDuration) (ops : List AuthOp) (positive : ∀ op ∈ ops, op.Positive)
    {state : AuthState} (invariant : LockoutInvariant config state) :
    LockoutInvariant config (authRun config state ops) := by
  induction ops generalizing state with
  | nil => exact invariant
  | cons op ops inductionHypothesis =>
    exact inductionHypothesis (fun later member => positive later (.tail _ member))
      (lockout_invariant_apply atLeastOne nonnegative op (positive op (.head _)) state invariant)

/-! ## The loop -/

/-- What the loop keeps: a configuration in range, the lockout invariant for
it, and a zero tracked state until `handle_load_config` has run. -/
structure LoopLockout (m : Machine) : Prop where
  ranges : ConfigRanges m.ctx.config
  policy : LockoutInvariant m.ctx.config m.ctx.authState
  fresh : m.ctx.state = .init ∨ m.ctx.state = .loadConfig → m.ctx.authState = AuthState.zero

/-- The answers the invariant needs of an iteration: a configuration in
range, as `config_load` leaves, and positive clock readings. -/
def Input.Sane (input : Input) : Prop :=
  ConfigRanges input.loaded ∧ 0 < input.clock ∧ 0 < input.auth.now ∧ 0 < input.auth.later

/-- One iteration keeps the invariant. -/
theorem loop_lockout_step {m : Machine} (kept : LoopLockout m) (result : Status) {input : Input}
    (sane : input.Sane) : LoopLockout (controllerStep result m input).machine := by
  obtain ⟨ranges, policy, fresh⟩ := kept
  have moves := controller_step_moves m input result
  by_cases loading : m.ctx.state = .loadConfig
  · have config := load_config_step_config m input result loading
    have counter := (controller_step_auth_state m input result (by rw [loading]; decide)).trans (fresh (.inr loading))
    rw [loading] at moves
    refine ⟨config ▸ sane.1, by rw [config, counter]; exact lockout_invariant_zero sane.1.1, fun setup => ?_⟩
    rcases moves with next | next <;> rw [next] at setup <;> simp at setup
  have config := controller_step_config m input result loading
  by_cases attempting : m.ctx.state = .authenticate
  · obtain ⟨ops, calls, counter⟩ := authenticate_auth_state m input result attempting
    have positive : ∀ op ∈ ops, op.Positive := by
      intro op member
      rcases List.mem_cons.mp (calls.subset member) with rfl | member
      · exact sane.2.1
      rcases List.mem_cons.mp member with rfl | member
      · exact ⟨sane.2.2.1, sane.2.2.2⟩
      rcases List.mem_singleton.mp member with rfl
      trivial
    rw [attempting] at moves
    refine ⟨config ▸ ranges, by rw [config, counter]; exact auth_run_invariant ranges.1 ranges.2.2.1 ops positive policy,
      fun setup => ?_⟩
    rcases moves with next | next <;> rw [next] at setup <;> simp at setup
  have counter := controller_step_auth_state m input result attempting
  refine ⟨config ▸ ranges, by rw [config, counter]; exact policy, fun setup => ?_⟩
  rw [counter]
  -- only `handle_init` moves to a set-up state: the phase never goes back
  obtain ⟨monotone, forward⟩ := moves.phase_le
  have early : (controllerStep result m input).machine.ctx.state.phase ≤ 1 := by
    rcases setup with next | next <;> rw [next] <;> decide
  generalize (controllerStep result m input).machine.ctx.state.phase = next at monotone forward early
  have initial : m.ctx.state = .init := by
    cases state : m.ctx.state <;> simp only [state, AppState.phase] at monotone forward ⊢ <;> omega
  exact fresh (.inl initial)

/-- A run whose iterations all have sane answers keeps the invariant. -/
theorem loop_lockout_run {m : Machine} (kept : LoopLockout m) (result : Status) (inputs : List Input)
    (sane : ∀ input ∈ inputs, input.Sane) : LoopLockout (controllerRun m result inputs).machine := by
  induction inputs generalizing m result with
  | nil =>
    unfold controllerRun
    split_ifs <;> exact kept
  | cons input rest inductionHypothesis =>
    have next := loop_lockout_step kept result (sane input (.head _))
    unfold controllerRun
    dsimp only
    split_ifs
    · exact next
    · exact inductionHypothesis next _ fun later member => sane later (.tail _ member)
    · exact kept

/-- In the loop `main` runs, with its configuration and every reload taken
from `config_load` and every clock reading positive, the tracked counter stays
in `[0, max_attempts]` and a lockout is set exactly when it is at the limit,
for the configuration in the context, after every number of iterations and
whenever a signal arrives. -/
theorem main_loop_lockout_invariant (creds : Creds) (startup : Startup)
    (started : ∃ file, startup.loaded = (configLoad file).2) (inputs : List Input)
    (loaded : ∀ input ∈ inputs, ∃ file, input.loaded = (configLoad file).2)
    (positive : ∀ input ∈ inputs, 0 < input.clock ∧ 0 < input.auth.now ∧ 0 < input.auth.later) (signal : Option Nat) :
    LockoutInvariant (signalledRun (loopMachine creds startup) .success inputs signal).machine.ctx.config
      (signalledRun (loopMachine creds startup) .success inputs signal).machine.ctx.authState := by
  have sane : ∀ input ∈ inputs, input.Sane := fun input member => by
    obtain ⟨file, read⟩ := loaded input member
    exact ⟨read ▸ config_load_ranges file, positive input member⟩
  obtain ⟨file, read⟩ := started
  have ranges : ConfigRanges startup.loaded := read ▸ config_load_ranges file
  have start : LoopLockout (loopMachine creds startup) :=
    ⟨ranges, lockout_invariant_zero ranges.1, fun _ => rfl⟩
  cases signal with
  | none => exact (loop_lockout_run start .success inputs sane).policy
  | some delay =>
    have before := loop_lockout_run start .success (inputs.take delay) fun input member =>
      sane input (List.mem_of_mem_take member)
    simp only [signalledRun]
    split
    · exact before.policy
    · -- the handler only sets the flag, outside the context
      have signalled : LoopLockout { (controllerRun (loopMachine creds startup) .success (inputs.take delay)).machine with
          globals := signalHandler (controllerRun (loopMachine creds startup) .success (inputs.take delay)).machine.globals } :=
        ⟨before.ranges, before.policy, before.fresh⟩
      exact (loop_lockout_run signalled .success (inputs.drop delay)
        fun input member => sane input (List.mem_of_mem_drop member)).policy

/-- `main` with one attempt allowed by its configuration file, a SIGTERM after
three iterations, and a round whose attempt PAM rejects: the rejection reaches
the limit and the lockout is set with it. -/
theorem lockout_kept_after_rejection :
    LockoutInvariant
      (signalledRun (loopMachine rootCreds { rootStartup with loaded := strictConfig }) .success
        (List.replicate 7 (attemptInput 100 0 7)) (some 3)).machine.ctx.config
      (signalledRun (loopMachine rootCreds { rootStartup with loaded := strictConfig }) .success
        (List.replicate 7 (attemptInput 100 0 7)) (some 3)).machine.ctx.authState :=
  have read : strictConfig = (configLoad (some ⟨ascii "max_attempts=1\n", false⟩)).2 := by decide
  main_loop_lockout_invariant rootCreds _ ⟨_, read⟩ _
    (fun input member => ⟨some ⟨ascii "max_attempts=1\n", false⟩, by rw [List.eq_of_mem_replicate member]; exact read⟩)
    (fun input member => by rw [List.eq_of_mem_replicate member]; decide) (some 3)

end Kia
