import Kia.Controller
import Kia.PrivilegeDrop

/-!
# Autologin

`handle_check_autologin` of `controller.c` over a non-empty catalogue. An
enabled autologin of a non-empty name that `user_exists` accepts always skips
the login screen: `find_default_session` answers an index of the catalogue
whether or not an entry is named `default_session`, falling back to the first
entry. The session selected is the first entry named `default_session`, or the
first entry when there is none.
-/

namespace Kia

/-- The index of the first entry named `name`, if one is. -/
def firstNamed (sessions : List SessionInfo) (name : CStr) : Option Nat :=
  sessions.findIdx? fun session => session.name = name

/-- The index an autologin selects: the first entry named `name`, or the first
entry when `name` is empty or no entry has it. -/
def autologinIndex (sessions : List SessionInfo) (name : CStr) : Nat :=
  if name.bytes = [] then 0 else (firstNamed sessions name).getD 0

theorem find_default_session_index (sessions : List SessionInfo) (name : CStr) :
    (findDefaultSession sessions name).1 = autologinIndex sessions name := by
  unfold findDefaultSession autologinIndex firstNamed
  by_cases unnamed : name.bytes = []
  · simp [unnamed]
  have named : (fun session : SessionInfo => decide (session.name.bytes ≠ [] ∧ session.name = name)) =
      fun session => decide (session.name = name) := by
    funext session
    by_cases same : session.name = name <;> simp [same, unnamed]
  by_cases empty : sessions = []
  · simp [empty]
  rw [if_neg (by tauto), if_neg unnamed, named]
  cases sessions.findIdx? fun session => decide (session.name = name) <;> rfl

/-- Over a non-empty catalogue, handle_check_autologin starts a session
exactly for an enabled autologin of a non-empty name that user_exists accepts,
with the first entry named default_session selected, or the first entry when
none is; in every other case it shows the login screen. -/
theorem check_autologin_outcome (m : Machine) (input : Input) (catalogue : m.ctx.sessions ≠ []) :
    let step := handleCheckAutologin m input
    let config := m.ctx.config
    (step.machine.ctx.state = .startSession ↔
        config.autologinEnabled = true ∧ config.autologinUser.bytes ≠ [] ∧
          (userExists config.autologinUser input.autologinLookup).1 = true) ∧
      (step.machine.ctx.state = .startSession →
        step.machine.ctx.selectedSession = autologinIndex m.ctx.sessions config.defaultSession) ∧
      (step.machine.ctx.state = .startSession ∨ step.machine.ctx.state = .showLogin) := by
  have found := find_default_session_range m.ctx.sessions m.ctx.config.defaultSession catalogue
  have index := find_default_session_index m.ctx.sessions m.ctx.config.defaultSession
  obtain ⟨session, entry⟩ := Option.isSome_iff_exists.mp found
  unfold handleCheckAutologin
  dsimp only
  split_ifs with enabled long missing
  · have wide : 255 < m.ctx.config.autologinUser.bytes.length := by
      rcases long with zero | wide
      · exact absurd (List.length_eq_zero.mp zero) enabled.2
      · omega
    have unknown : (userExists m.ctx.config.autologinUser input.autologinLookup).1 = false := by
      simp only [userExists]
      rw [if_pos (.inr wide)]
    simp [Machine.withCtx, unknown]
  · simp [Machine.withCtx, missing]
  · rw [entry]
    simp only [Machine.withCtx_ctx, index, true_and, or_false]
    simp_all
  · simp only [Machine.withCtx_ctx]
    simp_all

/-- Autologin of the account `u` into the shipped default session "xfce". -/
def shippedAutologinConfig : KiaConfig :=
  { KiaConfig.defaults with autologinUser := ⟨[117], by decide⟩, autologinEnabled := true }

/-- The machine at `STATE_CHECK_AUTOLOGIN` with that configuration and the
catalogue `[w]`. -/
def shippedAutologinMachine : Machine :=
  ⟨{ controllerInit with
      state := .checkAutologin
      config := shippedAutologinConfig
      sessions := [waylandSession] }, Globals.initial, rootCreds⟩

/-- Collaborators that all succeed; `getpwnam` finds `u`. -/
def accountFoundInput : Input :=
  { tuiInit := true
    loaded := shippedAutologinConfig
    loadResult := .success
    discovery := ⟨.success, [waylandSession], [], rfl⟩
    autologinLookup := .found ordinaryAccount
    credentials := ⟨.success, Buffer.zero 256, Buffer.zero 256, by decide⟩
    selection := 0
    clock := 1
    auth := ⟨1, 1, .locked, none, 0, 0, 0⟩
    launch := rootLaunch }

theorem check_autologin_outcome_shipped :
    shippedAutologinMachine.ctx.sessions ≠ [] ∧
      (((handleCheckAutologin shippedAutologinMachine accountFoundInput).machine.ctx.state = .startSession ↔
          shippedAutologinConfig.autologinEnabled = true ∧ shippedAutologinConfig.autologinUser.bytes ≠ [] ∧
            (userExists shippedAutologinConfig.autologinUser accountFoundInput.autologinLookup).1 = true) ∧
        ((handleCheckAutologin shippedAutologinMachine accountFoundInput).machine.ctx.state = .startSession →
          (handleCheckAutologin shippedAutologinMachine accountFoundInput).machine.ctx.selectedSession =
            autologinIndex [waylandSession] shippedAutologinConfig.defaultSession) ∧
        ((handleCheckAutologin shippedAutologinMachine accountFoundInput).machine.ctx.state = .startSession ∨
          (handleCheckAutologin shippedAutologinMachine accountFoundInput).machine.ctx.state = .showLogin)) :=
  ⟨by decide, check_autologin_outcome shippedAutologinMachine accountFoundInput (by decide)⟩

/-- No entry of the catalogue `[w]` is named "xfce", yet the autologin of `u`
starts a session: the first entry. -/
theorem absent_default_session_starts :
    firstNamed [waylandSession] KiaConfig.defaultSessionName = none ∧
      (handleCheckAutologin shippedAutologinMachine accountFoundInput).machine.ctx.state = .startSession ∧
      (handleCheckAutologin shippedAutologinMachine accountFoundInput).machine.ctx.selectedSession = 0 := by
  decide

end Kia
