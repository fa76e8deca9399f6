import Kia.Config

/-!
# The authenticator

`auth.c`: the per-run lockout state, the lazy expiry check, and one
authentication attempt against PAM bracketed by the VT-switch lock. The
identity provider, the terminal and the clock are the attempt's `AuthWorld`:
every answer they may give is a value of it, so a statement over all worlds is
a statement over all provider outcomes and all clock readings.

A call reads the clock at most twice: in the lockout check and afterwards,
either for the remaining-seconds message or for the start of a new lockout.
The two readings are independent fields; nothing forces the second to follow
the first.
-/

namespace Kia

/-- `auth_state_t`. The tracked identity is the string in its `char[256]`. -/
structure AuthState where
  username : CStr
  failedAttempts : Int
  lockoutUntil : Int
deriving DecidableEq

/-- The state of `auth_state_t state = {0}` and of a zeroed context. -/
def AuthState.zero : AuthState := ⟨CStr.empty, 0, 0⟩

/-- What `open("/dev/tty", O_RDWR)` and the `VT_LOCKSWITCH` ioctl do. -/
inductive TtyOutcome where
  | locked
  | openFailed (errno : Nat)
  | lockFailed (errno : Nat)
deriving DecidableEq

/-- The answers of everything `auth_authenticate` consults besides its arguments. -/
structure AuthWorld where
  /-- `time(NULL)` in the lockout check. -/
  now : Int
  /-- `time(NULL)` taken after the check: the remaining-seconds message or the
  start of a new lockout. -/
  later : Int
  tty : TtyOutcome
  /-- The errno of a failed `VT_UNLOCKSWITCH`, if it fails. -/
  unlock : Option Nat
  pamStart : Int
  pamAuthenticate : Int
  pamAcctMgmt : Int
deriving DecidableEq

/-- `tty_lock`: a descriptor that opens joins the process's open files and
stays there when the ioctl fails only until its `close`. -/
def ttyLock (globals : Globals) : TtyOutcome → Globals × List Event
  | .openFailed errno =>
      ({ globals with ttyFd := false },
        [.log .warn "Failed to open TTY for locking: %s" [.errno errno]])
  | .lockFailed errno =>
      ({ globals with ttyFd := false },
        [.log .warn "Failed to lock VT switching: %s" [.errno errno]])
  | .locked =>
      ({ globals with files := .vtLock :: globals.files, ttyFd := true },
        [.log .debug "TTY locked during authentication" []])

/-- `tty_unlock`: closes the descriptor of the last successful `tty_lock`. -/
def ttyUnlock (globals : Globals) (unlock : Option Nat) : Globals × List Event :=
  if globals.ttyFd then
    ({ globals with files := globals.files.erase .vtLock, ttyFd := false },
      (match unlock with
        | some errno => [.log .warn "Failed to unlock VT switching: %s" [.errno errno]]
        | none => []) ++
      [.log .debug "TTY unlocked after authentication" []])
  else
    (globals, [])

/-- `auth_is_locked_out`: true while a lockout is set and in the future; an
expired lockout is cleared together with the counter. -/
def authIsLockedOut (state : AuthState) (now : Int) : Bool × AuthState :=
  if state.lockoutUntil = 0 then
    (false, state)
  else if state.lockoutUntil ≤ now then
    (false, { state with lockoutUntil := 0, failedAttempts := 0 })
  else
    (true, state)

/-- `auth_reset_attempts`. -/
def authResetAttempts (state : AuthState) : AuthState :=
  { state with failedAttempts := 0, lockoutUntil := 0 }

/-- The tracked-identity update of `auth_authenticate`: a different identity
is copied with `strncpy` into the 256-byte array and gets a clean counter. -/
def trackUsername (state : AuthState) (user : CStr) : AuthState :=
  if state.username = user then state else ⟨user.take 255, 0, 0⟩

/-- The lockout check after a counted failure: reaching `max_attempts` sets
`lockout_until = time(NULL) + lockout_duration`. -/
def checkLockout (config : KiaConfig) (later : Int) (user : CStr) (state : AuthState) :
    AuthState × List Event :=
  if config.maxAttempts ≤ state.failedAttempts then
    ({ state with lockoutUntil := later + config.lockoutDuration },
      [.log .warn "User '%s' locked out after %d failed attempts"
        [.str user, .int state.failedAttempts]])
  else
    (state, [])

/-- One more counted failure. -/
def countFailure (state : AuthState) : AuthState :=
  { state with failedAttempts := state.failedAttempts + 1 }

/-- The outcome of one `auth_authenticate` call: its return code, the state
behind its `state` pointer, the process globals and what it did. -/
structure AuthCall where
  result : Status
  state : Option AuthState
  globals : Globals
  events : List Event

/-- The PAM part of `auth_authenticate`, entered with the VT lock attempted:
`pam_start`, then `pam_authenticate`, then `pam_acct_mgmt`; every exit unlocks. -/
def pamStage (user : CStr) (config : KiaConfig) (state : AuthState) (globals : Globals)
    (world : AuthWorld) : AuthCall :=
  let started := Event.pamStart user world.pamStart
  let unlocked := ttyUnlock globals world.unlock
  if world.pamStart ≠ 0 then
    ⟨.errorPam, some state, unlocked.1,
      [started, .log .error "PAM initialization failed: %s" [.pamError world.pamStart]] ++
        unlocked.2⟩
  else if world.pamAuthenticate = 0 then
    let checked := [started, .pamAuthenticate user 0, .pamAcctMgmt user world.pamAcctMgmt]
    if world.pamAcctMgmt ≠ 0 then
      let locked := checkLockout config world.later user (countFailure state)
      ⟨.errorAuth, some locked.1, unlocked.1,
        checked ++ [.log .error "PAM account verification failed for user '%s': %s"
          [.str user, .pamError world.pamAcctMgmt]] ++ locked.2 ++ unlocked.2⟩
    else
      ⟨.success, some (authResetAttempts state), unlocked.1,
        checked ++ [.log .info "User '%s' authenticated successfully" [.str user]] ++ unlocked.2⟩
  else
    let counted := countFailure state
    let locked := checkLockout config world.later user counted
    ⟨.errorAuth, some locked.1, unlocked.1,
      [started, .pamAuthenticate user world.pamAuthenticate,
        .log .error "Authentication failed for user '%s' (attempt %d/%d): %s"
          [.str user, .int counted.failedAttempts, .int config.maxAttempts,
            .pamError world.pamAuthenticate]] ++ locked.2 ++ unlocked.2⟩

/-- `auth_authenticate(username, password, config, state)`. A `none` argument
is a NULL pointer. The remaining seconds are cast to a 32-bit `int`. -/
def authAuthenticate (username password : Option CStr) (config : Option KiaConfig)
    (state : Option AuthState) (globals : Globals) (world : AuthWorld) : AuthCall :=
  match username, password, config, state with
  | some user, some _, some config, some state =>
      let checked := authIsLockedOut state world.now
      if checked.1 then
        ⟨.errorAuth, some checked.2, globals,
          [.log .warn "User '%s' is locked out for %d more seconds"
            [.str user, .int ((checked.2.lockoutUntil - world.later).bmod 4294967296)]]⟩
      else
        let locking := ttyLock globals world.tty
        let attempt := pamStage user config (trackUsername checked.2 user) locking.1 world
        { attempt with events := locking.2 ++ attempt.events }
  | _, _, _, _ => ⟨.errorAuth, state, globals, [.log .error "Invalid parameters to auth_authenticate" []]⟩

/-- `auth_init`: PAM is started per attempt, so there is nothing to set up. -/
def authInit : Status × List Event :=
  (.success, [.log .info "Authentication module initialized" []])

/-- `auth_cleanup`: no PAM handle outlives an attempt; the VT lock is released. -/
def authCleanup (globals : Globals) (unlock : Option Nat) : Globals × List Event :=
  ((ttyUnlock globals unlock).1,
    (ttyUnlock globals unlock).2 ++ [.log .info "Authentication module cleaned up" []])

/-- A call into the identity provider. -/
def Event.IsProviderCall : Event → Prop
  | .pamStart _ _ | .pamAuthenticate _ _ | .pamAcctMgmt _ _ => True
  | _ => False

/-- What an attempt does: log calls and calls into the identity provider. -/
def Event.isAttempt : Event → Bool
  | .log _ _ _ | .pamStart _ _ | .pamAuthenticate _ _ | .pamAcctMgmt _ _ => true
  | _ => false

section Globals

variable (globals : Globals)

/-- Locking and unlocking from an unlocked process closes what it opened. -/
theorem tty_unlock_lock (outcome : TtyOutcome) (unlock : Option Nat)
    (unlocked : globals.ttyFd = false) :
    (ttyUnlock (ttyLock globals outcome).1 unlock).1 = globals := by
  cases globals
  cases outcome <;> simp_all [ttyLock, ttyUnlock]

theorem pam_stage_globals (user : CStr) (config : KiaConfig) (state : AuthState)
    (world : AuthWorld) :
    (pamStage user config state globals world).globals = (ttyUnlock globals world.unlock).1 := by
  unfold pamStage
  split_ifs <;> rfl

/-- An attempt made while no VT lock is held leaves the process as it found it. -/
theorem auth_authenticate_globals (username password : Option CStr) (config : Option KiaConfig)
    (state : Option AuthState) (world : AuthWorld) (unlocked : globals.ttyFd = false) :
    (authAuthenticate username password config state globals world).globals = globals := by
  unfold authAuthenticate
  split
  · dsimp only
    split_ifs
    · rfl
    · exact (pam_stage_globals _ _ _ _ _).trans (tty_unlock_lock globals _ _ unlocked)
  · rfl

end Globals

section Attempt

variable (user password : CStr) (config : KiaConfig) (state : AuthState) (globals : Globals)
  (world : AuthWorld)

/-- Every exit of the PAM part: `pam_start` failing leaves the state, a
rejection by either PAM call counts a failure, acceptance resets the counter. -/
theorem pam_stage_cases :
    let call := pamStage user config state globals world
    (world.pamStart ≠ 0 ∧ call.result = .errorPam ∧ call.state = some state) ∨
    (world.pamStart = 0 ∧ (world.pamAuthenticate ≠ 0 ∨ world.pamAcctMgmt ≠ 0) ∧
      call.result = .errorAuth ∧
      call.state = some (checkLockout config world.later user (countFailure state)).1) ∨
    (world.pamStart = 0 ∧ world.pamAuthenticate = 0 ∧ world.pamAcctMgmt = 0 ∧
      call.result = .success ∧ call.state = some (authResetAttempts state)) := by
  unfold pamStage
  by_cases started : world.pamStart = 0 <;> by_cases accepted : world.pamAuthenticate = 0 <;>
    by_cases valid : world.pamAcctMgmt = 0 <;> simp [started, accepted, valid]

/-- Acceptance is reported only after both PAM calls accepted the identity. -/
theorem pam_stage_success (success : (pamStage user config state globals world).result = .success) :
    Event.pamAuthenticate user 0 ∈ (pamStage user config state globals world).events ∧
      Event.pamAcctMgmt user 0 ∈ (pamStage user config state globals world).events := by
  rcases pam_stage_cases user config state globals world with
    ⟨-, failed, -⟩ | ⟨-, -, failed, -⟩ | ⟨started, accepted, valid, -, -⟩
  · simp [failed] at success
  · simp [failed] at success
  · simp [pamStage, started, accepted, valid]

/-- Every exit of the PAM part comes after its `pam_start` call. -/
theorem pam_stage_started :
    Event.pamStart user world.pamStart ∈ (pamStage user config state globals world).events := by
  unfold pamStage
  split_ifs <;> simp

theorem check_lockout_username (later : Int) :
    (checkLockout config later user state).1.username = state.username := by
  unfold checkLockout
  split_ifs <;> rfl

/-- The PAM part never changes the tracked identity. -/
theorem pam_stage_username :
    (pamStage user config state globals world).state.map AuthState.username = some state.username := by
  unfold pamStage
  split_ifs <;> simp [check_lockout_username, countFailure, authResetAttempts]

/-- A refusal by the lockout check makes no other call. -/
theorem auth_authenticate_locked (locked : (authIsLockedOut state world.now).1 = true) :
    authAuthenticate (some user) (some password) (some config) (some state) globals world =
      ⟨.errorAuth, some (authIsLockedOut state world.now).2, globals,
        [.log .warn "User '%s' is locked out for %d more seconds"
          [.str user, .int (((authIsLockedOut state world.now).2.lockoutUntil - world.later).bmod
            4294967296)]]⟩ := by
  simp [authAuthenticate, locked]

/-- Past the lockout check the attempt tracks the identity, takes the VT lock
and runs the PAM part. -/
theorem auth_authenticate_unlocked (unlocked : (authIsLockedOut state world.now).1 = false) :
    authAuthenticate (some user) (some password) (some config) (some state) globals world =
      let attempt := pamStage user config (trackUsername (authIsLockedOut state world.now).2 user)
        (ttyLock globals world.tty).1 world
      { attempt with events := (ttyLock globals world.tty).2 ++ attempt.events } := by
  simp [authAuthenticate, unlocked]

/-- The secret is passed on and never inspected. -/
theorem auth_authenticate_password (username : Option CStr) (other : CStr)
    (config : Option KiaConfig) (state : Option AuthState) :
    authAuthenticate username (some password) config state globals world =
      authAuthenticate username (some other) config state globals world := by
  cases username <;> cases config <;> cases state <;> rfl

/-- An attempt that succeeds had both PAM calls accept the identity. -/
theorem auth_authenticate_success
    (success : (authAuthenticate (some user) (some password) (some config) (some state) globals
      world).result = .success) :
    Event.pamAuthenticate user 0 ∈
        (authAuthenticate (some user) (some password) (some config) (some state) globals world).events ∧
      Event.pamAcctMgmt user 0 ∈
        (authAuthenticate (some user) (some password) (some config) (some state) globals world).events := by
  cases locked : (authIsLockedOut state world.now).1
  · rw [auth_authenticate_unlocked user password config state globals world locked] at success ⊢
    have accepted := pam_stage_success user config _ _ world success
    exact ⟨List.mem_append_right _ accepted.1, List.mem_append_right _ accepted.2⟩
  · rw [auth_authenticate_locked user password config state globals world locked] at success
    cases success

/-- Whatever the identity and the secret are, empty strings included, a call
that passes the lockout check takes the VT lock, calls `pam_start` with the
identity and leaves an identity of at most 255 bytes tracked. -/
theorem auth_authenticate_reaches_provider (short : user.bytes.length ≤ 255)
    (unlocked : (authIsLockedOut state world.now).1 = false) :
    let call := authAuthenticate (some user) (some password) (some config) (some state) globals world
    (ttyLock globals world.tty).2 <+: call.events ∧ Event.pamStart user world.pamStart ∈ call.events ∧
      call.state.map AuthState.username = some user := by
  rw [auth_authenticate_unlocked user password config state globals world unlocked]
  refine ⟨List.prefix_append _ _, List.mem_append_right _ (pam_stage_started _ _ _ _ _), ?_⟩
  rw [pam_stage_username, trackUsername]
  split_ifs with same
  · exact congrArg some same
  · exact congrArg some (CStr.take_of_length_le short)

end Attempt

/-- A NULL argument is refused before anything else: the state and the
process are left as they were and only the refusal is logged. -/
theorem auth_authenticate_null (username password : Option CStr) (config : Option KiaConfig)
    (state : Option AuthState) (globals : Globals) (world : AuthWorld)
    (null : username = none ∨ password = none ∨ config = none ∨ state = none) :
    authAuthenticate username password config state globals world =
      ⟨.errorAuth, state, globals, [.log .error "Invalid parameters to auth_authenticate" []]⟩ := by
  unfold authAuthenticate
  split
  · simp at null
  · rfl

/-- The call `auth_authenticate("", "p", cfg, s)` with the default
configuration and `s` tracking "a" with two counted failures, where the VT lock
and `pam_start` succeed and `pam_authenticate` rejects. -/
def emptyNameAttempt : AuthCall :=
  authAuthenticate (some CStr.empty) (some ⟨[112], by decide⟩) (some KiaConfig.defaults)
    (some ⟨⟨[97], by decide⟩, 2, 0⟩) Globals.initial ⟨100, 100, .locked, none, 0, 7, 0⟩

/-- An empty identity is not refused: the call takes the VT lock, reaches the
identity provider, and its rejection replaces the tracked identity and the
count. -/
theorem empty_username_reaches_provider :
    emptyNameAttempt.result = .errorAuth ∧
      Event.log .debug "TTY locked during authentication" [] ∈ emptyNameAttempt.events ∧
      Event.pamStart CStr.empty 0 ∈ emptyNameAttempt.events ∧ emptyNameAttempt.state = some ⟨CStr.empty, 1, 0⟩ := by
  decide

/-! ## What an attempt does -/

theorem tty_lock_attempt (globals : Globals) (outcome : TtyOutcome) :
    (ttyLock globals outcome).2.all Event.isAttempt := by
  cases outcome <;> rfl

theorem tty_unlock_attempt (globals : Globals) (unlock : Option Nat) :
    (ttyUnlock globals unlock).2.all Event.isAttempt := by
  unfold ttyUnlock
  split_ifs
  · cases unlock <;> rfl
  · rfl

theorem check_lockout_attempt (config : KiaConfig) (later : Int) (user : CStr) (state : AuthState) :
    (checkLockout config later user state).2.all Event.isAttempt := by
  unfold checkLockout
  split_ifs <;> rfl

theorem pam_stage_attempt (user : CStr) (config : KiaConfig) (state : AuthState) (globals : Globals)
    (world : AuthWorld) : (pamStage user config state globals world).events.all Event.isAttempt := by
  unfold pamStage
  split_ifs <;> simp only [List.all_append, tty_unlock_attempt, check_lockout_attempt] <;> rfl

/-- An attempt only logs and calls the identity provider. -/
theorem auth_authenticate_attempt (username password : Option CStr) (config : Option KiaConfig)
    (state : Option AuthState) (globals : Globals) (world : AuthWorld) :
    (authAuthenticate username password config state globals world).events.all Event.isAttempt := by
  unfold authAuthenticate
  split
  · dsimp only
    split_ifs
    · rfl
    · simp only [List.all_append, tty_lock_attempt, pam_stage_attempt, Bool.and_self]
  · rfl

end Kia
