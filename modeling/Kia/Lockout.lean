import Kia.Auth

/-!
# The lockout policy over whole runs

A run of the authenticator is any sequence of the three calls the program
makes on one `auth_state_t`: `auth_is_locked_out`, `auth_authenticate` and
`auth_reset_attempts`, with one configuration throughout. Each call carries
everything it reads, so a statement over all call sequences covers every
identity, secret, provider outcome and clock reading.

From the zeroed state every reachable state keeps the counter in
`[0, max_attempts]` and has a lockout exactly at the limit; the lockout then
holds the clock reading of the attempt that reached the limit, plus the
configured duration. The proof needs `max_attempts ≥ 1`, a nonnegative
duration and positive clock readings, and nothing about the order of the
readings.
-/

namespace Kia

/-- One call on the tracked state, with everything it reads. -/
inductive AuthOp where
  | isLockedOut (now : Int)
  | authenticate (username password : Option CStr) (globals : Globals) (world : AuthWorld)
  | resetAttempts

namespace AuthOp

/-- The state a call leaves behind it. -/
def apply (config : KiaConfig) (state : AuthState) : AuthOp → AuthState
  | isLockedOut now => (authIsLockedOut state now).2
  | authenticate username password globals world =>
      ((authAuthenticate username password (some config) (some state) globals world).state).getD
        state
  | resetAttempts => authResetAttempts state

/-- Every clock reading the call may take is positive. -/
def Positive : AuthOp → Prop
  | isLockedOut now => 0 < now
  | authenticate _ _ _ world => 0 < world.now ∧ 0 < world.later
  | resetAttempts => True

end AuthOp

/-- The state after a sequence of calls. -/
def authRun (config : KiaConfig) (state : AuthState) (ops : List AuthOp) : AuthState :=
  ops.foldl (AuthOp.apply config) state

@[simp] theorem auth_run_snoc (config : KiaConfig) (state : AuthState) (ops : List AuthOp)
    (op : AuthOp) : authRun config state (ops ++ [op]) = op.apply config (authRun config state ops) :=
  List.foldl_append _ _ _ _

/-- `0 ≤ failed_attempts ≤ max_attempts`, and a lockout is set exactly at the limit. -/
structure LockoutInvariant (config : KiaConfig) (state : AuthState) : Prop where
  nonneg : 0 ≤ state.failedAttempts
  bounded : state.failedAttempts ≤ config.maxAttempts
  locked_iff : state.lockoutUntil ≠ 0 ↔ state.failedAttempts = config.maxAttempts

/-- A state with a clean counter and no lockout. -/
def AuthState.Clean (state : AuthState) : Prop := state.failedAttempts = 0 ∧ state.lockoutUntil = 0

/-- A call that passes the lockout check holds a state without a lockout. -/
theorem is_locked_out_passed {state : AuthState} {now : Int}
    (passed : (authIsLockedOut state now).1 = false) :
    (authIsLockedOut state now).2 = state ∧ state.lockoutUntil = 0 ∨
      (authIsLockedOut state now).2.Clean := by
  unfold authIsLockedOut at *
  split_ifs at * with unset
  · exact .inl ⟨rfl, unset⟩
  · exact .inr ⟨rfl, rfl⟩

/-- Everything a call can do to the state: nothing, clear it, or count a
rejection of an attempt that passed the lockout check. The counted state is
the stored one or a clean one, and holds no lockout. -/
theorem apply_cases (config : KiaConfig) (op : AuthOp) (state : AuthState) :
    op.apply config state = state ∨ (op.apply config state).Clean ∨
      ∃ user password globals world tracked,
        op = .authenticate (some user) (some password) globals world ∧
        (authIsLockedOut state world.now).1 = false ∧ tracked.lockoutUntil = 0 ∧
        (tracked = state ∨ tracked.failedAttempts = 0) ∧
        op.apply config state = (checkLockout config world.later user (countFailure tracked)).1 := by
  cases op with
  | isLockedOut now =>
    show (authIsLockedOut state now).2 = state ∨ (authIsLockedOut state now).2.Clean ∨ _
    unfold authIsLockedOut
    split_ifs
    · exact .inl rfl
    · exact .inr (.inl ⟨rfl, rfl⟩)
    · exact .inl rfl
  | resetAttempts => exact .inr (.inl ⟨rfl, rfl⟩)
  | authenticate username password globals world =>
    rcases username with _ | user
    · exact .inl rfl
    rcases password with _ | password
    · exact .inl rfl
    cases locked : (authIsLockedOut state world.now).1
    · have tracking : (trackUsername (authIsLockedOut state world.now).2 user = state ∧
          state.lockoutUntil = 0) ∨ (trackUsername (authIsLockedOut state world.now).2 user).Clean := by
        unfold trackUsername
        rcases is_locked_out_passed locked with ⟨same, unset⟩ | clean <;> split_ifs
        · exact .inl ⟨same, unset⟩
        · exact .inr ⟨rfl, rfl⟩
        · exact .inr clean
        · exact .inr ⟨rfl, rfl⟩
      simp only [AuthOp.apply, auth_authenticate_unlocked _ _ _ _ _ _ locked]
      rcases pam_stage_cases user config (trackUsername (authIsLockedOut state world.now).2 user)
          (ttyLock globals world.tty).1 world with ⟨-, -, kept⟩ | ⟨-, -, -, counted⟩ | ⟨-, -, -, -, reset⟩
      · rw [kept]
        exact tracking.imp And.left .inl
      · rw [counted]
        rcases tracking with ⟨same, unset⟩ | clean
        · exact .inr (.inr ⟨user, password, globals, world, _, rfl, locked,
            (congrArg AuthState.lockoutUntil same).trans unset, .inl same, rfl⟩)
        · exact .inr (.inr ⟨user, password, globals, world, _, rfl, locked, clean.2, .inr clean.1, rfl⟩)
      · rw [reset]
        exact .inr (.inl ⟨rfl, rfl⟩)
    · simp only [AuthOp.apply, auth_authenticate_locked _ _ _ _ _ _ locked]
      refine .inl ?_
      unfold authIsLockedOut at locked ⊢
      split_ifs at locked ⊢
      rfl

section Policy

variable {config : KiaConfig} (atLeastOne : 1 ≤ config.maxAttempts)
  (nonnegative : 0 ≤ config.lockoutDuration)

include atLeastOne in
theorem lockout_invariant_clean {state : AuthState} (clean : state.Clean) :
    LockoutInvariant config state := by
  obtain ⟨zeroCount, unset⟩ := clean
  exact ⟨by omega, by omega, by simp only [zeroCount, unset]; omega⟩

include nonnegative in
/-- A rejection counted from a state below the limit reaches at most the limit,
and sets a lockout exactly when it reaches it. -/
theorem lockout_invariant_count {state : AuthState} (later : Int) (positive : 0 < later)
    (user : CStr) (unset : state.lockoutUntil = 0)
    (below : 0 ≤ state.failedAttempts ∧ state.failedAttempts < config.maxAttempts) :
    LockoutInvariant config (checkLockout config later user (countFailure state)).1 := by
  unfold checkLockout countFailure
  split_ifs with reached <;> constructor <;> dsimp only at reached ⊢ <;> omega

include atLeastOne in
theorem lockout_invariant_zero : LockoutInvariant config AuthState.zero :=
  lockout_invariant_clean atLeastOne ⟨rfl, rfl⟩

include atLeastOne in
/-- The state a rejection is counted on is below the limit. -/
theorem tracked_below {state tracked : AuthState} (invariant : LockoutInvariant config state)
    (unset : tracked.lockoutUntil = 0) (origin : tracked = state ∨ tracked.failedAttempts = 0) :
    0 ≤ tracked.failedAttempts ∧ tracked.failedAttempts < config.maxAttempts := by
  rcases origin with rfl | zeroCount
  · have notLocked := invariant.locked_iff
    have bounded := invariant.bounded
    simp only [unset, ne_eq, not_true_eq_false, false_iff] at notLocked
    exact ⟨invariant.nonneg, by omega⟩
  · omega

include atLeastOne nonnegative in
/-- Every call preserves the invariant. -/
theorem lockout_invariant_apply (op : AuthOp) (positive : op.Positive) (state : AuthState)
    (invariant : LockoutInvariant config state) : LockoutInvariant config (op.apply config state) := by
  rcases apply_cases config op state with same | clean |
      ⟨user, password, globals, world, tracked, rfl, -, unset, origin, counted⟩
  · rw [same]; exact invariant
  · exact lockout_invariant_clean atLeastOne clean
  · rw [counted]
    exact lockout_invariant_count nonnegative world.later positive.2 user unset
      (tracked_below atLeastOne invariant unset origin)

include atLeastOne in
/-- A lockout present after a call is the stored one, kept together with the
counter, or was set by this very call: an attempt that passed the lockout check
and whose counted rejection reached the limit at its later clock reading. -/
theorem apply_lockout_origin (op : AuthOp) (state : AuthState)
    (invariant : LockoutInvariant config state) (set : (op.apply config state).lockoutUntil ≠ 0) :
    ((op.apply config state).lockoutUntil = state.lockoutUntil ∧
      (op.apply config state).failedAttempts = state.failedAttempts) ∨
    ∃ username password globals world, op = .authenticate username password globals world ∧
      (authIsLockedOut state world.now).1 = false ∧
      (op.apply config state).failedAttempts = config.maxAttempts ∧
      (op.apply config state).lockoutUntil = world.later + config.lockoutDuration := by
  rcases apply_cases config op state with same | clean |
      ⟨user, password, globals, world, tracked, rfl, passed, unset, origin, counted⟩
  · rw [same]; exact .inl ⟨rfl, rfl⟩
  · exact absurd clean.2 set
  · have below := tracked_below atLeastOne invariant unset origin
    rw [counted] at set ⊢
    unfold checkLockout countFailure at set ⊢
    split_ifs at set ⊢ with reached
    · exact .inr ⟨some user, some password, globals, world, rfl, passed, by dsimp only at reached ⊢; omega, rfl⟩
    · exact absurd unset set

end Policy

/-- From the zeroed state, every run of the three calls under one configuration
with `max_attempts ≥ 1`, a nonnegative `lockout_duration` and positive clock
readings keeps `0 ≤ failed_attempts ≤ max_attempts` and has a lockout exactly at
the limit. A lockout in place was set by an attempt of the run that passed the
lockout check, to that attempt's clock reading plus the duration; the counter
has stood at the limit and the lockout at that value ever since.

Proof: induction on the run from its end. The invariant is preserved by every
call; a present lockout was either kept by the last call, which extends the
earlier witness by one call, or set by it, which is a witness with nothing after. -/
theorem lockout_reachable_invariant (config : KiaConfig) (atLeastOne : 1 ≤ config.maxAttempts)
    (nonnegative : 0 ≤ config.lockoutDuration) (ops : List AuthOp)
    (positive : ∀ op ∈ ops, op.Positive) :
    LockoutInvariant config (authRun config AuthState.zero ops) ∧
    ((authRun config AuthState.zero ops).lockoutUntil ≠ 0 →
      ∃ before username password globals world after,
        ops = before ++ AuthOp.authenticate username password globals world :: after ∧
        (authIsLockedOut (authRun config AuthState.zero before) world.now).1 = false ∧
        ∀ middle, middle <+: after →
          (authRun config AuthState.zero
              (before ++ AuthOp.authenticate username password globals world :: middle)).failedAttempts =
            config.maxAttempts ∧
          (authRun config AuthState.zero
              (before ++ AuthOp.authenticate username password globals world :: middle)).lockoutUntil =
            world.later + config.lockoutDuration) := by
  induction ops using List.reverseRecOn with
  | nil => exact ⟨lockout_invariant_zero atLeastOne, fun set => absurd rfl set⟩
  | append_singleton ops op inductionHypothesis =>
    obtain ⟨invariant, origin⟩ :=
      inductionHypothesis (fun earlier member => positive earlier (List.mem_append_left _ member))
    have opPositive : op.Positive := positive op (List.mem_append_right _ (List.mem_singleton_self _))
    refine ⟨by simpa using lockout_invariant_apply atLeastOne nonnegative op opPositive _ invariant,
      fun set => ?_⟩
    rw [auth_run_snoc] at set
    rcases apply_lockout_origin atLeastOne op _ invariant set with ⟨kept, sameCount⟩ |
        ⟨username, password, globals, world, rfl, passed, reached, started⟩
    · obtain ⟨before, username, password, globals, world, after, rfl, passed, held⟩ :=
        origin (kept ▸ set)
      refine ⟨before, username, password, globals, world, after ++ [op], by simp, passed, ?_⟩
      intro middle prefixOf
      rcases List.prefix_concat_iff.mp prefixOf with rfl | earlier
      · obtain ⟨heldCount, heldLockout⟩ := held after (List.prefix_refl after)
        have whole : before ++ AuthOp.authenticate username password globals world :: (after ++ [op]) =
            (before ++ AuthOp.authenticate username password globals world :: after) ++ [op] := by simp
        rw [whole, auth_run_snoc]
        exact ⟨sameCount.trans heldCount, kept.trans heldLockout⟩
      · exact held middle earlier
    · refine ⟨ops, username, password, globals, world, [], rfl, passed, ?_⟩
      intro middle prefixOf
      rw [List.prefix_nil.mp prefixOf, auth_run_snoc]
      exact ⟨reached, started⟩

/-- The invariant after one rejection of `a` under the defaults: the counter
stands at one of the three attempts allowed and no lockout is set. -/
theorem lockout_invariant_after_rejections :
    1 ≤ KiaConfig.defaults.maxAttempts ∧ 0 ≤ KiaConfig.defaults.lockoutDuration ∧
      LockoutInvariant KiaConfig.defaults (authRun KiaConfig.defaults AuthState.zero
        [.authenticate (some ⟨[97], by decide⟩) (some ⟨[120], by decide⟩) Globals.initial
          ⟨100, 100, .locked, none, 0, 7, 0⟩]) :=
  ⟨by decide, by decide, (lockout_reachable_invariant KiaConfig.defaults (by decide) (by decide) _
    (fun op member => by
      simp only [List.mem_singleton] at member
      subst member
      exact ⟨by decide, by decide⟩)).1⟩

/-! ## Consecutive rejections of one identity -/

/-- The calls `auth_authenticate(user, password, config, state)` of a run, one
per password, process state and world. -/
def attemptsOf (user : CStr) (calls : List (CStr × Globals × AuthWorld)) : List AuthOp :=
  calls.map fun call => .authenticate (some user) (some call.1) call.2.1 call.2.2

/-- The call reaches the identity provider, which rejects it, and its later
clock reading is positive. -/
def Rejected (call : CStr × Globals × AuthWorld) : Prop :=
  call.2.2.pamStart = 0 ∧ (call.2.2.pamAuthenticate ≠ 0 ∨ call.2.2.pamAcctMgmt ≠ 0) ∧
    0 < call.2.2.later

/-- A rejected attempt past the lockout check counts one failure on the tracked state. -/
theorem apply_rejected (config : KiaConfig) (user : CStr) (call : CStr × Globals × AuthWorld)
    (rejected : Rejected call) (state : AuthState)
    (passed : (authIsLockedOut state call.2.2.now).1 = false) :
    (AuthOp.authenticate (some user) (some call.1) call.2.1 call.2.2).apply config state =
      (checkLockout config call.2.2.later user
        (countFailure (trackUsername (authIsLockedOut state call.2.2.now).2 user))).1 := by
  obtain ⟨started, refused, -⟩ := rejected
  simp only [AuthOp.apply, auth_authenticate_unlocked _ _ _ _ _ _ passed]
  rcases pam_stage_cases user config (trackUsername (authIsLockedOut state call.2.2.now).2 user)
      (ttyLock call.2.1 call.2.2.tty).1 call.2.2 with
    ⟨failed, -⟩ | ⟨-, -, -, counted⟩ | ⟨-, accepted, valid, -⟩
  · exact absurd started failed
  · rw [counted]; rfl
  · omega

/-- The lockout check keeps the tracked identity, and so does the clearing of an
expired lockout. -/
theorem is_locked_out_username (state : AuthState) (now : Int) :
    (authIsLockedOut state now).2.username = state.username := by
  unfold authIsLockedOut
  split_ifs <;> rfl

/-- The counted state after a rejection reaches the lockout exactly at the limit. -/
theorem check_lockout_count (config : KiaConfig) (nonnegative : 0 ≤ config.lockoutDuration)
    (later : Int) (positive : 0 < later) (user : CStr) (state : AuthState)
    (unset : state.lockoutUntil = 0) :
    let next := (checkLockout config later user (countFailure state)).1
    next.username = state.username ∧ next.failedAttempts = state.failedAttempts + 1 ∧
      (next.lockoutUntil ≠ 0 ↔ config.maxAttempts ≤ state.failedAttempts + 1) := by
  unfold checkLockout countFailure
  split_ifs with reached <;> refine ⟨rfl, rfl, ?_⟩ <;> dsimp only at reached ⊢ <;> omega

/-- An identity that is tracked already keeps counting: one more rejection. -/
theorem rejected_tracked (config : KiaConfig) (nonnegative : 0 ≤ config.lockoutDuration)
    (user : CStr) (call : CStr × Globals × AuthWorld) (rejected : Rejected call)
    (state : AuthState) (tracked : state.username = user) (unset : state.lockoutUntil = 0) :
    let next := (AuthOp.authenticate (some user) (some call.1) call.2.1 call.2.2).apply config state
    next.username = user ∧ next.failedAttempts = state.failedAttempts + 1 ∧
      (next.lockoutUntil ≠ 0 ↔ config.maxAttempts ≤ state.failedAttempts + 1) := by
  have unchanged : authIsLockedOut state call.2.2.now = (false, state) := by
    simp [authIsLockedOut, unset]
  have kept : trackUsername state user = state := by simp [trackUsername, tracked]
  rw [apply_rejected config user call rejected state (by rw [unchanged]), unchanged]
  simp only [kept]
  obtain ⟨sameName, counted, locking⟩ :=
    check_lockout_count config nonnegative _ rejected.2.2 user state unset
  exact ⟨sameName.trans tracked, counted, locking⟩

/-- An identity other than the tracked one starts over: its first rejection
leaves a count of one under the stored copy of its first 255 bytes. -/
theorem rejected_fresh (config : KiaConfig) (nonnegative : 0 ≤ config.lockoutDuration)
    (user : CStr) (call : CStr × Globals × AuthWorld) (rejected : Rejected call)
    (state : AuthState) (fresh : state.username ≠ user)
    (passed : (authIsLockedOut state call.2.2.now).1 = false) :
    let next := (AuthOp.authenticate (some user) (some call.1) call.2.1 call.2.2).apply config state
    next.username = user.take 255 ∧ next.failedAttempts = 1 ∧
      (next.lockoutUntil ≠ 0 ↔ config.maxAttempts ≤ 1) := by
  have switched : trackUsername (authIsLockedOut state call.2.2.now).2 user = ⟨user.take 255, 0, 0⟩ := by
    simp [trackUsername, is_locked_out_username, fresh]
  rw [apply_rejected config user call rejected state passed, switched]
  exact check_lockout_count config nonnegative _ rejected.2.2 user ⟨user.take 255, 0, 0⟩ rfl

/-- For an identity of at most 255 bytes the count is exact: from a state that
is not locked out and tracks another identity, `k ≤ max_attempts` consecutive
rejections leave `failed_attempts = k`, with a lockout exactly at `k = max_attempts`. -/
theorem short_identity_rejections (config : KiaConfig) (nonnegative : 0 ≤ config.lockoutDuration)
    (user : CStr) (short : user.bytes.length ≤ 255) (state : AuthState) (fresh : state.username ≠ user)
    (first : CStr × Globals × AuthWorld) (rest : List (CStr × Globals × AuthWorld))
    (rejected : ∀ call ∈ first :: rest, Rejected call)
    (passed : (authIsLockedOut state first.2.2.now).1 = false)
    (within : rest.length + 1 ≤ config.maxAttempts) :
    let final := authRun config state (attemptsOf user (first :: rest))
    final.failedAttempts = rest.length + 1 ∧
      (final.lockoutUntil ≠ 0 ↔ (rest.length + 1 : Int) = config.maxAttempts) := by
  obtain ⟨tracked, once, locked⟩ := rejected_fresh config nonnegative user first
    (rejected first (List.mem_cons_self _ _)) state fresh passed
  rw [CStr.take_of_length_le short] at tracked
  suffices counting : ∀ (calls : List (CStr × Globals × AuthWorld)) (current : AuthState),
      (∀ call ∈ calls, Rejected call) → current.username = user →
      calls.length + current.failedAttempts ≤ config.maxAttempts →
      (current.lockoutUntil ≠ 0 ↔ current.failedAttempts = config.maxAttempts) →
      (authRun config current (attemptsOf user calls)).failedAttempts =
          calls.length + current.failedAttempts ∧
        ((authRun config current (attemptsOf user calls)).lockoutUntil ≠ 0 ↔
          calls.length + current.failedAttempts = config.maxAttempts) by
    have atOne := counting rest _ (fun call member => rejected call (List.mem_cons_of_mem _ member))
      tracked (by omega) (by omega)
    simpa [attemptsOf, authRun, once, Int.add_comm] using atOne
  intro calls
  induction calls with
  | nil =>
    intro current _ _ _ locking
    simpa [attemptsOf, authRun] using locking
  | cons call later inductionHypothesis =>
    intro current allRejected tracking bounded locking
    have unset : current.lockoutUntil = 0 := by
      by_contra set
      have := locking.mp set
      simp only [List.length_cons] at bounded
      omega
    obtain ⟨stillTracked, counted, nextLocked⟩ := rejected_tracked config nonnegative user call
      (allRejected call (List.mem_cons_self _ _)) current tracking unset
    have step := inductionHypothesis _ (fun later member => allRejected later (List.mem_cons_of_mem _ member))
      stillTracked (by simp only [List.length_cons] at bounded; omega) (by omega)
    simp only [attemptsOf, List.map_cons, authRun, List.foldl_cons] at step ⊢
    simp only [List.length_cons]
    omega

/-- An identity longer than 255 bytes never equals its stored copy of 255 bytes:
with `max_attempts ≥ 2` every rejection starts its count over at one, and no
run of rejections ever sets a lockout. -/
theorem long_identity_rejections (config : KiaConfig) (nonnegative : 0 ≤ config.lockoutDuration)
    (twoOrMore : 2 ≤ config.maxAttempts) (user : CStr) (long : 255 < user.bytes.length)
    (first : CStr × Globals × AuthWorld) (rest : List (CStr × Globals × AuthWorld))
    (rejected : ∀ call ∈ first :: rest, Rejected call) (state : AuthState)
    (held : state.username.bytes.length ≤ 255) (unset : state.lockoutUntil = 0) :
    let final := authRun config state (attemptsOf user (first :: rest))
    final.failedAttempts = 1 ∧ final.lockoutUntil = 0 := by
  have restart : ∀ call (current : AuthState), Rejected call →
      current.username.bytes.length ≤ 255 → current.lockoutUntil = 0 →
      let next := (AuthOp.authenticate (some user) (some call.1) call.2.1 call.2.2).apply config current
      next.username.bytes.length ≤ 255 ∧ next.failedAttempts = 1 ∧ next.lockoutUntil = 0 := by
    intro call current rejection currentHeld currentUnset
    have fresh : current.username ≠ user := fun same => by rw [same] at currentHeld; omega
    obtain ⟨stored, once, locked⟩ := rejected_fresh config nonnegative user call rejection current fresh
      (by simp [authIsLockedOut, currentUnset])
    refine ⟨?_, once, by by_contra set; have := locked.mp set; omega⟩
    rw [stored, CStr.take_bytes, List.length_take]
    exact Nat.min_le_left _ _
  induction rest generalizing first state with
  | nil => exact (restart first state (rejected first (List.mem_cons_self _ _)) held unset).2
  | cons second rest inductionHypothesis =>
    obtain ⟨storedShort, -, cleared⟩ :=
      restart first state (rejected first (List.mem_cons_self _ _)) held unset
    exact inductionHypothesis second (fun call member => rejected call (List.mem_cons_of_mem _ member)) _
      storedShort cleared

/-- The identity of 256 bytes `a`. -/
def longIdentity : CStr :=
  ⟨List.replicate 256 97, fun byte member => by rw [List.eq_of_mem_replicate member]; decide⟩

/-- A rejection by `pam_authenticate` with `PAM_AUTH_ERR`, at clock reading 100. -/
def authError : CStr × Globals × AuthWorld :=
  (⟨[120], by decide⟩, Globals.initial, ⟨100, 100, .locked, none, 0, 7, 0⟩)

/-- Three consecutive rejections of a 256-byte identity under the default
`max_attempts = 3`, from the zeroed state, leave a count of one and no lockout. -/
theorem long_identity_escapes_lockout :
    (authRun KiaConfig.defaults AuthState.zero
        (attemptsOf longIdentity [authError, authError, authError])).failedAttempts = 1 ∧
      (authRun KiaConfig.defaults AuthState.zero
        (attemptsOf longIdentity [authError, authError, authError])).lockoutUntil = 0 := by
  have rejection : Rejected authError := ⟨rfl, .inl (by decide), by decide⟩
  exact long_identity_rejections KiaConfig.defaults (by decide) (by decide) longIdentity
    (by rw [show longIdentity.bytes = List.replicate 256 97 from rfl, List.length_replicate]; decide)
    authError [authError, authError]
    (fun call member => by
      simp only [List.mem_cons, List.not_mem_nil, or_false] at member
      rcases member with rfl | rfl | rfl <;> exact rejection)
    AuthState.zero (by decide) rfl

end Kia
