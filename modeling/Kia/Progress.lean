import Kia.SessionMenu
import Kia.Discovery

/-!
# No reachable iteration strands the user

For every machine a run of the loop from `controller_init` reaches, while the
loop runs and every entry of its catalogue has a name and a command, some
answers of the collaborators lead on to an iteration that launches a session.
No state but `STATE_EXIT` is a trap: the set-up states move on, every failure
of the login round goes back to the login screen, and the lockout only delays
an attempt, since one made when the clock reads `lockout_until` is let through.

The answers are made of two inputs. Under `detourInput` the set-up iterations
succeed and find one session, and every later collaborator refuses, so each
state moves on towards `STATE_SHOW_LOGIN`. Under `loginInput` every
collaborator of one login round agrees, with the clock at the machine's
`lockout_until`.

The hypothesis on the catalogue holds of every catalogue `session_discover`
builds (`session_discover_launchable`): the descriptor reader only flags a
name or a command it copied at least one byte of.
-/

namespace Kia

/-- The detour towards the login screen: `initscr` and discovery succeed with
the default configuration, and the autologin account, the terminal, the menu,
`pam_start` and the account lookup of `session_start` all refuse. -/
def detourInput : Input :=
  { menuInput with
    autologinLookup := .notFound
    credentials := ⟨.errorSystem, Buffer.zero 256, Buffer.zero 256, by decide⟩
    selection := -1
    auth := ⟨1, 1, .locked, none, 1, 0, 0⟩
    launch := { rootLaunch with lookup := .notFound } }

/-- One round of the login screen at clock `clock`: the name `u` and secret
`p`, the first entry of the menu, PAM accepting, and a launch that succeeds. -/
def loginInput (clock : Int) : Input := { menuInput with clock := clock }

/-- An entry `session_start` accepts: it has a name and a command. -/
def SessionInfo.Launchable (session : SessionInfo) : Prop :=
  session.name.bytes ≠ [] ∧ session.exec.bytes ≠ []

instance (session : SessionInfo) : Decidable session.Launchable := inferInstanceAs (Decidable (_ ∧ _))

/-- Runs compose. -/
theorem Reaches.trans {start middle last : Machine} {first second : List Event}
    (before : Reaches start middle first) (after : Reaches middle last second) :
    Reaches start last (first ++ second) := by
  induction after with
  | init => rwa [List.append_nil]
  | step result input _ active inductionHypothesis =>
    rw [← List.append_assoc]
    exact Reaches.step result input inductionHypothesis active

/-! ## The catalogue `session_discover` builds

`parse_desktop_file` sets `found_name` or `found_exec` only for a value whose
`strlen` is at least 1, and the reader hands it strings cut at their first
NUL, so every entry of the catalogue passes the check of `session_start`. -/

/-- What `parse_desktop_file` has found so far is not empty. -/
def DesktopFields.Filled (fields : DesktopFields) : Prop :=
  (fields.foundName → fields.name.bytes ≠ []) ∧ (fields.foundExec → fields.exec.bytes ≠ [])

/-- The `strncpy` of a value of at least one byte without NUL into an array
of more than one byte keeps a byte. -/
theorem copy_nonempty {value : List UInt8} (nulFree : 0 ∉ value) (nonempty : 0 < value.length)
    {size : Nat} (positive : 0 < size) : ((CStr.ofBytes value).take size).bytes ≠ [] := by
  obtain ⟨byte, rest, rfl⟩ := List.exists_cons_of_length_pos nonempty
  have leading : byte ≠ 0 := fun isNul => nulFree (isNul ▸ List.mem_cons_self _ _)
  obtain ⟨size, rfl⟩ := Nat.exists_eq_add_one_of_ne_zero positive.ne'
  simp [CStr.ofBytes, leading]

/-- One line of a descriptor keeps what was found non-empty. -/
theorem desktop_line_filled {fields : DesktopFields} (filled : fields.Filled) {record : List UInt8}
    (nulFree : 0 ∉ record) : (desktopLine fields record).Filled := by
  have value : 0 ∉ (record.takeWhile (· != 10)).drop 5 := fun member =>
    nulFree ((List.takeWhile_prefix _).subset (List.mem_of_mem_drop member))
  dsimp only [desktopLine]
  split_ifs with nameLine nameFits execLine execFits
  · exact ⟨fun _ => copy_nonempty value nameFits.1 (by decide), filled.2⟩
  · exact filled
  · exact ⟨filled.1, fun _ => copy_nonempty value execFits.1 (by decide)⟩
  · exact filled
  · exact filled

/-- The loop of `parse_desktop_file` keeps what was found non-empty, over
records without NUL. -/
theorem desktop_loop_filled (records : List (Option (List UInt8)))
    (nulFree : ∀ record ∈ records, ∀ line ∈ record, 0 ∉ line) {fields : DesktopFields} (filled : fields.Filled) :
    (desktopLoop records fields).Filled := by
  induction records generalizing fields with
  | nil => exact filled
  | cons record records inductionHypothesis =>
    have rest := fun other member => nulFree other (List.mem_cons_of_mem record member)
    cases record with
    | none => exact inductionHypothesis rest filled
    | some record =>
      have line := desktop_line_filled filled (nulFree _ (List.mem_cons_self _ _) record rfl)
      simp only [desktopLoop]
      split_ifs
      · exact line
      · exact inductionHypothesis rest line

/-- Every session `parse_desktop_file` fills has a name and a command. -/
theorem parse_desktop_file_launchable (filepath : CStr) (file : Except Nat ReadStream) (type : SessionType)
    {session : SessionInfo} (parsed : (parseDesktopFile filepath file type).1 = some session) :
    session.Launchable := by
  unfold parseDesktopFile at parsed
  split_ifs at parsed
  cases file with
  | error => cases parsed
  | ok stream =>
    dsimp only at parsed
    split_ifs at parsed with failed found
    cases parsed
    have filled : (desktopLoop (fileLines stream) DesktopFields.initial).Filled :=
      desktop_loop_filled _ (read_lines_nul_free _ _ _) ⟨nofun, nofun⟩
    exact ⟨filled.1 found.1, filled.2 found.2⟩

/-- Every session a directory contributes has a name and a command. -/
theorem accepted_sessions_launchable (dirPath : CStr) (type : SessionType) (directory : Except Nat Directory) :
    ∀ session ∈ acceptedSessions dirPath type directory, session.Launchable := by
  intro session member
  cases directory with
  | error => cases member
  | ok directory =>
    obtain ⟨entry, -, found⟩ := List.mem_filterMap.mp member
    unfold acceptedEntry at found
    split_ifs at found
    exact parse_desktop_file_launchable _ _ _ found

/-- Every entry of the catalogue `session_discover` leaves has a name and a
command, whatever the two directories hold. -/
theorem session_discover_launchable (x11 wayland : Except Nat Directory) :
    ∀ session ∈ (sessionDiscover x11 wayland).sessions, session.Launchable := by
  have accepted : ∀ session ∈ acceptedSessions x11SessionDir .x11 x11 ++
      acceptedSessions waylandSessionDir .wayland wayland, session.Launchable := fun session member =>
    (List.mem_append.mp member).elim (accepted_sessions_launchable _ _ _ session)
      (accepted_sessions_launchable _ _ _ session)
  obtain ⟨-, first⟩ := scan_session_directory_status x11SessionDir .x11 x11
  obtain ⟨-, second⟩ := scan_session_directory_status waylandSessionDir .wayland wayland
  simp only [sessionDiscover, sessionDiscoverRun]
  split_ifs with failedFirst failedSecond
  · exact nofun
  · exact nofun
  · exact nofun
  · rw [first (of_not_not failedFirst), second (of_not_not failedSecond)]
    exact accepted

/-- The one descriptor of an X11 directory, read in full, is launchable. -/
theorem discovered_descriptor_launchable :
    let listing : Except Nat Directory :=
      .ok ⟨[⟨⟨ascii "w.desktop", by decide⟩, .ok ⟨ascii "Name=w\nExec=s\n", false⟩, none⟩], none⟩
    let session : SessionInfo := ⟨⟨ascii "w", by decide⟩, ⟨ascii "s", by decide⟩, .x11⟩
    session ∈ (sessionDiscover listing (.error 2)).sessions ∧ session.Launchable :=
  have discovered : (⟨⟨ascii "w", by decide⟩, ⟨ascii "s", by decide⟩, .x11⟩ : SessionInfo) ∈
      (sessionDiscover (.ok ⟨[⟨⟨ascii "w.desktop", by decide⟩, .ok ⟨ascii "Name=w\nExec=s\n", false⟩, none⟩], none⟩)
        (.error 2)).sessions := by decide
  ⟨discovered, session_discover_launchable _ _ _ discovered⟩

/-! ## The collaborators' answers -/

/-- `user_exists` refuses an account `getpwnam` does not find. -/
theorem user_exists_not_found (username : CStr) : (userExists username .notFound).1 = false := by
  unfold userExists
  split_ifs <;> rfl

/-- `auth_authenticate` fails when `pam_start` does. -/
theorem auth_authenticate_detour (user password : CStr) (config : KiaConfig) (state : AuthState)
    (globals : Globals) :
    (authAuthenticate (some user) (some password) (some config) (some state) globals detourInput.auth).result ≠
      .success := by
  simp only [authAuthenticate]
  split_ifs
  · exact Status.noConfusion
  · simp [pamStage, detourInput]

/-- An attempt made when the clock reads `lockout_until` is let through. -/
theorem auth_is_locked_out_at_deadline (state : AuthState) : (authIsLockedOut state state.lockoutUntil).1 = false := by
  unfold authIsLockedOut
  split_ifs with cleared passed
  · rfl
  · rfl
  · exact (passed (Int.le_refl _)).elim

/-- A check that lets the attempt through leaves no lockout. -/
theorem is_locked_out_cleared {state : AuthState} {now : Int} (passed : (authIsLockedOut state now).1 = false) :
    (authIsLockedOut state now).2.lockoutUntil = 0 := by
  unfold authIsLockedOut at passed ⊢
  split_ifs at passed ⊢ with unset
  · exact unset
  · rfl

/-- `auth_authenticate` succeeds for a state with no lockout when PAM accepts. -/
theorem auth_authenticate_accepted (user password : CStr) (config : KiaConfig) (state : AuthState)
    (globals : Globals) (world : AuthWorld) (unlocked : state.lockoutUntil = 0)
    (accepted : world.pamStart = 0 ∧ world.pamAuthenticate = 0 ∧ world.pamAcctMgmt = 0) :
    (authAuthenticate (some user) (some password) (some config) (some state) globals world).result = .success := by
  have passed : (authIsLockedOut state world.now).1 = false := by simp [authIsLockedOut, unlocked]
  rw [auth_authenticate_unlocked user password config state globals world passed]
  rcases pam_stage_cases user config (trackUsername (authIsLockedOut state world.now).2 user)
      (ttyLock globals world.tty).1 world with ⟨started, -⟩ | ⟨-, refused, -⟩ | ⟨-, -, -, success, -⟩
  · exact absurd accepted.1 started
  · exact absurd refused (by omega)
  · exact success

/-- `session_start` fails when `getpwnam` finds no account. -/
theorem session_start_not_found (session : SessionInfo) (username : CStr) (parent : Creds)
    (files : List FileKind) : (sessionStart session username parent files detourInput.launch).1 ≠ .success := by
  simp only [sessionStart, apply_ite Prod.fst, show detourInput.launch.lookup = .notFound from rfl, ite_self]
  exact Status.noConfusion

/-- Under `rootLaunch` every entry with a name and a command is launched for a
non-empty name, whatever the manager's credentials and open descriptors: the
obedient kernel makes the drop, the shell replaces the child and the session
exits with status 0. -/
theorem session_start_agreed (session : SessionInfo) (launchable : session.Launchable) (username : CStr)
    (named : username.bytes ≠ []) (parent : Creds) (files : List FileKind) :
    (sessionStart session username parent files rootLaunch).1 = .success := by
  obtain ⟨name, exec, type⟩ := session
  rw [sessionStart, if_neg named, if_neg (not_or.mpr launchable)]
  cases type <;> rfl

/-! ## The detour -/

section Detour

variable (m : Machine) (result : Status)

/-- `STATE_INIT` moves on to `STATE_LOAD_CONFIG` once `initscr` succeeds. -/
theorem detour_init (state : m.ctx.state = .init) :
    (controllerStep result m detourInput).machine = m.withCtx { m.ctx with state := .loadConfig } := by
  simp only [controllerStep, state, Step.invoked, handleInit]
  rfl

/-- `STATE_LOAD_CONFIG` keeps the default configuration and the catalogue `[w]`. -/
theorem detour_load_config (state : m.ctx.state = .loadConfig) :
    (controllerStep result m detourInput).machine =
      m.withCtx { m.ctx with config := KiaConfig.defaults, sessions := [waylandSession], state := .checkAutologin } := by
  simp only [controllerStep, state, Step.invoked, handleLoadConfig]
  rfl

/-- From every state of the login path and from the autologin check, the
detour goes back to the login screen. -/
theorem detour_login
    (state : m.ctx.state = .checkAutologin ∨ m.ctx.state = .getCredentials ∨ m.ctx.state = .selectSession ∨
      m.ctx.state = .authenticate ∨ m.ctx.state = .startSession) :
    (controllerStep result m detourInput).machine.ctx.state = .showLogin := by
  rcases state with state | state | state | state | state <;>
    simp only [controllerStep, state, Step.invoked]
  · simp only [handleCheckAutologin, apply_ite (fun s : Step => s.machine.ctx.state), Machine.withCtx_ctx,
      show detourInput.autologinLookup = .notFound from rfl, user_exists_not_found, if_true]
    split_ifs <;> rfl
  · rfl
  · simp only [handleSelectSession, show detourInput.selection = -1 from rfl, selectedEntry]
    rfl
  · have refused := auth_authenticate_detour m.ctx.username.str m.ctx.password.str m.ctx.config
      (authIsLockedOut m.ctx.authState detourInput.clock).2 m.globals
    simp only [handleAuthenticate, apply_ite (fun s : Step => s.machine.ctx.state), Machine.withCtx_ctx,
      if_neg refused]
    split_ifs <;> rfl
  · simp only [handleStartSession]
    split
    · rfl
    · rw [if_pos (session_start_not_found _ _ _ _)]
      rfl

end Detour

/-! ## The login round -/

section Round

variable (m : Machine) (result : Status)

/-- `STATE_SHOW_LOGIN` draws the screen and asks for the credentials. -/
theorem login_show (state : m.ctx.state = .showLogin) (input : Input) :
    (controllerStep result m input).machine = m.withCtx { m.ctx with state := .getCredentials } := by
  simp only [controllerStep, state, Step.invoked, handleShowLogin]

/-- `STATE_GET_CREDENTIALS` keeps a name of at most 255 bytes and a secret,
both non-empty, that the terminal returned with `KIA_SUCCESS`. -/
theorem login_credentials (state : m.ctx.state = .getCredentials) (input : Input)
    (success : input.credentials.result = .success) (named : input.credentials.username.str.bytes ≠ [])
    (short : input.credentials.username.str.bytes.length ≤ 255) (typed : input.credentials.password.str.bytes ≠ []) :
    (controllerStep result m input).machine =
      m.withCtx { m.ctx with
        username := input.credentials.username
        password := input.credentials.password
        state := .selectSession } := by
  simp only [controllerStep, state, Step.invoked, handleGetCredentials]
  rw [if_neg (not_not.mpr success), if_neg named, if_neg (by omega), if_neg typed]

/-- `STATE_SELECT_SESSION` stores a selection that names an entry and moves on. -/
theorem login_select (state : m.ctx.state = .selectSession) (input : Input) {session : SessionInfo}
    (selected : selectedEntry m.ctx.sessions input.selection = some session) :
    (controllerStep result m input).machine =
      m.withCtx { m.ctx with selectedSession := input.selection, state := .authenticate } := by
  simp only [controllerStep, state, Step.invoked, handleSelectSession, selected]

/-- `STATE_AUTHENTICATE` with no lockout at the iteration's clock and PAM
accepting asks the provider about `ctx->username` and moves on to
`STATE_START_SESSION`; nothing the launch reads changes. -/
theorem login_authenticate (state : m.ctx.state = .authenticate) (input : Input)
    (unlocked : (authIsLockedOut m.ctx.authState input.clock).1 = false)
    (accepted : input.auth.pamStart = 0 ∧ input.auth.pamAuthenticate = 0 ∧ input.auth.pamAcctMgmt = 0) :
    (controllerStep result m input).machine.ctx.state = .startSession ∧
      (controllerStep result m input).machine.ctx.sessions = m.ctx.sessions ∧
      (controllerStep result m input).machine.ctx.selectedSession = m.ctx.selectedSession ∧
      (controllerStep result m input).machine.ctx.username = m.ctx.username ∧
      (controllerStep result m input).machine.ctx.running = m.ctx.running ∧
      Event.pamAuthenticate m.ctx.username.str 0 ∈ (controllerStep result m input).events := by
  have success := auth_authenticate_accepted m.ctx.username.str m.ctx.password.str m.ctx.config
    (authIsLockedOut m.ctx.authState input.clock).2 m.globals input.auth (is_locked_out_cleared unlocked) accepted
  have asked := (auth_authenticate_success _ _ _ _ _ _ success).1
  simp only [controllerStep, state, Step.invoked, handleAuthenticate, unlocked, Bool.false_eq_true, if_false,
    success, if_true, true_and]
  simp [asked]

/-- `STATE_START_SESSION` launches a launchable entry for a non-empty name. -/
theorem login_launch (state : m.ctx.state = .startSession) {session : SessionInfo}
    (selected : selectedEntry m.ctx.sessions m.ctx.selectedSession = some session)
    (launchable : session.Launchable) (named : m.ctx.username.str.bytes ≠ []) (clock : Int) :
    Launched m (loginInput clock) :=
  ⟨state, session, selected, session_start_agreed session launchable _ named _ _⟩

/-- One round from the login screen, with entries in the catalogue, all of
them launchable, reaches an iteration that launches the first. -/
theorem login_round (active : m.Active) (state : m.ctx.state = .showLogin) (nonempty : m.ctx.sessions ≠ [])
    (launchable : ∀ session ∈ m.ctx.sessions, session.Launchable) :
    ∃ last history input, Reaches m last history ∧ last.Active ∧ Launched last input := by
  obtain ⟨first, rest, listed⟩ := List.exists_cons_of_ne_nil nonempty
  have shown := login_show m .success state (loginInput m.ctx.authState.lockoutUntil)
  set entered := (controllerStep .success m (loginInput m.ctx.authState.lockoutUntil)).machine
  have read := login_credentials entered .success (by rw [shown]; rfl) (loginInput m.ctx.authState.lockoutUntil) rfl
    (by decide : menuInput.credentials.username.str.bytes ≠ [])
    (by decide : menuInput.credentials.username.str.bytes.length ≤ 255)
    (by decide : menuInput.credentials.password.str.bytes ≠ [])
  set named := (controllerStep .success entered (loginInput m.ctx.authState.lockoutUntil)).machine
  have firstSelected : selectedEntry named.ctx.sessions (loginInput m.ctx.authState.lockoutUntil).selection = some first := by
    rw [read, shown]
    simp only [Machine.withCtx_ctx, listed]
    rfl
  have chosen := login_select named .success (by rw [read]; rfl) (loginInput m.ctx.authState.lockoutUntil) firstSelected
  set asked := (controllerStep .success named (loginInput m.ctx.authState.lockoutUntil)).machine
  have lockout : asked.ctx.authState = m.ctx.authState := by
    rw [chosen, read, shown]
    rfl
  obtain ⟨starting, kept, same, user, running, -⟩ := login_authenticate asked .success (by rw [chosen]; rfl)
    (loginInput m.ctx.authState.lockoutUntil) (by rw [lockout]; exact auth_is_locked_out_at_deadline _) ⟨rfl, rfl, rfl⟩
  set launching := (controllerStep .success asked (loginInput m.ctx.authState.lockoutUntil)).machine
  have catalogue : launching.ctx.sessions = first :: rest := by
    rw [kept, chosen, read, shown]
    exact listed
  have selected : selectedEntry launching.ctx.sessions launching.ctx.selectedSession = some first := by
    rw [catalogue, same, chosen]
    rfl
  have typed : launching.ctx.username.str.bytes ≠ [] := by
    rw [user, chosen, read]
    exact (by decide : menuInput.credentials.username.str.bytes ≠ [])
  have activeAt : ∀ later : Machine, later.ctx.running = m.ctx.running → later.ctx.state ≠ .exit → later.Active :=
    fun later kept others => ⟨kept.trans active.1, others⟩
  have enteredActive := activeAt entered (by rw [shown]; rfl) (by rw [shown]; exact AppState.noConfusion)
  have namedActive := activeAt named (by rw [read, shown]; rfl) (by rw [read]; exact AppState.noConfusion)
  have askedActive := activeAt asked (by rw [chosen, read, shown]; rfl) (by rw [chosen]; exact AppState.noConfusion)
  have run : Reaches m launching _ := .step .success (loginInput m.ctx.authState.lockoutUntil)
    (.step .success (loginInput m.ctx.authState.lockoutUntil)
      (.step .success (loginInput m.ctx.authState.lockoutUntil)
        (.step .success (loginInput m.ctx.authState.lockoutUntil) .init active) enteredActive) namedActive)
    askedActive
  exact ⟨launching, _, loginInput m.ctx.authState.lockoutUntil, run,
    activeAt launching (by rw [running, chosen, read, shown]; rfl) (by rw [starting]; exact AppState.noConfusion),
    login_launch launching starting selected (launchable first (by rw [listed]; exact List.mem_cons_self _ _))
      typed _⟩

end Round

/-! ## Every reachable machine can still launch -/

/-- While the loop runs, every machine a run from `controller_init` reaches can
go on to an iteration that launches a session, as long as every entry of its
catalogue has a name and a command (as every entry `session_discover` lists
has): a detour to the login screen, then one login round. So the lockout
never locks a user out for good, and no state but `STATE_EXIT` ends the
manager's job without a session. -/
theorem launch_still_possible {globals : Globals} {creds : Creds} {m : Machine} {history : List Event}
    (reached : Reaches (Machine.initial globals creds) m history) (active : m.Active)
    (launchable : ∀ session ∈ m.ctx.sessions, session.Launchable) :
    ∃ last laterHistory input, Reaches m last laterHistory ∧ last.Active ∧ Launched last input := by
  have ready := reaches_catalogue_ready reached
  have detoured : ∀ {start : Machine}, start.Active → start.ctx.sessions ≠ [] →
      (∀ session ∈ start.ctx.sessions, session.Launchable) →
      (start.ctx.state = .checkAutologin ∨ start.ctx.state = .getCredentials ∨ start.ctx.state = .selectSession ∨
        start.ctx.state = .authenticate ∨ start.ctx.state = .startSession) →
      ∃ last laterHistory input, Reaches start last laterHistory ∧ last.Active ∧ Launched last input := by
    intro start running nonempty allLaunchable state
    have login := detour_login start .success state
    have kept := controller_step_sessions start detourInput .success (by rcases state with s | s | s | s | s <;> rw [s] <;> decide)
    have back : (controllerStep .success start detourInput).machine.Active :=
      ⟨(controller_step_running start detourInput .success).trans running.1, by rw [login]; decide⟩
    obtain ⟨last, laterHistory, input, run, lastActive, launched⟩ :=
      login_round _ back login (by rw [kept]; exact nonempty) (by rw [kept]; exact allLaunchable)
    exact ⟨last, _, input, (Reaches.step .success detourInput .init running).trans run, lastActive, launched⟩
  cases state : m.ctx.state
  case exit => exact absurd state active.2
  case showLogin =>
    exact login_round m active state (ready ⟨by rw [state]; decide, by rw [state]; decide, by rw [state]; decide⟩)
      launchable
  case init =>
    have loading := detour_init m .success state
    set loaded := (controllerStep .success m detourInput).machine
    have discovered := detour_load_config loaded .success (by rw [loading]; rfl)
    have loadedActive : loaded.Active := ⟨by rw [loading]; exact active.1, by rw [loading]; exact AppState.noConfusion⟩
    set checking := (controllerStep .success loaded detourInput).machine
    have checkingActive : checking.Active := ⟨by rw [discovered, loading]; exact active.1, by rw [discovered]; exact AppState.noConfusion⟩
    obtain ⟨last, laterHistory, input, run, lastActive, launched⟩ :=
      detoured checkingActive (by rw [discovered]; exact (by decide : [waylandSession] ≠ []))
      (by rw [discovered]; exact (by decide : ∀ session ∈ [waylandSession], session.Launchable)) (.inl (by rw [discovered]; rfl))
    exact ⟨last, _, input, ((Reaches.step .success detourInput .init active).step .success detourInput
      loadedActive).trans run, lastActive, launched⟩
  case loadConfig =>
    have discovered := detour_load_config m .success state
    set checking := (controllerStep .success m detourInput).machine
    have checkingActive : checking.Active := ⟨by rw [discovered]; exact active.1, by rw [discovered]; exact AppState.noConfusion⟩
    obtain ⟨last, laterHistory, input, run, lastActive, launched⟩ :=
      detoured checkingActive (by rw [discovered]; exact (by decide : [waylandSession] ≠ []))
      (by rw [discovered]; exact (by decide : ∀ session ∈ [waylandSession], session.Launchable)) (.inl (by rw [discovered]; rfl))
    exact ⟨last, _, input, (Reaches.step .success detourInput .init active).trans run, lastActive, launched⟩
  all_goals
    exact detoured active (ready ⟨by rw [state]; decide, by rw [state]; decide, by rw [state]; decide⟩) launchable
      (by rw [state]; simp)

/-- The run of five menu iterations, waiting in `STATE_SELECT_SESSION`, can still launch. -/
theorem menu_run_can_launch :
    Reaches (Machine.initial Globals.initial rootCreds) menuRun.machine ([] ++ menuRun.events) ∧
      menuRun.machine.Active ∧ (∀ session ∈ menuRun.machine.ctx.sessions, session.Launchable) ∧
      ∃ last laterHistory input, Reaches menuRun.machine last laterHistory ∧ last.Active ∧ Launched last input := by
  have reached : Reaches (Machine.initial Globals.initial rootCreds) menuRun.machine ([] ++ menuRun.events) :=
    controller_run_reaches Reaches.init .success _
  have active : menuRun.machine.Active := by decide
  have launchable : ∀ session ∈ menuRun.machine.ctx.sessions, session.Launchable := by decide
  exact ⟨reached, active, launchable, launch_still_possible reached active launchable⟩

end Kia
