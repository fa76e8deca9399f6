import Kia.Progress

/-!
# A login typed at the terminal

What the user types and chooses is what the manager authenticates and
launches. The form of `tui_get_credentials` delivers exactly the names of 1 to
`fieldCapacity user_len` printable characters and the secrets of at most
`fieldCapacity pass_len`: each of them, typed as the name, Tab, the secret and
Enter, comes back as typed, and nothing else comes back with `KIA_SUCCESS`
(`tui_get_credentials_enterable`). On the context's 256-byte arrays both
capacities are 20.

A login round fed by the terminal then goes from `STATE_SHOW_LOGIN` along the
login path to `STATE_START_SESSION`: the provider is asked about the name
typed, the entry chosen in the menu is selected, and the next iteration calls
`session_start` for exactly that entry and that name
(`typed_login_starts_session`).
-/

namespace Kia

/-! ## Typing at the terminal -/

/-- What `getch` returns for a typed byte. -/
def typedCode (byte : UInt8) : Option Int := some (byte.toNat : Int)

/-- The keys of a filled form: the name, Tab, the secret, Enter. -/
def typedKeys (name secret : List UInt8) : List (Option Int) :=
  name.map typedCode ++ some 9 :: secret.map typedCode ++ [some 10]

/-- A name and a secret the form takes as typed: a name of 1 to `userCap`
characters and a secret of at most `passCap`, all of them printable. -/
def Typable (userCap passCap : Nat) (name secret : List UInt8) : Prop :=
  name ≠ [] ∧ name.length ≤ userCap ∧ secret.length ≤ passCap ∧
    (∀ byte ∈ name, Printable byte) ∧ ∀ byte ∈ secret, Printable byte

instance (userCap passCap : Nat) (name secret : List UInt8) : Decidable (Typable userCap passCap name secret) :=
  inferInstanceAs (Decidable (_ ∧ _ ∧ _ ∧ _ ∧ _))

/-- A printable byte is read as that character. -/
theorem key_of_typed {byte : UInt8} (printable : Printable byte) : keyOf byte.toNat = some (.printable byte) := by
  obtain ⟨low, high⟩ := printable
  rw [keyOf, if_neg (by unfold keyEnter; omega), if_neg (by omega), if_neg (by unfold keyDown; omega),
    if_neg (by unfold keyUp; omega), if_neg (by unfold keyBackspace; omega), if_neg (by omega), if_pos (by omega),
    Int.toNat_ofNat, UInt8.toNat.inj (UInt8.toNat_ofNat_of_lt byte.toNat_lt_size)]

/-- The keys read from typed printable bytes are those characters. -/
theorem keys_read_typed_text {text : List UInt8} (printable : ∀ byte ∈ text, Printable byte)
    (rest : List (Option Int)) :
    keysRead (text.map typedCode ++ rest) = text.map EditKey.printable ++ keysRead rest := by
  induction text with
  | nil => rfl
  | cons byte text inductionHypothesis =>
    rw [List.map_cons, List.cons_append, typedCode, keysRead, if_neg (by unfold err; omega),
      key_of_typed (printable byte (.head _)), inductionHypothesis fun other member => printable other (.tail _ member)]
    rfl

/-- The keys read from a filled form. -/
theorem keys_read_typed_keys {name secret : List UInt8}
    (printable : (∀ byte ∈ name, Printable byte) ∧ ∀ byte ∈ secret, Printable byte) :
    keysRead (typedKeys name secret) = name.map .printable ++ .tab :: secret.map .printable ++ [.enter] := by
  rw [typedKeys, List.append_assoc, List.cons_append, keys_read_typed_text printable.1, keysRead, if_neg (by decide),
    show keyOf 9 = some .tab by decide, keys_read_typed_text printable.2, show keysRead [some 10] = [.enter] by decide]
  simp

/-- Printable keys typed into the focused name append to it while it has room. -/
theorem run_type_username {userCap passCap : Nat} {editor : LineEditor} (focused : editor.focus = .username)
    {text : List UInt8} (room : editor.username.length + text.length ≤ userCap) (keys : List EditKey) :
    editor.run userCap passCap (text.map .printable ++ keys) =
      { editor with username := editor.username ++ text }.run userCap passCap keys := by
  induction text generalizing editor with
  | nil => rw [List.map_nil, List.nil_append, List.append_nil]
  | cons char text inductionHypothesis =>
    rw [List.length_cons] at room
    have typed : editor.press userCap passCap (.printable char) = { editor with username := editor.username ++ [char] } := by
      simp only [LineEditor.press, focused]
      exact if_pos (by omega)
    rw [List.map_cons, List.cons_append, LineEditor.run, if_neg (fun entered => nomatch entered.1), typed,
      @inductionHypothesis { editor with username := editor.username ++ [char] } focused
        (by rw [List.length_append, List.length_singleton]; omega), List.append_assoc, List.singleton_append]

/-- Printable keys typed into the focused secret append to it while it has room. -/
theorem run_type_password {userCap passCap : Nat} {editor : LineEditor} (focused : editor.focus = .password)
    {text : List UInt8} (room : editor.password.length + text.length ≤ passCap) (keys : List EditKey) :
    editor.run userCap passCap (text.map .printable ++ keys) =
      { editor with password := editor.password ++ text }.run userCap passCap keys := by
  induction text generalizing editor with
  | nil => rw [List.map_nil, List.nil_append, List.append_nil]
  | cons char text inductionHypothesis =>
    rw [List.length_cons] at room
    have typed : editor.press userCap passCap (.printable char) = { editor with password := editor.password ++ [char] } := by
      simp only [LineEditor.press, focused]
      exact if_pos (by omega)
    rw [List.map_cons, List.cons_append, LineEditor.run, if_neg (fun entered => nomatch entered.1), typed,
      @inductionHypothesis { editor with password := editor.password ++ [char] } focused
        (by rw [List.length_append, List.length_singleton]; omega), List.append_assoc, List.singleton_append]

/-- The editor submits a name and a secret that fit as they were typed. -/
theorem run_typed_keys {userCap passCap : Nat} {name secret : List UInt8} (named : name ≠ [])
    (nameFits : name.length ≤ userCap) (secretFits : secret.length ≤ passCap) :
    LineEditor.initial.run userCap passCap (name.map .printable ++ .tab :: secret.map .printable ++ [.enter]) =
      some ⟨.password, name, secret⟩ := by
  rw [List.append_assoc, List.cons_append, run_type_username rfl (by simpa [LineEditor.initial] using nameFits),
    LineEditor.run, if_neg (fun entered => nomatch entered.1),
    run_type_password rfl (by simpa [LineEditor.press, LineEditor.initial] using secretFits), LineEditor.run]
  exact if_pos ⟨rfl, named⟩

/-- A name and a secret the form takes, typed as the name, Tab, the secret
and Enter, come back as typed with `KIA_SUCCESS`. -/
theorem tui_get_credentials_typed {userLen passLen : Nat} (username : Buffer userLen) (password : Buffer passLen)
    (filled : 0 < userLen ∧ 0 < passLen) {rows columns : Int} (large : 10 ≤ rows ∧ 50 ≤ columns)
    {name secret : List UInt8} (typable : Typable (fieldCapacity userLen) (fieldCapacity passLen) name secret) :
    ∃ call, tuiGetCredentials username password (some (rows, columns)) (typedKeys name secret) = some call ∧
      call.1 = .success ∧ call.2.1.str.bytes = name ∧ call.2.2.str.bytes = secret := by
  obtain ⟨named, nameFits, secretFits, printable⟩ := typable
  exact tui_get_credentials_strings username password filled large _
    (by rw [keys_read_typed_keys printable]; exact run_typed_keys named nameFits secretFits)

/-- The form delivers exactly the names and secrets it takes as typed: on a
screen of at least 10 rows and 50 columns, a name and a secret come back with
`KIA_SUCCESS` for some answers of the terminal exactly when the name has 1 to
`fieldCapacity user_len` characters, the secret at most `fieldCapacity
pass_len`, and all of them are printable. -/
theorem tui_get_credentials_enterable {userLen passLen : Nat} (username : Buffer userLen) (password : Buffer passLen)
    (filled : 0 < userLen ∧ 0 < passLen) {rows columns : Int} (large : 10 ≤ rows ∧ 50 ≤ columns)
    (name secret : List UInt8) :
    (∃ answers call, tuiGetCredentials username password (some (rows, columns)) answers = some call ∧
        call.1 = .success ∧ call.2.1.str.bytes = name ∧ call.2.2.str.bytes = secret) ↔
      Typable (fieldCapacity userLen) (fieldCapacity passLen) name secret := by
  constructor
  · rintro ⟨answers, call, returned, success, typedName, typedSecret⟩
    obtain ⟨edited, submitted, editedName, editedSecret⟩ :=
      tui_get_credentials_submitted username password returned success
    have fits := run_invariant (LineEditor.Fits (fieldCapacity userLen) (fieldCapacity passLen)) _
      (fun _ key _ fits => press_fits fits key) ⟨Nat.zero_le _, Nat.zero_le _⟩ submitted
    have typed := run_invariant LineEditor.Typed _
      (fun _ key member typed => press_typed typed fun char pressed => keys_read_printable answers (pressed ▸ member))
      ⟨List.forall_mem_nil _, List.forall_mem_nil _⟩ submitted
    rw [← typedName, ← typedSecret, editedName, editedSecret]
    exact ⟨LineEditor.run_submits_name _ submitted, fits.1, fits.2, typed.1, typed.2⟩
  · exact fun typable => ⟨_, tui_get_credentials_typed username password filled large typable⟩

/-- A name of 21 characters cannot be delivered on the context's arrays, by any keys. -/
theorem long_name_not_enterable :
    (0 < 256 ∧ 0 < 256) ∧ (10 ≤ (24 : Int) ∧ 50 ≤ (80 : Int)) ∧
      ¬∃ answers call, tuiGetCredentials (Buffer.zero 256) (Buffer.zero 256) (some (24, 80)) answers = some call ∧
        call.1 = .success ∧ call.2.1.str.bytes = List.replicate 21 97 ∧ call.2.2.str.bytes = [112] :=
  ⟨by decide, by decide, fun entered =>
    (by decide : ¬Typable (fieldCapacity 256) (fieldCapacity 256) (List.replicate 21 97) [112])
      ((tui_get_credentials_enterable (Buffer.zero 256) (Buffer.zero 256) (by decide) (by decide) _ _).mp entered)⟩

/-! ## One login round at the terminal -/

/-- An index in range names its entry. -/
theorem selected_entry_index {sessions : List SessionInfo} {index : Nat} (inRange : index < sessions.length) :
    selectedEntry sessions index = some (sessions.get ⟨index, inRange⟩) := by
  rw [selectedEntry, if_pos (by omega), Int.toNat_ofNat, List.get?_eq_get inRange]

/-- `STATE_START_SESSION` calls `session_start` for the entry selected and `ctx->username`. -/
theorem start_session_called {m : Machine} {result : Status} (state : m.ctx.state = .startSession) (input : Input)
    {session : SessionInfo} (selected : selectedEntry m.ctx.sessions m.ctx.selectedSession = some session) :
    Event.sessionStart session m.ctx.username.str ∈ (controllerStep result m input).events := by
  simp only [controllerStep, state, Step.invoked, handleStartSession, selected]
  split_ifs <;> simp

/-- One login round at a terminal of at least 10 rows and 60 columns, from a
running manager on its login screen. The user types a name and a non-empty
secret the form takes, then chooses an entry of the catalogue with Up, Down
and Enter; the clock is past any lockout and PAM accepts. Then four
iterations bring the manager to `STATE_START_SESSION` with the name typed,
the provider is asked about that name, and the next iteration calls
`session_start` for the entry chosen and that name, whatever it is given. -/
theorem typed_login_starts_session {m : Machine} (active : m.Active) (state : m.ctx.state = .showLogin)
    {rows columns : Int} (large : 10 ≤ rows ∧ 60 ≤ columns) {name secret : List UInt8}
    (typable : Typable (fieldCapacity 256) (fieldCapacity 256) name secret) (secretTyped : secret ≠ [])
    {index : Nat} (inRange : index < m.ctx.sessions.length) (shown entered chosen attempted : Input)
    (read : tuiGetCredentials m.ctx.username m.ctx.password (some (rows, columns)) (typedKeys name secret) =
      some (entered.credentials.result, entered.credentials.username, entered.credentials.password))
    (picked : tuiSelectSession m.ctx.sessions (findDefaultSession m.ctx.sessions m.ctx.config.defaultSession).1
      (some (rows, columns)) (choosingKeys m.ctx.sessions.length index) = some chosen.selection)
    (unlocked : (authIsLockedOut m.ctx.authState attempted.clock).1 = false)
    (accepted : attempted.auth.pamStart = 0 ∧ attempted.auth.pamAuthenticate = 0 ∧ attempted.auth.pamAcctMgmt = 0) :
    (controllerRun m .success [shown, entered, chosen, attempted]).result = none ∧
      (controllerRun m .success [shown, entered, chosen, attempted]).machine.ctx.state = .startSession ∧
      (controllerRun m .success [shown, entered, chosen, attempted]).machine.ctx.username.str.bytes = name ∧
      Event.pamAuthenticate (controllerRun m .success [shown, entered, chosen, attempted]).machine.ctx.username.str 0 ∈
        (controllerRun m .success [shown, entered, chosen, attempted]).events ∧
      ∀ launch : Input, Event.sessionStart (m.ctx.sessions.get ⟨index, inRange⟩)
          (controllerRun m .success [shown, entered, chosen, attempted]).machine.ctx.username.str ∈
        (controllerStep .success (controllerRun m .success [shown, entered, chosen, attempted]).machine launch).events := by
  -- what the terminal hands the controller
  obtain ⟨call, returned, success, typedName, typedSecret⟩ :=
    tui_get_credentials_typed m.ctx.username m.ctx.password (by decide)
      (show 10 ≤ rows ∧ 50 ≤ columns by omega) typable
  rw [read, Option.some.injEq] at returned
  subst returned
  have selection : chosen.selection = index := by
    rw [tui_select_session_choosing _ _ rows columns large index inRange] at picked
    exact (Option.some.inj picked).symm
  -- the four iterations
  set first := controllerStep .success m shown
  set second := controllerStep first.result first.machine entered
  set third := controllerStep second.result second.machine chosen
  set fourth := controllerStep third.result third.machine attempted
  have shownStep : first.machine = _ := login_show m .success state shown
  have nameFits : name.length ≤ 255 := by
    have := typable.2.1
    have := field_capacity_lt (show 0 < 256 by decide)
    omega
  have readStep : second.machine = _ := login_credentials first.machine first.result (by rw [shownStep]; rfl) entered
    success (by rw [typedName]; exact typable.1) (by rw [typedName]; exact nameFits)
    (by rw [typedSecret]; exact secretTyped)
  have menuSessions : second.machine.ctx.sessions = m.ctx.sessions := by rw [readStep, shownStep]; rfl
  have selectStep : third.machine = _ := login_select second.machine second.result (by rw [readStep]; rfl) chosen
    (by rw [menuSessions, selection]; exact selected_entry_index inRange)
  obtain ⟨starting, kept, same, user, running, asked⟩ := login_authenticate third.machine third.result
    (by rw [selectStep]; rfl) attempted (by rw [selectStep, readStep, shownStep]; exact unlocked) accepted
  -- the loop runs them all and waits
  have activeAt (later : Machine) (kept : later.ctx.running = m.ctx.running) (others : later.ctx.state ≠ .exit) :
      later.Active := ⟨kept.trans active.1, others⟩
  have firstActive := activeAt first.machine (by rw [shownStep]; rfl) (by rw [shownStep]; exact AppState.noConfusion)
  have secondActive := activeAt second.machine (by rw [readStep, shownStep]; rfl)
    (by rw [readStep]; exact AppState.noConfusion)
  have thirdActive := activeAt third.machine (by rw [selectStep, readStep, shownStep]; rfl)
    (by rw [selectStep]; exact AppState.noConfusion)
  have fourthActive := activeAt fourth.machine (by rw [running, selectStep, readStep, shownStep]; rfl)
    (by rw [starting]; exact AppState.noConfusion)
  have round : controllerRun m .success [shown, entered, chosen, attempted] =
      ⟨none, fourth.machine, first.events ++ (second.events ++ (third.events ++ (fourth.events ++ [])))⟩ := by
    rw [controller_run_going _ active firstActive.2, controller_run_going _ firstActive secondActive.2,
      controller_run_going _ secondActive thirdActive.2, controller_run_going _ thirdActive fourthActive.2,
      controller_run_waiting fourthActive]
  have named : fourth.machine.ctx.username = entered.credentials.username := by
    rw [user, selectStep, readStep]
    rfl
  rw [round]
  refine ⟨rfl, starting, by rw [named, typedName], ?_, fun launch => start_session_called starting launch ?_⟩
  · rw [user]
    simp only [List.mem_append]
    exact .inr (.inr (.inr (.inl asked)))
  · rw [kept, same, selectStep]
    show selectedEntry second.machine.ctx.sessions chosen.selection = _
    rw [menuSessions, selection]
    exact selected_entry_index inRange

/-- The manager on its login screen after start-up with the default
configuration and the catalogue `[w]`. -/
def loginScreen : Machine :=
  (controllerRun (Machine.initial Globals.initial rootCreds) .success (List.replicate 3 menuInput)).machine

set_option maxRecDepth 4000 in
/-- Typing `u`, Tab, `p`, Enter and choosing `w` on the login screen: the
provider is asked about `u` and `w` is started for `u`. -/
theorem typed_login_on_login_screen :
    (controllerRun loginScreen .success [menuInput, menuInput, menuInput, menuInput]).result = none ∧
      (controllerRun loginScreen .success [menuInput, menuInput, menuInput, menuInput]).machine.ctx.state =
        .startSession ∧
      (controllerRun loginScreen .success [menuInput, menuInput, menuInput, menuInput]).machine.ctx.username.str.bytes =
        [117] ∧
      Event.pamAuthenticate
          (controllerRun loginScreen .success [menuInput, menuInput, menuInput, menuInput]).machine.ctx.username.str 0 ∈
        (controllerRun loginScreen .success [menuInput, menuInput, menuInput, menuInput]).events ∧
      ∀ launch : Input, Event.sessionStart (loginScreen.ctx.sessions.get ⟨0, by decide⟩)
          (controllerRun loginScreen .success [menuInput, menuInput, menuInput, menuInput]).machine.ctx.username.str ∈
        (controllerStep .success (controllerRun loginScreen .success [menuInput, menuInput, menuInput, menuInput]).machine
          launch).events :=
  @typed_login_starts_session loginScreen (by decide) (by decide) 24 80 (by decide) [117] [112] (by decide)
    (by decide) 0 (by decide) menuInput menuInput menuInput menuInput (by decide) (by decide) (by decide) ⟨rfl, rfl, rfl⟩

end Kia
