import Kia.Terminal
import Kia.Outcome
import Kia.PrivilegeDrop

/-!
# Choosing the session

`tui_select_session` of `tui.c` and its caller `handle_select_session`. After
its checks the function puts the cursor on the entry `default_idx` names, or on
the first, and loops: it clears and redraws the menu, calls `refresh` and
`getch`, and moves the cursor with Up and Down until Enter returns the entry
under it or Escape returns `-1`. Of the drawing calls, which only write to the
screen, the model keeps which entries the list shows (`menuDrawn`). As for the entry of the credentials, a run is given by the
terminal's answers, one per iteration: `none` for a `clear` or a `refresh`
that returns `ERR`, or else the value `getch` returns.

`select_loop_cursor` shows that the loop is a cursor confined to the entries
(`Cursor`), so the range check of its Enter branch never fails and every value
it returns is `-1` or an index of the catalogue. The cursor is not confined to
the entries drawn: on a screen too short for the catalogue, the entries below
the last row are chosen without being shown. The catalogue is written only
by `handle_load_config`, which never leaves it empty on the way to the login
screen; so in a reachable iteration of `STATE_SELECT_SESSION` the menu has
entries, and the iteration moves on to `STATE_AUTHENTICATE` exactly when the
first key that ends the menu is Enter. Fed what `tui_get_credentials` returns, `handle_get_credentials`
never takes its empty-name or too-long branch: a returned name has between 1
and 20 characters. No handler moves back to a set-up state,
so `STATE_INIT`, `STATE_LOAD_CONFIG` and `STATE_CHECK_AUTOLOGIN` run at most
once in a run.
-/

namespace Kia

/-! ## tui_select_session -/

/-- Where one iteration of the menu's loop leaves it: returning `value`, or at
the next iteration with the cursor on `selected`. -/
inductive MenuStep where
  | returned (value : Int)
  | moved (selected : Int)

/-- The `switch (ch)` of the loop over `count` entries, with the cursor on
`selected`. -/
def selectKey (count selected ch : Int) : MenuStep :=
  if ch = 10 ∨ ch = keyEnter then
    if 0 ≤ selected ∧ selected < count then .returned selected else .returned (-1)
  else if ch = keyUp then
    if 0 < selected then .moved (selected - 1) else .moved selected
  else if ch = keyDown then
    if selected < count - 1 then .moved (selected + 1) else .moved selected
  else if ch = 27 then .returned (-1)
  else .moved selected

/-- The `while (1)` loop over the terminal's answers: the value it returns, or
`none` while it still waits for a key. -/
def selectLoop (count : Int) : Int → List (Option Int) → Option Int
  | _, [] => none
  | _, none :: _ => some (-1)
  | selected, some ch :: answers =>
    if ch = err then some (-1)
    else
      match selectKey count selected ch with
      | .returned value => some value
      | .moved selected => selectLoop count selected answers

/-- `tui_select_session(sessions, default_idx)` on a screen of `screen` rows and
columns (`none` when `stdscr` is NULL): the value it returns, or `none` while
it waits for a key. `sessions->count` is the length of the catalogue. -/
def tuiSelectSession (sessions : List SessionInfo) (defaultIdx : Int) (screen : Option (Int × Int))
    (answers : List (Option Int)) : Option Int :=
  if sessions = [] then some (-1)
  else
    match screen with
    | none => some (-1)
    | some (maxY, maxX) =>
      if maxY < 10 ∨ maxX < 60 then some (-1)
      else
        selectLoop sessions.length
          (if 0 ≤ defaultIdx ∧ defaultIdx < sessions.length then defaultIdx else 0) answers

/-! ## A cursor on the entries -/

/-- A cursor on one of `count` entries. -/
structure Cursor (count : Nat) where
  position : Nat
  inRange : position < count

/-- The cursor on the entry `index` names, or on the first entry. -/
def Cursor.start (count : Nat) (index : Int) (nonempty : 0 < count) : Cursor count :=
  if named : 0 ≤ index ∧ index < count then ⟨index.toNat, by omega⟩ else ⟨0, nonempty⟩

/-- Up: the previous entry, or the first one again. -/
def Cursor.up {count : Nat} (cursor : Cursor count) : Cursor count :=
  ⟨cursor.position - 1, by have := cursor.inRange; omega⟩

/-- Down: the next entry, or the last one again. -/
def Cursor.down {count : Nat} (cursor : Cursor count) : Cursor count :=
  ⟨min (cursor.position + 1) (count - 1), by have := cursor.inRange; omega⟩

@[simp] theorem Cursor.up_position {count : Nat} (cursor : Cursor count) :
    cursor.up.position = cursor.position - 1 := rfl

@[simp] theorem Cursor.down_position {count : Nat} (cursor : Cursor count) :
    cursor.down.position = min (cursor.position + 1) (count - 1) := rfl

/-- What the user does in the menu. -/
inductive MenuKey where
  | up
  | down
  | choose
  | leave
deriving DecidableEq, Repr

/-- The menu over a run of keys: the entry chosen, `some none` when the user
leaves, or `none` while no key has ended it. -/
def Cursor.run {count : Nat} : Cursor count → List MenuKey → Option (Option (Fin count))
  | _, [] => none
  | cursor, .choose :: _ => some (some ⟨cursor.position, cursor.inRange⟩)
  | _, .leave :: _ => some none
  | cursor, .up :: keys => cursor.up.run keys
  | cursor, .down :: keys => cursor.down.run keys

/-- The menu key a code from getch stands for; `none` for a code the menu
ignores. -/
def menuKeyOf (ch : Int) : Option MenuKey :=
  if ch = 10 ∨ ch = keyEnter then some .choose
  else if ch = keyUp then some .up
  else if ch = keyDown then some .down
  else if ch = 27 then some .leave
  else none

/-- The keys the menu reads; a failed `clear` or `refresh`, and an `ERR` from
getch, leave it. -/
def menuKeys : List (Option Int) → List MenuKey
  | [] => []
  | none :: _ => [.leave]
  | some ch :: answers => if ch = err then [.leave] else (menuKeyOf ch).toList ++ menuKeys answers

/-- The value `tui_select_session` returns for an outcome of the menu. -/
def menuValue {count : Nat} : Option (Fin count) → Int
  | some entry => entry.val
  | none => -1

/-! ## The loop is the cursor -/

section Simulation

variable {count : Nat} (cursor : Cursor count) {ch : Int}

/-! One lemma per case of the switch, with the cursor of the loop on an entry. -/

theorem select_key_choose (choose : ch = 10 ∨ ch = keyEnter) :
    selectKey count cursor.position ch = .returned cursor.position := by
  have := cursor.inRange
  rw [selectKey, if_pos choose, if_pos (by omega)]

theorem select_key_up (up : ch = keyUp) :
    selectKey count cursor.position ch = .moved cursor.up.position := by
  subst up
  have := cursor.inRange
  rw [selectKey, if_neg (by simp [keyUp, keyEnter]), if_pos rfl]
  split_ifs <;> (rw [Cursor.up_position]; congr 1; omega)

theorem select_key_down (down : ch = keyDown) :
    selectKey count cursor.position ch = .moved cursor.down.position := by
  subst down
  have := cursor.inRange
  rw [selectKey, if_neg (by simp [keyDown, keyEnter]), if_neg (by simp [keyDown, keyUp]), if_pos rfl]
  split_ifs <;> (rw [Cursor.down_position]; congr 1; omega)

theorem select_key_leave (leave : ch = 27) : selectKey count cursor.position ch = .returned (-1) := by
  subst leave
  rw [selectKey, if_neg (by simp [keyEnter]), if_neg (by simp [keyUp]), if_neg (by simp [keyDown]), if_pos rfl]

theorem select_key_ignored (ignored : menuKeyOf ch = none) :
    selectKey count cursor.position ch = .moved cursor.position := by
  unfold menuKeyOf at ignored
  split_ifs at ignored with choose up down leave
  rw [selectKey, if_neg choose, if_neg up, if_neg down, if_neg leave]

end Simulation

/-- The loop from a cursor on an entry returns what the cursor does over the
keys the terminal gives: the entry chosen, or `-1` when the user leaves or the
terminal fails.

Proof: by induction on the answers, one switch lemma per key. -/
theorem select_loop_cursor {count : Nat} (cursor : Cursor count) (answers : List (Option Int)) :
    selectLoop count cursor.position answers = (cursor.run (menuKeys answers)).map menuValue := by
  induction answers generalizing cursor with
  | nil => rfl
  | cons answer answers inductionHypothesis =>
    cases answer with
    | none => rfl
    | some ch =>
      by_cases failed : ch = err
      · simp only [selectLoop, menuKeys, failed, if_true, Cursor.run, Option.map_some', menuValue]
      rw [selectLoop, if_neg failed, menuKeys, if_neg failed]
      cases key : menuKeyOf ch with
      | none =>
        rw [select_key_ignored cursor key, Option.toList, List.nil_append]
        exact inductionHypothesis cursor
      | some key' =>
        unfold menuKeyOf at key
        split_ifs at key with choose up down leave <;> cases key
        · rw [select_key_choose cursor choose]
          rfl
        · rw [select_key_up cursor up]
          exact inductionHypothesis cursor.up
        · rw [select_key_down cursor down]
          exact inductionHypothesis cursor.down
        · rw [select_key_leave cursor leave]
          rfl

theorem cursor_start_position (count : Nat) (index : Int) (nonempty : 0 < count) :
    ((Cursor.start count index nonempty).position : Int) = if 0 ≤ index ∧ index < count then index else 0 := by
  unfold Cursor.start
  split_ifs with named
  · exact Int.toNat_of_nonneg named.1
  · rfl

/-- On a catalogue with entries and a screen of at least 10 rows and 60
columns, `tui_select_session` is the menu with the cursor first on the entry
`default_idx` names, or on the first entry: it returns the entry chosen with
Enter, or `-1` when the user leaves with Escape or the terminal fails. -/
theorem tui_select_session_cursor (sessions : List SessionInfo) (defaultIdx rows columns : Int)
    (answers : List (Option Int)) (nonempty : 0 < sessions.length) (large : 10 ≤ rows ∧ 60 ≤ columns) :
    tuiSelectSession sessions defaultIdx (some (rows, columns)) answers =
      ((Cursor.start sessions.length defaultIdx nonempty).run (menuKeys answers)).map menuValue := by
  rw [← select_loop_cursor, cursor_start_position, tuiSelectSession, if_neg (List.length_pos.mp nonempty),
    if_neg (by omega)]

theorem tui_select_session_cursor_on_catalogue :
    0 < [waylandSession].length ∧ (10 ≤ (24 : Int) ∧ 60 ≤ (80 : Int)) ∧
      tuiSelectSession [waylandSession] 3 (some (24, 80)) [some keyDown, some 10] =
        ((Cursor.start [waylandSession].length 3 (by decide)).run (menuKeys [some keyDown, some 10])).map
          menuValue :=
  ⟨by decide, by decide, tui_select_session_cursor [waylandSession] 3 24 80 _ (by decide) (by decide)⟩

/-! ## What the menu shows

Each iteration redraws the list from `start_row`, one entry a row, and the
`for` loop stops at the first row at or past `max_y - 3`. The cursor is not
confined to the rows drawn: on a screen too short for the catalogue, Down
moves it onto entries that are never shown, and Enter returns them. -/

/-- `start_row`: a third of the way down, or row 2 when the list and the four
lines around it do not fit below that. -/
def menuStartRow (count maxY : Int) : Int := if maxY / 3 + count + 4 > maxY then 2 else maxY / 3

/-- The indexes, from `index` on, of the entries the drawing loop shows: it
stops at the first row at or past `max_y - 3` and skips an entry whose name is
empty. -/
def menuDrawnFrom (startRow maxY : Int) : Nat → List SessionInfo → List Nat
  | _, [] => []
  | index, session :: sessions =>
    if startRow + index ≥ maxY - 3 then []
    else (if session.name.bytes = [] then [] else [index]) ++ menuDrawnFrom startRow maxY (index + 1) sessions

/-- The indexes of the entries the menu draws on a screen of `maxY` rows. -/
def menuDrawn (sessions : List SessionInfo) (maxY : Int) : List Nat :=
  menuDrawnFrom (menuStartRow sessions.length maxY) maxY 0 sessions

/-- Since the rows grow with the index, the loop's `break` keeps exactly the
named entries whose row is above `max_y - 3`. -/
theorem mem_menu_drawn_from (startRow maxY : Int) (sessions : List SessionInfo) (first index : Nat) :
    index ∈ menuDrawnFrom startRow maxY first sessions ↔
      first ≤ index ∧ (∃ session, sessions.get? (index - first) = some session ∧ session.name.bytes ≠ []) ∧
        startRow + index < maxY - 3 := by
  induction sessions generalizing first with
  | nil => simp [menuDrawnFrom]
  | cons session sessions inductionHypothesis =>
    by_cases stop : startRow + first ≥ maxY - 3
    · rw [menuDrawnFrom, if_pos stop]
      simp only [List.not_mem_nil, false_iff, not_and]
      intro later _
      omega
    rw [menuDrawnFrom, if_neg stop, List.mem_append, inductionHypothesis]
    constructor
    · rintro (here | ⟨later, ⟨found, get, named⟩, row⟩)
      · split_ifs at here with empty
        · exact absurd here (List.not_mem_nil _)
        rw [List.mem_singleton] at here
        subst here
        exact ⟨le_refl _, ⟨session, by rw [Nat.sub_self]; rfl, empty⟩, by omega⟩
      · refine ⟨by omega, ⟨found, ?_, named⟩, row⟩
        rw [show index - first = index - (first + 1) + 1 by omega]
        exact get
    · rintro ⟨le, ⟨found, get, named⟩, row⟩
      rcases Nat.eq_or_lt_of_le le with rfl | later
      · rw [Nat.sub_self, List.get?_cons_zero, Option.some.injEq] at get
        subst get
        exact .inl (by rw [if_neg named]; exact List.mem_singleton_self _)
      · rw [show index - first = index - (first + 1) + 1 by omega] at get
        exact .inr ⟨later, ⟨found, get, named⟩, row⟩

/-- Cursors on the same entry are equal. -/
theorem Cursor.eq_of_position {count : Nat} {cursor other : Cursor count}
    (same : cursor.position = other.position) : cursor = other := by
  cases cursor
  cases other
  simp only at same
  subst same
  rfl

/-- Up pressed at least as often as the cursor's index brings it to the first entry. -/
theorem cursor_run_ups {count : Nat} (cursor first : Cursor count) (presses : Nat) (keys : List MenuKey)
    (enough : cursor.position ≤ presses) (top : first.position = 0) :
    cursor.run (List.replicate presses .up ++ keys) = first.run keys := by
  induction presses generalizing cursor with
  | zero => rw [Cursor.eq_of_position (by omega : cursor.position = first.position)]; rfl
  | succ presses inductionHypothesis =>
    rw [List.replicate_succ, List.cons_append]
    exact inductionHypothesis cursor.up (by rw [Cursor.up_position]; omega)

/-- Down pressed while there are entries below moves the cursor one entry a press. -/
theorem cursor_run_downs {count : Nat} (cursor target : Cursor count) (presses : Nat) (keys : List MenuKey)
    (moved : target.position = cursor.position + presses) :
    cursor.run (List.replicate presses .down ++ keys) = target.run keys := by
  induction presses generalizing cursor with
  | zero => rw [Cursor.eq_of_position (by omega : cursor.position = target.position)]; rfl
  | succ presses inductionHypothesis =>
    rw [List.replicate_succ, List.cons_append]
    have below := target.inRange
    exact inductionHypothesis cursor.down (by rw [Cursor.down_position]; omega)

/-- The keys that choose entry `index` of `count`: Up `count` times, Down
`index` times, then Enter. -/
def choosingKeys (count index : Nat) : List (Option Int) :=
  List.replicate count (some keyUp) ++ List.replicate index (some keyDown) ++ [some 10]

theorem menu_keys_replicate (ch : Int) (key : MenuKey) (presses : Nat) (rest : List (Option Int))
    (read : ch ≠ err) (named : menuKeyOf ch = some key) :
    menuKeys (List.replicate presses (some ch) ++ rest) = List.replicate presses key ++ menuKeys rest := by
  induction presses with
  | zero => rfl
  | succ presses inductionHypothesis =>
    rw [List.replicate_succ, List.cons_append, menuKeys, if_neg read, named, inductionHypothesis]
    rfl

theorem menu_keys_choosing (count index : Nat) :
    menuKeys (choosingKeys count index) = List.replicate count .up ++ (List.replicate index .down ++ [.choose]) := by
  rw [choosingKeys, List.append_assoc, menu_keys_replicate keyUp .up _ _ (by decide) (by decide),
    menu_keys_replicate keyDown .down _ _ (by decide) (by decide)]
  rfl

/-- Up, Down and Enter return entry `index`, whatever the default index. -/
theorem tui_select_session_choosing (sessions : List SessionInfo) (defaultIdx rows columns : Int)
    (large : 10 ≤ rows ∧ 60 ≤ columns) (index : Nat) (inRange : index < sessions.length) :
    tuiSelectSession sessions defaultIdx (some (rows, columns)) (choosingKeys sessions.length index) = some index := by
  have nonempty : 0 < sessions.length := by omega
  rw [tuiSelectSession, if_neg (List.length_pos.mp nonempty), if_neg (by omega),
    ← cursor_start_position sessions.length defaultIdx nonempty, select_loop_cursor, menu_keys_choosing,
    cursor_run_ups _ ⟨0, nonempty⟩ _ _ (Cursor.start sessions.length defaultIdx nonempty).inRange.le rfl,
    cursor_run_downs ⟨0, nonempty⟩ ⟨index, inRange⟩ _ _ (Nat.zero_add _).symm]
  rfl

/-- On a screen of at least 10 rows and 60 columns, every entry of the
catalogue can be chosen, whatever the default index: Up, Down and Enter return
it. The menu draws entry `index` exactly when its name is not empty and its row
`start_row + index` is above `max_y - 3`; so on a screen shorter than the
catalogue needs, the entries past the last row are chosen without being shown. -/
theorem menu_choice_undrawn (sessions : List SessionInfo) (defaultIdx rows columns : Int)
    (large : 10 ≤ rows ∧ 60 ≤ columns) (index : Nat) (inRange : index < sessions.length) :
    tuiSelectSession sessions defaultIdx (some (rows, columns)) (choosingKeys sessions.length index) = some index ∧
      (index ∈ menuDrawn sessions rows ↔
        (sessions.get ⟨index, inRange⟩).name.bytes ≠ [] ∧ menuStartRow sessions.length rows + index < rows - 3) := by
  refine ⟨tui_select_session_choosing sessions defaultIdx rows columns large index inRange, ?_⟩
  rw [menuDrawn, mem_menu_drawn_from, Nat.sub_zero, List.get?_eq_get inRange]
  simp only [Nat.zero_le, true_and, Option.some.injEq, exists_eq_left']

/-- Six sessions on a 10-row screen: the list starts at row 2 and rows stop
before row 7, so the sixth entry is never drawn, yet Up, Down and Enter choose it. -/
theorem sixth_session_chosen_undrawn :
    (10 ≤ (10 : Int) ∧ 60 ≤ (80 : Int)) ∧ 5 < (List.replicate 6 waylandSession).length ∧
      (tuiSelectSession (List.replicate 6 waylandSession) 0 (some (10, 80)) (choosingKeys 6 5) = some 5 ∧
        (5 ∈ menuDrawn (List.replicate 6 waylandSession) 10 ↔
          ((List.replicate 6 waylandSession).get ⟨5, by decide⟩).name.bytes ≠ [] ∧
            menuStartRow (List.replicate 6 waylandSession).length 10 + 5 < 10 - 3)) :=
  ⟨by decide, by decide, menu_choice_undrawn (List.replicate 6 waylandSession) 0 10 80 (by decide) 5 (by decide)⟩

example : 5 ∉ menuDrawn (List.replicate 6 waylandSession) 10 ∧ menuDrawn (List.replicate 6 waylandSession) 10 = [0, 1, 2, 3, 4] := by
  decide

/-! ## The catalogue of the controller -/

/-- The states between discovery and the exit, in which the catalogue is in
place. -/
def AppState.Discovered (state : AppState) : Prop :=
  state ≠ .init ∧ state ≠ .loadConfig ∧ state ≠ .exit

instance (state : AppState) : Decidable state.Discovered := inferInstanceAs (Decidable (_ ∧ _ ∧ _))

/-- Only `handle_load_config` writes the catalogue. -/
theorem controller_step_sessions (m : Machine) (input : Input) (result : Status)
    (kept : m.ctx.state ≠ .loadConfig) :
    (controllerStep result m input).machine.ctx.sessions = m.ctx.sessions := by
  cases state : m.ctx.state <;> rw [state] at kept <;>
    simp only [controllerStep, state, Step.invoked, handleInit, handleCheckAutologin, handleShowLogin,
      handleGetCredentials, handleSelectSession, handleAuthenticate, handleStartSession,
      apply_ite (fun s : Step => s.machine.ctx.sessions), Machine.withCtx_ctx, ite_self]
  case loadConfig => exact absurd rfl kept
  all_goals (repeat' split) <;> rfl

/-- The loop never goes back from a state after discovery to one before it. -/
theorem discovered_moves {state next : AppState} (discovered : state.Discovered) (moves : Moves state next) :
    next.Discovered ∨ next = .exit := by
  cases state <;> simp only [AppState.Discovered, ne_eq, not_true_eq_false, false_and, and_false] at discovered <;>
    simp only [Moves] at moves <;> rcases moves with rfl | rfl <;> simp [AppState.Discovered]

/-- A run from a machine after discovery keeps its catalogue, and stays after
discovery until it exits. -/
theorem reaches_catalogue_kept {m later : Machine} {history : List Event} (run : Reaches m later history)
    (discovered : m.ctx.state.Discovered) :
    later.ctx.sessions = m.ctx.sessions ∧ (later.ctx.state.Discovered ∨ later.ctx.state = .exit) := by
  induction run with
  | init => exact ⟨rfl, .inl discovered⟩
  | step result input _ active inductionHypothesis =>
    obtain ⟨same, phase⟩ := inductionHypothesis
    have entered := phase.resolve_right active.2
    exact ⟨(controller_step_sessions _ input result entered.2.1).trans same,
      discovered_moves entered (controller_step_moves _ input result)⟩

/-- After discovery the catalogue has entries. -/
def CatalogueReady (m : Machine) : Prop := m.ctx.state.Discovered → m.ctx.sessions ≠ []

/-- `handle_load_config` moves on to `STATE_CHECK_AUTOLOGIN` only with a
catalogue that has entries, and no other handler writes it. -/
theorem catalogue_ready_step {m : Machine} (ready : CatalogueReady m) (result : Status) (input : Input) :
    CatalogueReady (controllerStep result m input).machine := by
  intro discovered
  have moves := controller_step_moves m input result
  cases state : m.ctx.state
  case loadConfig =>
    by_cases failed : input.discovery.result ≠ .success ∨ input.discovery.sessions = []
    · simp only [controllerStep, state, Step.invoked, handleLoadConfig, if_pos failed,
        Machine.withCtx_ctx] at discovered
      exact absurd rfl discovered.2.2
    · simp only [controllerStep, state, Step.invoked, handleLoadConfig, if_neg failed, Machine.withCtx_ctx]
      exact (not_or.mp failed).2
  case init =>
    rw [state] at moves
    rcases moves with next | next <;> rw [next] at discovered <;> simp [AppState.Discovered] at discovered
  case exit =>
    simp only [controllerStep, state] at discovered
    exact absurd rfl discovered.2.2
  all_goals
    have entered : m.ctx.state.Discovered := by simp [state, AppState.Discovered]
    rw [controller_step_sessions m input result entered.2.1]
    exact ready entered

/-- Every reachable machine after discovery holds a catalogue with entries. -/
theorem reaches_catalogue_ready {globals : Globals} {creds : Creds} {m : Machine} {history : List Event}
    (reached : Reaches (Machine.initial globals creds) m history) : CatalogueReady m := by
  induction reached with
  | init => exact fun discovered => absurd rfl discovered.1
  | step result input _ _ inductionHypothesis => exact catalogue_ready_step inductionHypothesis result input

/-- From any reachable machine after discovery, the catalogue has entries and
no later iteration of the loop changes it: `handle_load_config` runs once and
is the only handler that writes it. -/
theorem catalogue_fixed_after_discovery {globals : Globals} {creds : Creds} {m later : Machine}
    {history laterHistory : List Event} (reached : Reaches (Machine.initial globals creds) m history)
    (discovered : m.ctx.state.Discovered) (run : Reaches m later laterHistory) :
    m.ctx.sessions ≠ [] ∧ later.ctx.sessions = m.ctx.sessions :=
  ⟨reaches_catalogue_ready reached discovered, (reaches_catalogue_kept run discovered).1⟩

/-- Collaborators that all succeed with the default configuration and the
catalogue `[w]`; the terminal reads `u` and `p`, and the menu returns `0`. -/
def menuInput : Input :=
  { tuiInit := true
    loaded := KiaConfig.defaults
    loadResult := .success
    discovery := ⟨.success, [waylandSession], [], rfl⟩
    autologinLookup := .found ordinaryAccount
    credentials := ⟨.success, Buffer.ofStr 256 ⟨[117], by decide⟩, Buffer.ofStr 256 ⟨[112], by decide⟩, by decide⟩
    selection := 0
    clock := 1
    auth := ⟨1, 1, .locked, none, 0, 0, 0⟩
    launch := rootLaunch }

/-- Start-up, configuration, no autologin, the login screen and the entry: the
manager waits in `STATE_SELECT_SESSION`. -/
def menuRun : Run :=
  controllerRun (Machine.initial Globals.initial rootCreds) .success (List.replicate 5 menuInput)

theorem catalogue_fixed_on_menu_run :
    Reaches (Machine.initial Globals.initial rootCreds) menuRun.machine ([] ++ menuRun.events) ∧
      menuRun.machine.ctx.state.Discovered ∧
      Reaches menuRun.machine (controllerStep .success menuRun.machine menuInput).machine
        ([] ++ (controllerStep .success menuRun.machine menuInput).events) ∧
      (menuRun.machine.ctx.sessions ≠ [] ∧
        (controllerStep .success menuRun.machine menuInput).machine.ctx.sessions = menuRun.machine.ctx.sessions) := by
  have reached : Reaches (Machine.initial Globals.initial rootCreds) menuRun.machine ([] ++ menuRun.events) :=
    controller_run_reaches Reaches.init .success _
  have discovered : menuRun.machine.ctx.state.Discovered := by decide
  have run := Reaches.step .success menuInput (@Reaches.init menuRun.machine) (by decide)
  exact ⟨reached, discovered, run, catalogue_fixed_after_discovery reached discovered run⟩

/-- `STATE_INIT`, `STATE_LOAD_CONFIG` and `STATE_CHECK_AUTOLOGIN` are each
handled at most once: a run from a machine in one of them is back in that state
only if it has made no iteration. The configuration is loaded, the catalogue
discovered and autologin tried once per run. -/
theorem setup_state_not_revisited {m later : Machine} {history : List Event} (run : Reaches m later history)
    (setup : m.ctx.state = .init ∨ m.ctx.state = .loadConfig ∨ m.ctx.state = .checkAutologin) :
    later.ctx.state = m.ctx.state → later = m ∧ history = [] := by
  have early : m.ctx.state.phase < 3 := by
    rcases setup with state | state | state <;> rw [state] <;> decide
  intro again
  rcases (reaches_phase run).2 early with stayed | advanced
  · exact stayed
  · rw [again] at advanced
    exact (lt_irrefl _ advanced).elim

/-- The run of five menu iterations from the initial machine is never back in `STATE_INIT`. -/
theorem init_left_on_menu_run :
    Reaches (Machine.initial Globals.initial rootCreds) menuRun.machine ([] ++ menuRun.events) ∧
      ((Machine.initial Globals.initial rootCreds).ctx.state = .init ∨
        (Machine.initial Globals.initial rootCreds).ctx.state = .loadConfig ∨
        (Machine.initial Globals.initial rootCreds).ctx.state = .checkAutologin) ∧
      (menuRun.machine.ctx.state = (Machine.initial Globals.initial rootCreds).ctx.state →
        menuRun.machine = Machine.initial Globals.initial rootCreds ∧ [] ++ menuRun.events = []) := by
  have reached : Reaches (Machine.initial Globals.initial rootCreds) menuRun.machine ([] ++ menuRun.events) :=
    controller_run_reaches Reaches.init .success _
  exact ⟨reached, .inl rfl, setup_state_not_revisited reached (.inl rfl)⟩

/-! ## The credentials the controller receives -/

/-- Fed what `tui_get_credentials` leaves on the context's arrays, whatever the
terminal answers, `handle_get_credentials` never takes its empty-name branch
nor its too-long branch: it logs neither warning. It goes on to
`STATE_SELECT_SESSION` exactly when the terminal returned `KIA_SUCCESS` with a
password typed. -/
theorem handle_get_credentials_on_terminal (m : Machine) (input : Input) (screen : Option (Int × Int))
    (answers : List (Option Int)) (terminated : (0 : UInt8) ∈ m.ctx.username.bytes)
    (supplied : tuiCredentials m.ctx.username m.ctx.password terminated screen answers = some input.credentials) :
    Event.log .warn "Empty username provided" [] ∉ (handleGetCredentials m input).events ∧
      (∀ length, Event.log .warn "Username too long: %zu characters" [.int length] ∉
        (handleGetCredentials m input).events) ∧
      ((handleGetCredentials m input).machine.ctx.state = .selectSession ↔
        input.credentials.result = .success ∧ input.credentials.password.str.bytes ≠ []) := by
  unfold handleGetCredentials
  by_cases success : input.credentials.result = .success
  · obtain ⟨named, short⟩ := tui_credentials_name supplied success
    rw [if_neg (not_not.mpr success), if_neg named, if_neg (by omega)]
    by_cases empty : input.credentials.password.str.bytes = []
    · rw [if_pos empty]
      simp [Machine.withCtx, empty]
    · rw [if_neg empty]
      simp [Machine.withCtx, success, empty]
  · rw [if_pos success]
    simp [Machine.withCtx, success]

/-- What the form `u`, Tab, Enter on a 24 by 80 terminal leaves the first
`STATE_GET_CREDENTIALS` iteration: a name and an empty password. -/
def formCredentials : Credentials :=
  (tuiCredentials (Machine.initial Globals.initial rootCreds).ctx.username
    (Machine.initial Globals.initial rootCreds).ctx.password (by decide) (some (24, 80))
    [some 117, some 9, some 10]).get (by decide)

/-- An iteration answered with the form's credentials. -/
def formInput : Input := { menuInput with credentials := formCredentials }

/-- The form submits an empty password; the controller asks again, without
either dead warning. -/
theorem empty_password_on_form :
    ∃ terminated : (0 : UInt8) ∈ (Machine.initial Globals.initial rootCreds).ctx.username.bytes,
      tuiCredentials (Machine.initial Globals.initial rootCreds).ctx.username
          (Machine.initial Globals.initial rootCreds).ctx.password terminated (some (24, 80))
          [some 117, some 9, some 10] = some formInput.credentials ∧
        (Event.log .warn "Empty username provided" [] ∉
            (handleGetCredentials (Machine.initial Globals.initial rootCreds) formInput).events ∧
          (∀ length, Event.log .warn "Username too long: %zu characters" [.int length] ∉
            (handleGetCredentials (Machine.initial Globals.initial rootCreds) formInput).events) ∧
          ((handleGetCredentials (Machine.initial Globals.initial rootCreds) formInput).machine.ctx.state =
              .selectSession ↔
            formInput.credentials.result = .success ∧ formInput.credentials.password.str.bytes ≠ [])) := by
  have terminated : (0 : UInt8) ∈ (Machine.initial Globals.initial rootCreds).ctx.username.bytes := by decide
  have returned : (tuiCredentials (Machine.initial Globals.initial rootCreds).ctx.username
      (Machine.initial Globals.initial rootCreds).ctx.password (by decide) (some (24, 80))
      [some 117, some 9, some 10]).isSome := by decide
  have supplied : tuiCredentials (Machine.initial Globals.initial rootCreds).ctx.username
      (Machine.initial Globals.initial rootCreds).ctx.password terminated (some (24, 80))
      [some 117, some 9, some 10] = some formInput.credentials := (Option.some_get returned).symm
  exact ⟨terminated, supplied, handle_get_credentials_on_terminal _ formInput _ _ terminated supplied⟩

/-! ## The selection the controller receives -/

/-- The iteration of `STATE_SELECT_SESSION` stores the selection, and moves on
to `STATE_AUTHENTICATE` with `KIA_SUCCESS` exactly when it names an entry. -/
theorem select_session_step (m : Machine) (input : Input) (result : Status) (state : m.ctx.state = .selectSession) :
    (controllerStep result m input).machine.ctx.selectedSession = input.selection ∧
      ((controllerStep result m input).machine.ctx.state = .authenticate ↔
        (selectedEntry m.ctx.sessions input.selection).isSome) := by
  simp only [controllerStep, state, Step.invoked, handleSelectSession]
  cases selectedEntry m.ctx.sessions input.selection <;> simp

/-- Enter and leaving end the menu; Up and Down move the cursor. -/
def MenuKey.ends : MenuKey → Bool
  | .choose | .leave => true
  | .up | .down => false

/-- A menu that has ended chose an entry exactly when the first key that
ended it is Enter. -/
theorem cursor_run_chosen {count : Nat} (cursor : Cursor count) (keys : List MenuKey)
    {outcome : Option (Fin count)} (ended : cursor.run keys = some outcome) :
    outcome.isSome ↔ keys.find? MenuKey.ends = some .choose := by
  induction keys generalizing cursor with
  | nil => cases ended
  | cons key keys inductionHypothesis =>
    cases key with
    | choose => cases ended; simp [MenuKey.ends]
    | leave => cases ended; simp [MenuKey.ends]
    | up => simpa [MenuKey.ends] using inductionHypothesis cursor.up ended
    | down => simpa [MenuKey.ends] using inductionHypothesis cursor.down ended

/-- In a reachable iteration of `STATE_SELECT_SESSION` fed by
`tui_select_session` on a screen of at least 10 rows and 60 columns, the
controller moves on to `STATE_AUTHENTICATE` exactly when the first key that
ends the menu is Enter, and otherwise goes back to the login screen: Escape, an
`ERR` from the terminal, and no other key, leave the menu without a session. -/
theorem menu_choice_authenticates {globals : Globals} {creds : Creds} {m : Machine} {history : List Event}
    (reached : Reaches (Machine.initial globals creds) m history) (state : m.ctx.state = .selectSession)
    (result : Status) (input : Input) (rows columns : Int) (answers : List (Option Int))
    (large : 10 ≤ rows ∧ 60 ≤ columns)
    (returned : tuiSelectSession m.ctx.sessions (findDefaultSession m.ctx.sessions m.ctx.config.defaultSession).1
      (some (rows, columns)) answers = some input.selection) :
    (controllerStep result m input).machine.ctx.selectedSession = input.selection ∧
      ((controllerStep result m input).machine.ctx.state = .authenticate ↔
        (menuKeys answers).find? MenuKey.ends = some .choose) ∧
      ((controllerStep result m input).machine.ctx.state = .showLogin ↔
        (menuKeys answers).find? MenuKey.ends ≠ some .choose) := by
  have ready := reaches_catalogue_ready reached (by simp [state, AppState.Discovered])
  have nonempty : 0 < m.ctx.sessions.length := List.length_pos.mpr ready
  obtain ⟨stored, moved⟩ := select_session_step m input result state
  have next := controller_step_moves m input result
  rw [state] at next
  unfold tuiSelectSession at returned
  simp only [if_neg ready, if_neg (show ¬(rows < 10 ∨ columns < 60) by omega)] at returned
  rw [← cursor_start_position _ _ nonempty, select_loop_cursor] at returned
  obtain ⟨outcome, ended, valued⟩ := Option.map_eq_some'.mp returned
  have named : (selectedEntry m.ctx.sessions input.selection).isSome ↔ outcome.isSome := by
    cases outcome with
    | none => simp [menuValue] at valued; simp [selectedEntry, ← valued]
    | some entry =>
      simp only [Option.isSome_some, iff_true, ← valued, menuValue]
      exact selected_entry_isSome (by omega) (by omega)
  have chosen := moved.trans (named.trans (cursor_run_chosen _ _ ended))
  refine ⟨stored, chosen, ?_⟩
  rcases next with next | next
  · simpa [next] using chosen.mp next
  · simp only [next, true_iff]
    exact fun first => absurd (chosen.mpr first) (by simp [next])

theorem menu_choice_on_menu_run :
    Reaches (Machine.initial Globals.initial rootCreds) menuRun.machine ([] ++ menuRun.events) ∧
      menuRun.machine.ctx.state = .selectSession ∧ (10 ≤ (24 : Int) ∧ 60 ≤ (80 : Int)) ∧
      tuiSelectSession menuRun.machine.ctx.sessions
          (findDefaultSession menuRun.machine.ctx.sessions menuRun.machine.ctx.config.defaultSession).1
          (some (24, 80)) [some keyUp, some 10] = some menuInput.selection ∧
      ((controllerStep .success menuRun.machine menuInput).machine.ctx.selectedSession = menuInput.selection ∧
        ((controllerStep .success menuRun.machine menuInput).machine.ctx.state = .authenticate ↔
          (menuKeys [some keyUp, some 10]).find? MenuKey.ends = some .choose) ∧
        ((controllerStep .success menuRun.machine menuInput).machine.ctx.state = .showLogin ↔
          (menuKeys [some keyUp, some 10]).find? MenuKey.ends ≠ some .choose)) := by
  have reached : Reaches (Machine.initial Globals.initial rootCreds) menuRun.machine ([] ++ menuRun.events) :=
    controller_run_reaches Reaches.init .success _
  have state : menuRun.machine.ctx.state = .selectSession := by decide
  have returned : tuiSelectSession menuRun.machine.ctx.sessions
      (findDefaultSession menuRun.machine.ctx.sessions menuRun.machine.ctx.config.defaultSession).1
      (some (24, 80)) [some keyUp, some 10] = some menuInput.selection := by decide
  exact ⟨reached, state, by decide, returned,
    menu_choice_authenticates reached state .success menuInput 24 80 _ (by decide) returned⟩

end Kia
