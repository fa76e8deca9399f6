import Kia.Auth
import Kia.Session

/-!
# The controller's context and its collaborators

`app_context_t`, the process state around it, and what the collaborators of
one loop iteration may answer. The terminal, the configuration file, the
session catalogue, the account database, the identity provider, the clock and
the kernel are not modelled by their code here: one `Input` holds an answer of
each, so a statement over all input sequences covers all their behaviours,
read failures part-way through typing included.

`user_exists` and `find_default_session` are the two helpers of
`controller.c` that the handlers call.
-/

namespace Kia

/-- `app_context_t`. The session list is its `count` entries. -/
structure AppContext where
  state : AppState
  config : KiaConfig
  authState : AuthState
  sessions : List SessionInfo
  username : Buffer 256
  password : Buffer 256
  selectedSession : Int
  running : Bool

/-- `controller_init`: a zeroed context in `STATE_INIT`, running, with no
session selected. -/
def controllerInit : AppContext :=
  { state := .init
    config := KiaConfig.zero
    authState := AuthState.zero
    sessions := []
    username := Buffer.zero 256
    password := Buffer.zero 256
    selectedSession := -1
    running := true }

/-- The manager process: its context, its static state and its credentials. -/
structure Machine where
  ctx : AppContext
  globals : Globals
  creds : Creds

/-- What one call of `tui_get_credentials` left in the two buffers, and its
return code. The function clears both arrays before it accepts a key and
writes at most 20 characters into them, so the name stays terminated in its
array. -/
structure Credentials where
  result : Status
  username : Buffer 256
  password : Buffer 256
  terminated : (0 : UInt8) ∈ username.bytes

/-- What `session_discover` returned, the list it left and what it logged. -/
structure Discovery where
  result : Status
  sessions : List SessionInfo
  events : List Event
  logged : events.all Event.isLog

/-- The answers of the collaborators of one loop iteration. A handler reads
only the fields of the calls it makes. -/
structure Input where
  /-- `initscr()` returns a screen in `tui_init`. ncurses' `initscr` exits the
  process instead of returning `NULL`, so with ncurses this always holds; the
  `NULL` branch is kept as the source writes it. -/
  tuiInit : Bool
  /-- The configuration `config_load` leaves in `ctx->config`, and its return code. -/
  loaded : KiaConfig
  loadResult : Status
  discovery : Discovery
  /-- `getpwnam` of the autologin user. -/
  autologinLookup : Lookup
  credentials : Credentials
  /-- The index `tui_select_session` returns. -/
  selection : Int
  /-- `time(NULL)` in `handle_authenticate`'s lockout check. -/
  clock : Int
  auth : AuthWorld
  launch : LaunchWorld

/-- `tui_init`: fails only when `initscr()` does. -/
def tuiInit (initscr : Bool) : Status := if initscr then .success else .errorSystem

/-- `user_exists`: a non-empty name of at most 255 bytes that `getpwnam` finds. -/
def userExists (username : CStr) (lookup : Lookup) : Bool × List Event :=
  if username.bytes = [] ∨ 255 < username.bytes.length then (false, [])
  else
    match lookup with
    | .found _ => (true, [])
    | .notFound => (false, [])
    | .failed errno => (false, [.log .warn "Error checking user '%s': %s" [.str username, .errno errno]])

/-- `find_default_session`: the first entry with a non-empty name equal to
`name`, else the first entry. -/
def findDefaultSession (sessions : List SessionInfo) (name : CStr) : Int × List Event :=
  if sessions = [] ∨ name.bytes = [] then (0, [])
  else
    match sessions.findIdx? (fun session => session.name.bytes ≠ [] ∧ session.name = name) with
    | some index => (index, [])
    | none => (0, [.log .debug "Default session '%s' not found, using first session" [.str name]])

theorem user_exists_logs (username : CStr) (lookup : Lookup) :
    (userExists username lookup).2.all Event.isLog := by
  unfold userExists
  split_ifs <;> (try split) <;> rfl

theorem find_default_session_logs (sessions : List SessionInfo) (name : CStr) :
    (findDefaultSession sessions name).2.all Event.isLog := by
  unfold findDefaultSession
  split_ifs <;> (try split) <;> rfl

/-- The session `ctx->sessions.sessions[index]` names when
`0 <= index < ctx->sessions.count`, and nothing otherwise. -/
def selectedEntry (sessions : List SessionInfo) (index : Int) : Option SessionInfo :=
  if 0 ≤ index then sessions.get? index.toNat else none

/-- An entry is found exactly for an index in range. -/
theorem selected_entry_eq_some {sessions : List SessionInfo} {index : Int} {session : SessionInfo}
    (found : selectedEntry sessions index = some session) :
    0 ≤ index ∧ index < sessions.length ∧ sessions.get? index.toNat = some session := by
  unfold selectedEntry at found
  split_ifs at found with nonnegative
  have inRange := (List.get?_eq_some.mp found).1
  exact ⟨nonnegative, by omega, found⟩

/-- Every index in range names an entry. -/
theorem selected_entry_isSome {sessions : List SessionInfo} {index : Int}
    (nonnegative : 0 ≤ index) (inRange : index < sessions.length) :
    (selectedEntry sessions index).isSome := by
  simp only [selectedEntry, nonnegative, if_true, Option.isSome_iff_exists]
  exact ⟨_, List.get?_eq_get (by omega)⟩

/-- The result of `find_default_session` is an index of a non-empty list. -/
theorem find_default_session_range (sessions : List SessionInfo) (name : CStr)
    (nonempty : sessions ≠ []) :
    (selectedEntry sessions (findDefaultSession sessions name).1).isSome := by
  have positive : 0 < sessions.length := List.length_pos.mpr nonempty
  unfold findDefaultSession
  split_ifs
  · exact selected_entry_isSome (Int.le_refl 0) (by simpa using positive)
  split
  · rename_i index found
    have below := (List.findIdx?_eq_some_iff_findIdx_eq.mp found).1
    exact selected_entry_isSome (by omega) (by simpa using below)
  · exact selected_entry_isSome (Int.le_refl 0) (by simpa using positive)

end Kia
