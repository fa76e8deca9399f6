import Mathlib.Data.List.Basic

/-!
# C values of the kia display manager

The manager keeps identities, secrets and session fields in fixed `char`
arrays and reports every outcome as one of the `KIA_*` codes of `config.h`.
A C string is its bytes before the terminating NUL and carries the proof that
none of them is NUL, so `strcmp` is equality and `strlen` is length. A fixed
array is a byte list of its declared size; its C string is the prefix before
its first NUL, or the whole array when it holds none.

Everything the manager's code does that another party can observe is one
`Event`: a call into the logger, the terminal, the identity provider or the
kernel, and the writes of `ctx->username`. The forked child of
`session_start` runs the same code, so its calls are events of the same trace.
-/

namespace Kia

/-- A NUL-terminated string, as the bytes before its terminator. -/
structure CStr where
  bytes : List UInt8
  nulFree : ∀ byte ∈ bytes, byte ≠ 0
deriving DecidableEq

namespace CStr

/-- The empty string `""`. -/
def empty : CStr := ⟨[], fun _ absent => nomatch absent⟩

/-- The string `strncpy(dst, src, n); dst[n] = '\0'` leaves in a larger array:
the first `n` bytes of the source. -/
def take (n : Nat) (source : CStr) : CStr :=
  ⟨source.bytes.take n, fun byte member => source.nulFree byte (List.mem_of_mem_take member)⟩

@[simp] theorem take_bytes (n : Nat) (source : CStr) :
    (source.take n).bytes = source.bytes.take n := rfl

/-- The string a byte sequence holds in C: its bytes before the first NUL. -/
def ofBytes (bytes : List UInt8) : CStr :=
  ⟨bytes.takeWhile (· != 0), fun byte member => by simpa using List.mem_takeWhile_imp member⟩

/-- A copy bounded by the source's own length is the source. -/
theorem take_of_length_le {n : Nat} {source : CStr} (short : source.bytes.length ≤ n) :
    source.take n = source := by
  cases source
  simp only [take, List.take_of_length_le short]

end CStr

/-- The bytes of an ASCII string literal of the source. -/
def ascii (text : String) : List UInt8 := text.toList.map Char.toUInt8

/-- A `char` array of `size` bytes. -/
structure Buffer (size : Nat) where
  bytes : List UInt8
  length_eq : bytes.length = size
deriving DecidableEq

namespace Buffer

/-- The array after `memset(buffer, 0, size)` or `secure_memzero`. -/
def zero (size : Nat) : Buffer size := ⟨List.replicate size 0, List.length_replicate size 0⟩

/-- The string the array holds: its bytes before the first NUL. -/
def str {size : Nat} (buffer : Buffer size) : CStr :=
  ⟨buffer.bytes.takeWhile (· != 0), fun byte member => by
    simpa using List.mem_takeWhile_imp member⟩

/-- Every byte of the array is zero. -/
def Zeroed {size : Nat} (buffer : Buffer size) : Prop := ∀ byte ∈ buffer.bytes, byte = 0

instance {size : Nat} (buffer : Buffer size) : Decidable buffer.Zeroed :=
  inferInstanceAs (Decidable (∀ byte ∈ buffer.bytes, byte = 0))

theorem zero_zeroed (size : Nat) : (zero size).Zeroed := fun _ member =>
  List.eq_of_mem_replicate member

/-- The array after `strncpy(dst, src, size - 1); dst[size - 1] = '\0'`: the
source's first `size - 1` bytes, then zero padding. -/
def ofStr (size : Nat) (source : CStr) : Buffer size :=
  ⟨source.bytes.take (size - 1) ++ List.replicate (size - (source.bytes.take (size - 1)).length) 0,
    by simp only [List.length_append, List.length_replicate, List.length_take]; omega⟩

/-- A string shorter than the array is copied whole and read back whole. -/
theorem str_ofStr {size : Nat} {source : CStr} (short : source.bytes.length < size) :
    (ofStr size source).str = source := by
  have copied : source.bytes.take (size - 1) = source.bytes := List.take_of_length_le (by omega)
  have padded : size - source.bytes.length = (size - source.bytes.length - 1) + 1 := by omega
  obtain ⟨bytes, nulFree⟩ := source
  simp only [str, ofStr, CStr.mk.injEq]
  simp only at copied padded
  rw [copied, padded, List.replicate_succ, List.takeWhile_append_of_pos (fun byte member => by
    simpa using nulFree byte member)]
  simp

end Buffer

/-- The return codes of `config.h`. -/
inductive Status where
  | success
  | errorConfig
  | errorAuth
  | errorSession
  | errorSystem
  | errorPam
deriving DecidableEq, Repr

/-- The integer each code is defined as. -/
def Status.code : Status → Int
  | .success => 0
  | .errorConfig => -1
  | .errorAuth => -2
  | .errorSession => -3
  | .errorSystem => -4
  | .errorPam => -5

/-- `log_level_t`. -/
inductive LogLevel where
  | debug
  | info
  | warn
  | error
deriving DecidableEq, Repr

/-- One variadic argument of a format string. `errno` and `pamError` stand for
`strerror(code)` and `pam_strerror(handle, code)`. -/
inductive LogArg where
  | str (value : CStr)
  | int (value : Int)
  | text (value : String)
  | errno (code : Nat)
  | pamError (code : Int)
deriving DecidableEq

/-- `app_state_t`. -/
inductive AppState where
  | init
  | loadConfig
  | checkAutologin
  | showLogin
  | getCredentials
  | selectSession
  | authenticate
  | startSession
  | exit
deriving DecidableEq, Repr

/-- `session_type_t`. -/
inductive SessionType where
  | x11
  | wayland
deriving DecidableEq, Repr

/-- `session_info_t`: a discovered session's name and command. -/
structure SessionInfo where
  name : CStr
  exec : CStr
  type : SessionType
deriving DecidableEq

/-- The word `"X11"` or `"Wayland"` the messages use for a session type. -/
def SessionType.label : SessionType → String
  | .x11 => "X11"
  | .wayland => "Wayland"

/-- Real and effective user and group ids of a process. -/
structure Ids where
  ruid : Nat
  euid : Nat
  rgid : Nat
  egid : Nat
deriving DecidableEq, Repr

/-- Descriptors the manager opens itself: the log file of `logger_init` and the
terminal of `tty_lock`. No open in kia asks for close-on-exec. -/
inductive FileKind where
  | logFile
  | vtLock
deriving DecidableEq, Repr

/-- What the manager's code does that another party observes. -/
inductive Event where
  /-- The state loop invokes the handler of `state`. -/
  | handler (state : AppState)
  /-- A call `logger_log(level, format, args...)`. -/
  | log (level : LogLevel) (format : String) (args : List LogArg)
  /-- `tui_show_error` with a message formatted from `format` and `args`. -/
  | showError (format : String) (args : List LogArg)
  /-- `tui_show_message(message)`. -/
  | showMessage (message : String)
  /-- `ctx->username` is written and now holds `user`. -/
  | username (user : CStr)
  /-- `user_exists(user)` returns `result`. -/
  | userExists (user : CStr) (result : Bool)
  /-- `tui_select_session` returns `index`. -/
  | selectSession (index : Int)
  /-- `pam_start("kia", user, ...)` returns `code`. -/
  | pamStart (user : CStr) (code : Int)
  /-- `pam_authenticate` for `user` returns `code`. -/
  | pamAuthenticate (user : CStr) (code : Int)
  /-- `pam_acct_mgmt` for `user` returns `code`. -/
  | pamAcctMgmt (user : CStr) (code : Int)
  /-- `auth_authenticate(user, ...)` returns `result` to the controller. -/
  | authenticate (user : CStr) (result : Status)
  /-- The controller calls `session_start(session, user)`. -/
  | sessionStart (session : SessionInfo) (user : CStr)
  /-- `setenv(name, ...)` in the child, successful or not. -/
  | setenv (name : String) (ok : Bool)
  /-- `chdir(home)` in the child. -/
  | chdir (ok : Bool)
  /-- `setgid(gid)` in the child returns `result`. -/
  | setgid (gid : Nat) (result : Int)
  /-- `setuid(uid)` in the child returns `result`. -/
  | setuid (uid : Nat) (result : Int)
  /-- An `execlp` of `file` in the child, made with ids `ids`, supplementary
  groups `groups` and the open descriptors `inherited`. -/
  | exec (file : String) (ids : Ids) (groups : List Nat) (inherited : List FileKind)
  /-- `exit(status)` in the child. -/
  | exit (status : Int)
  /-- A SIGTERM or SIGINT is delivered and `signal_handler` runs. -/
  | signal
deriving DecidableEq

/-- A call into the logger. -/
def Event.isLog : Event → Bool
  | .log _ _ _ => true
  | _ => false

/-- An event a classification rejects is absent from a list it accepts throughout. -/
theorem Event.not_mem_of_all {accepts : Event → Bool} {events : List Event}
    (all : events.all accepts) (event : Event) (rejected : accepts event = false) :
    event ∉ events := fun member => by
  simpa [rejected] using List.all_eq_true.mp all event member

/-- Process-wide static state of `logger.c` and `auth.c`, and the descriptors
the process holds open. -/
structure Globals where
  /-- Open descriptors the manager opened, most recent first. -/
  files : List FileKind
  /-- `log_file != NULL`. -/
  logFile : Bool
  /-- `logging_enabled`. -/
  loggingEnabled : Bool
  /-- `tty_fd >= 0`. -/
  ttyFd : Bool
  /-- `g_shutdown_requested` of `main.c`, set by `signal_handler`. -/
  shutdownRequested : Bool
deriving DecidableEq

/-- The state of a process that has opened nothing. -/
def Globals.initial : Globals := ⟨[], false, false, false, false⟩

end Kia
