import Kia.Main

/-!
# The log file

`logger.c` keeps its state in three statics: `log_file` and `logging_enabled`,
which `Globals` holds, and `min_log_level`, which starts at `LOG_DEBUG` and is
never written. The loop's model records every `logger_log` call as an
`Event.log`; nothing outside `logger.c` reads the statics, so what the log file
receives is obtained here by running those calls, with `logger_init` and
`logger_close`, against the statics and the file.

A call appends one line `timestamp [LEVEL] message` when logging is enabled
with a file open; the message is what `vsnprintf` makes of the format and its
arguments, cut to the 1023 bytes that fit in `message[1024]`. The stream is
unbuffered, so an `fprintf` that fails has written some first bytes of the
line, which stay in the file. A failed `vsnprintf`, `fprintf` or `fflush` turns
logging off, and only `logger_init` turns it on again. For every sequence of
calls, logging is never on without an open file and the file only grows; from
a state where logging is on, a run of `logger_log` calls writes what the calls
up to its first failure write, and nothing after it; and once logging is off,
nothing is written until the next `logger_init`. The last makes `main`'s farewell line unwritable:
`controller_cleanup` has closed the log when `cleanup_and_exit` logs it.
-/

namespace Kia

/-- The value of a `log_level_t` constant. -/
def LogLevel.toNat : LogLevel → Nat
  | .debug => 0
  | .info => 1
  | .warn => 2
  | .error => 3

/-- `min_log_level`: set to `LOG_DEBUG` and never written. -/
def minLogLevel : LogLevel := .debug

/-- `log_level_strings`. -/
def logLevelStrings : LogLevel → String
  | .debug => "DEBUG"
  | .info => "INFO"
  | .warn => "WARN"
  | .error => "ERROR"

/-- `sizeof(message)` in `logger_log`. -/
def messageSize : Nat := 1024

/-- What the C library answers during one `logger_log` call: the text
`strftime` makes of the current time (`none` when `time`, `gmtime` or
`strftime` fails), how many bytes of the line reached the file before
`fprintf` failed (`none` when it succeeds), and whether `fflush` succeeds. -/
structure LogIo where
  clock : Option String
  writeError : Option Nat
  flushed : Bool
deriving DecidableEq, Repr

/-- `get_iso8601_timestamp(timestamp, sizeof(timestamp))`. -/
def getIso8601Timestamp (clock : Option String) : String := clock.getD "UNKNOWN"

/-- One line of the log file: a timestamp, a level and a message that fits in
`message[1024]` with its terminating NUL. -/
structure LogEntry where
  timestamp : String
  level : LogLevel
  message : List UInt8
  fits : message.length < messageSize
deriving DecidableEq

/-- The bytes `fprintf(log_file, "%s [%s] %s\n", ...)` writes for an entry. -/
def LogEntry.line (entry : LogEntry) : List UInt8 :=
  (entry.timestamp ++ " [" ++ logLevelStrings entry.level ++ "] ").toUTF8.toList ++
    entry.message ++ [10]

/-- The entry of a message `vsnprintf` formats into `message[1024]`: the first
1023 bytes of its output. -/
def LogEntry.ofText (timestamp : String) (level : LogLevel) (text : List UInt8) : LogEntry :=
  ⟨timestamp, level, text.take (messageSize - 1), by
    rw [List.length_take]
    exact Nat.lt_of_le_of_lt (Nat.min_le_left _ _) (by decide)⟩

/-- The process state, whose `log_file` and `logging_enabled` are the logger's
statics, and the bytes the log file has received. -/
structure LogSink where
  globals : Globals
  contents : List UInt8

/-- The sink with `logging_enabled` cleared. -/
def LogSink.disable (sink : LogSink) : LogSink :=
  { sink with globals := { sink.globals with loggingEnabled := false } }

/-- A `logger_log(level, format, ...)` call with the arguments `args`, and the
C library's answers to it. -/
structure LogCall where
  level : LogLevel
  format : String
  args : List LogArg
  io : LogIo

/-- A call into `logger.c`: `init enabled opened` is `logger_init(path, enabled)`
whose `fopen` succeeds when `opened`. -/
inductive LoggerCall where
  | init (enabled opened : Bool)
  | log (call : LogCall)
  | close

section Run

/- The C library's formatting of a format and its arguments: `none` when
`vsnprintf` returns a negative value. -/
variable (vsnprintf : String → List LogArg → Option (List UInt8))

/-- `logger_log`: the call is dropped unless logging is enabled with a file
open and the level passes both checks; a failed format turns logging off, a
failed write turns it off after the bytes it wrote, and a failed flush turns it
off after the write. -/
def loggerLog (sink : LogSink) (call : LogCall) : LogSink :=
  if !sink.globals.loggingEnabled || !sink.globals.logFile then sink
  else if call.level.toNat < minLogLevel.toNat then sink
  else if call.level.toNat < LogLevel.debug.toNat ∨ LogLevel.error.toNat < call.level.toNat then sink
  else
    match vsnprintf call.format call.args with
    | none => sink.disable
    | some text =>
      let line := (LogEntry.ofText (getIso8601Timestamp call.io.clock) call.level text).line
      let written := match call.io.writeError with
        | none => { sink with contents := sink.contents ++ line }
        | some count => LogSink.disable { sink with contents := sink.contents ++ line.take count }
      if call.io.flushed then written else written.disable

/-- One call into `logger.c`. -/
def LogSink.apply (sink : LogSink) : LoggerCall → LogSink
  | .init enabled opened => { sink with globals := (loggerInit sink.globals enabled opened).2 }
  | .log call => loggerLog vsnprintf sink call
  | .close => { sink with globals := loggerClose sink.globals }

/-- A sequence of calls into `logger.c`. -/
def LogSink.run (sink : LogSink) (calls : List LoggerCall) : LogSink :=
  calls.foldl (LogSink.apply vsnprintf) sink

@[simp]
theorem LogSink.run_nil (sink : LogSink) : sink.run vsnprintf [] = sink := rfl

@[simp]
theorem LogSink.run_cons (sink : LogSink) (call : LoggerCall) (calls : List LoggerCall) :
    sink.run vsnprintf (call :: calls) = (sink.apply vsnprintf call).run vsnprintf calls := rfl

/-- Whether a call made with logging on turns it off: its `vsnprintf`,
`fprintf` or `fflush` fails. -/
def LogCall.fails (call : LogCall) : Bool :=
  (vsnprintf call.format call.args).isNone || call.io.writeError.isSome || !call.io.flushed

/-- The bytes a call made with logging on writes: nothing when its `vsnprintf`
fails, its line, or the first bytes of it that a failing `fprintf` wrote. -/
def LogCall.written (call : LogCall) : List UInt8 :=
  match vsnprintf call.format call.args with
  | none => []
  | some text =>
    let line := (LogEntry.ofText (getIso8601Timestamp call.io.clock) call.level text).line
    match call.io.writeError with
    | none => line
    | some count => line.take count

/-! ## One call -/

/-- Every `log_level_t` value passes both level checks. -/
theorem LogLevel.passes (level : LogLevel) :
    ¬level.toNat < minLogLevel.toNat ∧
      ¬(level.toNat < LogLevel.debug.toNat ∨ LogLevel.error.toNat < level.toNat) := by
  cases level <;> decide

/-- With logging off or no file open, `logger_log` changes nothing. -/
theorem logger_log_dropped (sink : LogSink) (call : LogCall)
    (dropped : sink.globals.loggingEnabled = false ∨ sink.globals.logFile = false) :
    loggerLog vsnprintf sink call = sink := by
  rcases dropped with dropped | dropped <;> simp [loggerLog, dropped]

/-- With logging on and a file open, `logger_log` appends what the call
writes and leaves logging on unless the call fails. -/
theorem logger_log_accepted (sink : LogSink) (call : LogCall)
    (active : sink.globals.loggingEnabled = true) (opened : sink.globals.logFile = true) :
    loggerLog vsnprintf sink call =
      ⟨{ sink.globals with loggingEnabled := !call.fails vsnprintf }, sink.contents ++ call.written vsnprintf⟩ := by
  obtain ⟨⟨files, logFile, loggingEnabled, ttyFd, shutdownRequested⟩, contents⟩ := sink
  dsimp only at active opened
  subst active opened
  obtain ⟨below, outside⟩ := call.level.passes
  dsimp only [loggerLog, LogCall.fails, LogCall.written]
  simp only [Bool.not_true, Bool.or_self, Bool.false_eq_true, if_false, if_neg below, if_neg outside]
  cases vsnprintf call.format call.args <;> cases call.io.writeError <;> cases call.io.flushed <;>
    simp [LogSink.disable]

/-- `logger_close` turns logging off and keeps the file. -/
theorem logger_close_off (sink : LogSink) :
    (sink.apply vsnprintf .close).globals.loggingEnabled = false ∧
      (sink.apply vsnprintf .close).contents = sink.contents := by
  refine ⟨?_, rfl⟩
  show (loggerClose sink.globals).loggingEnabled = false
  unfold loggerClose
  split <;> rfl

/-! ## Runs of calls -/

/-- Logging is never on without an open log file: the state of `logger.c` that
makes the `log_file == NULL` test of `logger_log` redundant. -/
def LoggerSound (globals : Globals) : Prop := globals.loggingEnabled = true → globals.logFile = true

/-- One call keeps the logger sound and only appends to the file. -/
theorem logger_apply_sound (sink : LogSink) (call : LoggerCall) (sound : LoggerSound sink.globals) :
    LoggerSound (sink.apply vsnprintf call).globals ∧
      ∃ added, (sink.apply vsnprintf call).contents = sink.contents ++ added := by
  cases call with
  | init enabled opened =>
    refine ⟨?_, [], (List.append_nil _).symm⟩
    show LoggerSound (loggerInit sink.globals enabled opened).2
    unfold loggerInit LoggerSound
    split_ifs <;> simp
  | log call =>
    by_cases dropped : sink.globals.loggingEnabled = false ∨ sink.globals.logFile = false
    · rw [LogSink.apply, logger_log_dropped vsnprintf sink call dropped]
      exact ⟨sound, [], (List.append_nil _).symm⟩
    · simp only [not_or, Bool.not_eq_false] at dropped
      rw [LogSink.apply, logger_log_accepted vsnprintf sink call dropped.1 dropped.2]
      exact ⟨fun _ => dropped.2, _, rfl⟩
  | close =>
    obtain ⟨off, kept⟩ := logger_close_off vsnprintf sink
    exact ⟨fun active => absurd (off.symm.trans active) Bool.false_ne_true, [], by rw [kept, List.append_nil]⟩

/-- Every sequence of calls into `logger.c` keeps the logger sound, and the
file only grows: the bytes it held are a prefix of the bytes it holds after. -/
theorem logger_run_sound (sink : LogSink) (calls : List LoggerCall) (sound : LoggerSound sink.globals) :
    LoggerSound (sink.run vsnprintf calls).globals ∧ sink.contents <+: (sink.run vsnprintf calls).contents := by
  induction calls generalizing sink with
  | nil => exact ⟨sound, List.prefix_refl _⟩
  | cons call calls inductionHypothesis =>
    obtain ⟨stepSound, added, appended⟩ := logger_apply_sound vsnprintf sink call sound
    obtain ⟨runSound, grows⟩ := inductionHypothesis _ stepSound
    exact ⟨runSound, List.IsPrefix.trans (appended ▸ List.prefix_append _ _) grows⟩

/-- The sequence of calls `main` makes on a successful run, from a process that
opened nothing: both `logger_init` calls open the file, and `controller_cleanup`
and `cleanup_and_exit` both close it. -/
theorem logger_run_sound_on_main :
    LoggerSound Globals.initial ∧
      LoggerSound (LogSink.run (fun _ _ => some []) ⟨Globals.initial, []⟩
        [.init true true, .log ⟨.info, "Kia display manager v%s starting", [.text kiaVersion], ⟨none, none, true⟩⟩,
          .close, .init true true, .close, .close]).globals ∧
      LogSink.contents ⟨Globals.initial, []⟩ <+:
        (LogSink.run (fun _ _ => some []) ⟨Globals.initial, []⟩
          [.init true true, .log ⟨.info, "Kia display manager v%s starting", [.text kiaVersion], ⟨none, none, true⟩⟩,
            .close, .init true true, .close, .close]).contents :=
  ⟨fun active => absurd active (by decide),
    logger_run_sound (fun _ _ => some []) ⟨Globals.initial, []⟩ _ fun active => absurd active (by decide)⟩

/-- With logging off, a `logger_log` or a `logger_close` call leaves logging off
and the file as it was. -/
theorem logger_apply_silent (sink : LogSink) (call : LoggerCall) (off : sink.globals.loggingEnabled = false)
    (notInit : ∀ enabled opened, call ≠ .init enabled opened) :
    (sink.apply vsnprintf call).globals.loggingEnabled = false ∧
      (sink.apply vsnprintf call).contents = sink.contents := by
  cases call with
  | init enabled opened => exact absurd rfl (notInit enabled opened)
  | log call =>
    rw [LogSink.apply, logger_log_dropped vsnprintf sink call (.inl off)]
    exact ⟨off, rfl⟩
  | close => exact logger_close_off vsnprintf sink

/-- Once logging is off, no sequence of `logger_log` and `logger_close` calls
writes to the file or turns logging back on. -/
theorem logger_run_silent (sink : LogSink) (calls : List LoggerCall)
    (off : sink.globals.loggingEnabled = false)
    (noInit : ∀ call ∈ calls, ∀ enabled opened, call ≠ .init enabled opened) :
    (sink.run vsnprintf calls).globals.loggingEnabled = false ∧
      (sink.run vsnprintf calls).contents = sink.contents := by
  induction calls generalizing sink with
  | nil => exact ⟨off, rfl⟩
  | cons call calls inductionHypothesis =>
    obtain ⟨stepOff, stepKept⟩ :=
      logger_apply_silent vsnprintf sink call off (noInit call (List.mem_cons_self _ _))
    obtain ⟨runOff, runKept⟩ :=
      inductionHypothesis _ stepOff fun later member => noInit later (List.mem_cons_of_mem _ member)
    exact ⟨runOff, runKept.trans stepKept⟩

/-- A failing `logger_log` call turns a sound logger off, whether it was on or not. -/
theorem logger_log_fails_off (sink : LogSink) (call : LogCall) (sound : LoggerSound sink.globals)
    (failed : call.fails vsnprintf = true) :
    (loggerLog vsnprintf sink call).globals.loggingEnabled = false := by
  cases active : sink.globals.loggingEnabled
  · rw [logger_log_dropped vsnprintf sink call (.inl active), active]
  · rw [logger_log_accepted vsnprintf sink call active (sound active), failed]
    rfl

/-- A `logger_close`, or a `logger_log` call that fails, turns a sound logger
off, and from then on no `logger_log` or `logger_close` call writes to the file
or turns logging back on: only `logger_init` does. -/
theorem logger_silent_until_init (sink : LogSink) (stop : LoggerCall) (later : List LoggerCall)
    (sound : LoggerSound sink.globals)
    (stops : stop = .close ∨ ∃ call, stop = .log call ∧ call.fails vsnprintf = true)
    (noInit : ∀ call ∈ later, ∀ enabled opened, call ≠ .init enabled opened) :
    (sink.run vsnprintf (stop :: later)).globals.loggingEnabled = false ∧
      (sink.run vsnprintf (stop :: later)).contents = (sink.apply vsnprintf stop).contents := by
  have off : (sink.apply vsnprintf stop).globals.loggingEnabled = false := by
    rcases stops with rfl | ⟨call, rfl, failed⟩
    · exact (logger_close_off vsnprintf sink).1
    · exact logger_log_fails_off vsnprintf sink call sound failed
  exact logger_run_silent vsnprintf _ later off noInit

/-- `cleanup_and_exit` after a loop entered as `rootStartup` leaves it:
`controller_cleanup` ends with `logger_close`, so the line
`"Kia display manager shutting down"` and the final `logger_close` leave the
file as `controller_cleanup` left it. -/
theorem farewell_line_unwritten :
    LoggerSound (loopGlobals rootStartup) ∧
      (LoggerCall.close = .close ∨ ∃ call, LoggerCall.close = .log call ∧ call.fails (fun _ _ => some []) = true) ∧
      (∀ call ∈ [LoggerCall.log ⟨.info, "Kia display manager shutting down", [], ⟨none, none, true⟩⟩, .close],
        ∀ enabled opened, call ≠ .init enabled opened) ∧
      (LogSink.run (fun _ _ => some []) ⟨loopGlobals rootStartup, []⟩
          [.close, .log ⟨.info, "Kia display manager shutting down", [], ⟨none, none, true⟩⟩, .close]).globals.loggingEnabled =
          false ∧
        (LogSink.run (fun _ _ => some []) ⟨loopGlobals rootStartup, []⟩
          [.close, .log ⟨.info, "Kia display manager shutting down", [], ⟨none, none, true⟩⟩, .close]).contents =
          (LogSink.apply (fun _ _ => some []) ⟨loopGlobals rootStartup, []⟩ .close).contents := by
  have sound : LoggerSound (loopGlobals rootStartup) := fun _ => by decide
  have noInit : ∀ call ∈ [LoggerCall.log ⟨.info, "Kia display manager shutting down", [], ⟨none, none, true⟩⟩,
      .close], ∀ enabled opened, call ≠ .init enabled opened := by
    simp
  exact ⟨sound, .inl rfl, noInit, logger_silent_until_init _ _ .close _ sound (.inl rfl) noInit⟩

/-- From a state where logging is on with a file open, a run of `logger_log`
calls appends what the calls up to its first failing one write, that one
included (with a failing `fprintf`, the first bytes of its line), and nothing
after it; logging stays on exactly when no call fails. -/
theorem logger_log_run (sink : LogSink) (calls : List LogCall)
    (active : sink.globals.loggingEnabled = true) (opened : sink.globals.logFile = true) :
    (sink.run vsnprintf (calls.map .log)).contents =
        sink.contents ++ (calls.take (calls.findIdx (LogCall.fails vsnprintf) + 1)).flatMap
          (LogCall.written vsnprintf) ∧
      (sink.run vsnprintf (calls.map .log)).globals.loggingEnabled = !calls.any (LogCall.fails vsnprintf) := by
  induction calls generalizing sink with
  | nil => exact ⟨(List.append_nil _).symm, active⟩
  | cons call calls inductionHypothesis =>
    rw [List.map_cons, LogSink.run_cons, LogSink.apply, logger_log_accepted vsnprintf sink call active opened,
      List.findIdx_cons, List.any_cons]
    cases failed : call.fails vsnprintf
    · obtain ⟨contents, enabled⟩ := inductionHypothesis ⟨{ sink.globals with loggingEnabled := !false },
        sink.contents ++ call.written vsnprintf⟩ rfl opened
      refine ⟨?_, by rw [enabled, Bool.false_or]⟩
      rw [contents, cond_false, List.take_succ_cons, List.flatMap_cons, List.append_assoc]
    · obtain ⟨runOff, runKept⟩ := logger_run_silent vsnprintf
        ⟨{ sink.globals with loggingEnabled := !true }, sink.contents ++ call.written vsnprintf⟩
        (calls.map .log) rfl (by simp)
      refine ⟨?_, runOff⟩
      rw [runKept, cond_true, List.take_succ_cons, List.take_zero, List.flatMap_cons, List.flatMap_nil,
        List.append_nil]

end Run

/-- A `vsnprintf` that writes the format itself. -/
def formatVerbatim (format : String) (_ : List LogArg) : Option (List UInt8) := some format.toUTF8.toList

/-- Three lines logged in the loop of `rootStartup`; the `fprintf` of the second
fails after ten bytes. -/
def shortWriteCalls : List LogCall :=
  [⟨.info, "Starting main controller loop", [], ⟨some "2026-01-01T00:00:00Z", none, true⟩⟩,
    ⟨.info, "Kia display manager v%s starting", [.text kiaVersion], ⟨none, some 10, true⟩⟩,
    ⟨.error, "No sessions found", [], ⟨none, none, true⟩⟩]

/-- The first line is written, then ten bytes of the second, and nothing of the third. -/
theorem short_write_ends_log :
    (LogSink.mk (loopGlobals rootStartup) []).globals.loggingEnabled = true ∧
      (LogSink.mk (loopGlobals rootStartup) []).globals.logFile = true ∧
      ((LogSink.run formatVerbatim ⟨loopGlobals rootStartup, []⟩ (shortWriteCalls.map .log)).contents =
          [] ++ (shortWriteCalls.take (shortWriteCalls.findIdx (LogCall.fails formatVerbatim) + 1)).flatMap
            (LogCall.written formatVerbatim) ∧
        (LogSink.run formatVerbatim ⟨loopGlobals rootStartup, []⟩ (shortWriteCalls.map .log)).globals.loggingEnabled =
          !shortWriteCalls.any (LogCall.fails formatVerbatim)) :=
  ⟨by decide, by decide, logger_log_run formatVerbatim ⟨loopGlobals rootStartup, []⟩ shortWriteCalls
    (by decide) (by decide)⟩

example : shortWriteCalls.findIdx (LogCall.fails formatVerbatim) = 1 := by decide

end Kia
