import Kia.Context
import Kia.LineReader

/-!
# Discovering the session catalogue

`parse_desktop_file`, `scan_session_directory` and `session_discover` of
`session.c`. A descriptor is read with the loop of `LineReader`; its first
`Name=` line with a value of 1 to 255 bytes names the session and its first
`Exec=` line with a value of 1 to 511 bytes gives the command. A directory is
scanned in `readdir` order; an entry is tried when its name contains
`".desktop"` (`strstr`, not a suffix test), is at most 255 bytes long and its
path fits in 512 bytes, and it joins the catalogue when its descriptor parses.

A directory `opendir` cannot open contributes nothing. A `readdir` that fails
makes the scan fail, and so does a `realloc` of the list that fails: the
answers of both are inputs, as is a read error of a descriptor's stream.
-/

namespace Kia

/-! ## parse_desktop_file -/

/-- The fields `parse_desktop_file` fills while it reads: `session->name`,
`session->exec` and the flags `found_name` and `found_exec`. -/
structure DesktopFields where
  name : CStr
  exec : CStr
  foundName : Bool
  foundExec : Bool

/-- The fields after the two `memset` calls. -/
def DesktopFields.initial : DesktopFields := ⟨CStr.empty, CStr.empty, false, false⟩

/-- The body of the loop of `parse_desktop_file` on one record's string: cut at
the newline (`strcspn(line, "\n")`), then the first valid `Name=` and `Exec=`
lines are copied with `strncpy` into their 256- and 512-byte arrays. -/
def desktopLine (fields : DesktopFields) (record : List UInt8) : DesktopFields :=
  let line := record.takeWhile (· != 10)
  let value := line.drop 5
  if line.take 5 = ascii "Name=" ∧ fields.foundName = false then
    if 0 < value.length ∧ value.length < 256 then
      { fields with name := (CStr.ofBytes value).take 255, foundName := true }
    else fields
  else if line.take 5 = ascii "Exec=" ∧ fields.foundExec = false then
    if 0 < value.length ∧ value.length < 512 then
      { fields with exec := (CStr.ofBytes value).take 511, foundExec := true }
    else fields
  else fields

/-- The loop of `parse_desktop_file` over what the reader hands it: a skipped
record changes nothing, and the loop breaks once both fields are found. -/
def desktopLoop : List (Option (List UInt8)) → DesktopFields → DesktopFields
  | [], fields => fields
  | none :: records, fields => desktopLoop records fields
  | some record :: records, fields =>
    let fields := desktopLine fields record
    if fields.foundName ∧ fields.foundExec then fields else desktopLoop records fields

/-- `parse_desktop_file(filepath, session, type)` when `fopen` gives `file`
(the errno of its failure, or the stream): the session it fills where it
returns `KIA_SUCCESS` (`none` where it returns `KIA_ERROR_SESSION`), and its log
calls. The loop meets a read error only when it does not break, that is when it
reads to the end of the stream without finding both fields: `ferror` then
holds exactly when the stream ends in a read error. -/
def parseDesktopFile (filepath : CStr) (file : Except Nat ReadStream) (type : SessionType) :
    Option SessionInfo × List Event :=
  if filepath.bytes = [] then (none, [.log .error "Empty filepath provided" []])
  else
    match file with
    | .error errno =>
      (none, [.log .warn "Failed to open desktop file: %s (%s)" [.str filepath, .errno errno]])
    | .ok stream =>
      let fields := desktopLoop (fileLines stream) DesktopFields.initial
      if stream.readError ∧ ¬(fields.foundName ∧ fields.foundExec) then
        (none, [.log .error "Error reading desktop file: %s" [.str filepath]])
      else if fields.foundName ∧ fields.foundExec then (some ⟨fields.name, fields.exec, type⟩, [])
      else
        (none, [.log .warn "Incomplete desktop file: %s (name=%d, exec=%d)"
          [.str filepath, .int (if fields.foundName then 1 else 0),
            .int (if fields.foundExec then 1 else 0)]])

/-! ## scan_session_directory and session_discover -/

/-- `strstr(haystack, needle) != NULL`: `needle` occurs at some position of
`haystack`. -/
def strstr : List UInt8 → List UInt8 → Bool
  | [], needle => needle.isPrefixOf []
  | byte :: rest, needle => needle.isPrefixOf (byte :: rest) || strstr rest needle

/-- The path `snprintf(filepath, 512, "%s/%s", dir_path, name)` writes when it
fits. -/
def joinPath (directory name : CStr) : CStr :=
  ⟨directory.bytes ++ 47 :: name.bytes, by
    intro byte member
    simp only [List.mem_append, List.mem_cons] at member
    rcases member with inDirectory | rfl | inName
    · exact directory.nulFree byte inDirectory
    · decide
    · exact name.nulFree byte inName⟩

/-- An entry `readdir` lists, with what `fopen` of its path gives and the
errno of the `realloc` of the list made for it, if that fails (only an entry the
scan tries asks for it). -/
structure DirEntry where
  name : CStr
  file : Except Nat ReadStream
  reallocError : Option Nat

/-- A directory `opendir` opened: its entries in `readdir` order, and the errno
of a `readdir` that failed after them, if one did. -/
structure Directory where
  entries : List DirEntry
  readError : Option Nat

/-- One iteration of the `readdir` loop of `scan_session_directory` over the
sessions appended so far and the log calls made: the entry is passed over or
parsed, or the `realloc` for it fails and the function returns (`.error` with
the errno and the log calls). -/
def scanEntry (dirPath : CStr) (type : SessionType) (scanned : List SessionInfo × List Event)
    (entry : DirEntry) : Except (Nat × List Event) (List SessionInfo × List Event) :=
  let length := entry.name.bytes.length
  if strstr entry.name.bytes (ascii ".desktop") = false then .ok scanned
  else if length = 0 ∨ 255 < length then
    .ok (scanned.1, scanned.2 ++ [.log .warn "Invalid filename length: %zu" [.int length]])
  else if 512 ≤ dirPath.bytes.length + 1 + length then
    .ok (scanned.1, scanned.2 ++ [.log .warn "Path too long for: %s/%s" [.str dirPath, .str entry.name]])
  else
    match entry.reallocError with
    | some errno =>
      .error (errno, scanned.2 ++ [.log .error "Failed to allocate memory for session list: %s" [.errno errno]])
    | none =>
      let parsed := parseDesktopFile (joinPath dirPath entry.name) entry.file type
      match parsed.1 with
      | some session =>
        .ok (scanned.1 ++ [session], scanned.2 ++ parsed.2 ++
          [.log .debug "Discovered session: %s (%s)" [.str session.name, .text type.label]])
      | none => .ok (scanned.1, scanned.2 ++ parsed.2)

/-- The `readdir` loop from `scanned` over `entries`: the errno of a failed
`realloc`, which ends it, if one failed; the sessions appended; the log calls. -/
def scanEntries (dirPath : CStr) (type : SessionType) :
    List SessionInfo × List Event → List DirEntry → Option Nat × List SessionInfo × List Event
  | scanned, [] => (none, scanned)
  | scanned, entry :: entries =>
    match scanEntry dirPath type scanned entry with
    | .error (errno, events) => (some errno, scanned.1, events)
    | .ok next => scanEntries dirPath type next entries

/-- `scan_session_directory(dir_path, type, ...)` when `opendir` gives
`directory`: the return code, the sessions it appends and its log calls. -/
def scanSessionDirectory (dirPath : CStr) (type : SessionType) (directory : Except Nat Directory) :
    Status × List SessionInfo × List Event :=
  match directory with
  | .error errno =>
    (.success, [], [.log .debug "Session directory not found: %s (%s)" [.str dirPath, .errno errno]])
  | .ok directory =>
    let scanned := scanEntries dirPath type ([], []) directory.entries
    match scanned.1, directory.readError with
    | some _, _ => (.errorSession, scanned.2.1, scanned.2.2)
    | none, some errno =>
      (.errorSession, scanned.2.1,
        scanned.2.2 ++ [.log .error "Error reading directory %s: %s" [.str dirPath, .errno errno]])
    | none, none => (.success, scanned.2.1, scanned.2.2)

/-- `X11_SESSION_DIR`. -/
def x11SessionDir : CStr := ⟨ascii "/usr/share/xsessions", by decide⟩

/-- `WAYLAND_SESSION_DIR`. -/
def waylandSessionDir : CStr := ⟨ascii "/usr/share/wayland-sessions", by decide⟩

/-- `session_discover(list)` when `opendir` gives `x11` and `wayland` for the
two directories: the return code, the list it leaves (`session_list_free`
empties it on failure) and its log calls. -/
def sessionDiscoverRun (x11 wayland : Except Nat Directory) : Status × List SessionInfo × List Event :=
  let first := scanSessionDirectory x11SessionDir .x11 x11
  if first.1 ≠ .success then (.errorSession, [], first.2.2)
  else
    let second := scanSessionDirectory waylandSessionDir .wayland wayland
    let events := first.2.2 ++ second.2.2
    if second.1 ≠ .success then (.errorSession, [], events)
    else
      let sessions := first.2.1 ++ second.2.1
      if sessions = [] then (.errorSession, [], events ++ [.log .error "No sessions discovered" []])
      else (.success, sessions, events ++ [.log .info "Discovered %d session(s)" [.int sessions.length]])

/-! ## Only the logger is called -/

theorem parse_desktop_file_logs (filepath : CStr) (file : Except Nat ReadStream) (type : SessionType) :
    (parseDesktopFile filepath file type).2.all Event.isLog := by
  unfold parseDesktopFile
  split
  · rfl
  split
  · rfl
  · dsimp only
    split
    · rfl
    · split <;> rfl

/-- The log calls of an iteration, whether it goes on or returns, extend the
earlier ones by log calls only. -/
theorem scan_entry_logs (dirPath : CStr) (type : SessionType) (scanned : List SessionInfo × List Event)
    (logged : scanned.2.all Event.isLog) (entry : DirEntry) :
    (∀ errno events, scanEntry dirPath type scanned entry = .error (errno, events) → events.all Event.isLog) ∧
      ∀ next, scanEntry dirPath type scanned entry = .ok next → next.2.all Event.isLog := by
  have parsed := parse_desktop_file_logs (joinPath dirPath entry.name) entry.file type
  unfold scanEntry
  dsimp only
  by_cases skipped : strstr entry.name.bytes (ascii ".desktop") = false
  · rw [if_pos skipped]
    exact ⟨nofun, fun next ran => by cases ran; exact logged⟩
  rw [if_neg skipped]
  by_cases invalid : entry.name.bytes.length = 0 ∨ 255 < entry.name.bytes.length
  · rw [if_pos invalid]
    exact ⟨nofun, fun next ran => by cases ran; simp [logged, Event.isLog]⟩
  rw [if_neg invalid]
  by_cases long : 512 ≤ dirPath.bytes.length + 1 + entry.name.bytes.length
  · rw [if_pos long]
    exact ⟨nofun, fun next ran => by cases ran; simp [logged, Event.isLog]⟩
  rw [if_neg long]
  split
  · exact ⟨fun errno events ran => by cases ran; simp [logged, Event.isLog], nofun⟩
  split
  · exact ⟨nofun, fun next ran => by cases ran; simp [logged, parsed, Event.isLog]⟩
  · exact ⟨nofun, fun next ran => by cases ran; simp [logged, parsed]⟩

theorem scan_entries_logs (dirPath : CStr) (type : SessionType) (entries : List DirEntry)
    (scanned : List SessionInfo × List Event) (logged : scanned.2.all Event.isLog) :
    (scanEntries dirPath type scanned entries).2.2.all Event.isLog := by
  induction entries generalizing scanned with
  | nil => exact logged
  | cons entry entries ih =>
    obtain ⟨stopped, next⟩ := scan_entry_logs dirPath type scanned logged entry
    unfold scanEntries
    split
    · exact stopped _ _ ‹_›
    · exact ih _ (next _ ‹_›)

theorem scan_session_directory_logs (dirPath : CStr) (type : SessionType)
    (directory : Except Nat Directory) : (scanSessionDirectory dirPath type directory).2.2.all Event.isLog := by
  cases directory with
  | error => rfl
  | ok directory =>
    have scanned := scan_entries_logs dirPath type directory.entries ([], []) rfl
    unfold scanSessionDirectory
    dsimp only
    split <;> simp [scanned, Event.isLog]

theorem session_discover_logs (x11 wayland : Except Nat Directory) :
    (sessionDiscoverRun x11 wayland).2.2.all Event.isLog := by
  have first := scan_session_directory_logs x11SessionDir .x11 x11
  have second := scan_session_directory_logs waylandSessionDir .wayland wayland
  unfold sessionDiscoverRun
  dsimp only
  split_ifs <;> simp [first, second, Event.isLog]

/-- `session_discover` as the controller sees it: what it returned, left and logged. -/
def sessionDiscover (x11 wayland : Except Nat Directory) : Discovery :=
  ⟨(sessionDiscoverRun x11 wayland).1, (sessionDiscoverRun x11 wayland).2.1,
    (sessionDiscoverRun x11 wayland).2.2, session_discover_logs x11 wayland⟩

/-! ## The line-by-line reading of a descriptor -/

/-- A line `Name=` followed by 1 to 255 bytes. -/
def nameLine (line : List UInt8) : Bool :=
  line.take 5 = ascii "Name=" ∧ 0 < (line.drop 5).length ∧ (line.drop 5).length < 256

/-- A line `Exec=` followed by 1 to 511 bytes. -/
def execLine (line : List UInt8) : Bool :=
  line.take 5 = ascii "Exec=" ∧ 0 < (line.drop 5).length ∧ (line.drop 5).length < 512

/-- What reading a descriptor's lines one by one gives: among the lines shorter
than 1023 bytes, the values of the first name line and of the first command
line, when both exist. -/
def lineByLineDescriptor (lines : List (List UInt8)) : Option (List UInt8 × List UInt8) :=
  let kept := lines.filter fun line => decide (line.length < 1023)
  match kept.find? nameLine, kept.find? execLine with
  | some name, some exec => some (name.drop 5, exec.drop 5)
  | _, _ => none

theorem desktop_line_cut (fields : DesktopFields) (record : List UInt8) :
    desktopLine fields (record.takeWhile (· != 10)) = desktopLine fields record := by
  simp only [desktopLine, List.takeWhile_idem]

/-- The session `parse_desktop_file` fills is the one of its fields after the
loop, whatever read error ends the stream: an error that the loop meets leaves
a field unfound. -/
theorem parse_desktop_file_found (filepath : CStr) (named : filepath.bytes ≠ []) (stream : ReadStream)
    (type : SessionType) :
    (parseDesktopFile filepath (.ok stream) type).1 =
      if (desktopLoop (fileLines stream) DesktopFields.initial).foundName ∧
          (desktopLoop (fileLines stream) DesktopFields.initial).foundExec then
        some ⟨(desktopLoop (fileLines stream) DesktopFields.initial).name,
          (desktopLoop (fileLines stream) DesktopFields.initial).exec, type⟩
      else none := by
  unfold parseDesktopFile
  rw [if_neg named]
  dsimp only
  by_cases found : (desktopLoop (fileLines stream) DesktopFields.initial).foundName ∧
      (desktopLoop (fileLines stream) DesktopFields.initial).foundExec
  · rw [if_neg fun failed => failed.2 found, if_pos found, if_pos found]
  · rw [if_neg found]
    split_ifs <;> rfl

/-- A line holding a NUL byte reads as a truncated line, so the reader drops
the line after it: here the name line, and the descriptor is reported
incomplete although its lines, read one by one, name the session. -/
theorem nul_line_hides_name :
    parseDesktopFile ⟨ascii "/p", by decide⟩ (.ok ⟨ascii "X" ++ [0] ++ ascii "\nName=w\nExec=s\n", false⟩) .x11 =
        (none, [.log .warn "Incomplete desktop file: %s (name=%d, exec=%d)"
          [.str ⟨ascii "/p", by decide⟩, .int 0, .int 1]]) ∧
      lineByLineDescriptor (readableLines false (ascii "X" ++ [0] ++ ascii "\nName=w\nExec=s\n")) =
        some (ascii "w", ascii "s") := by
  decide

/-! ## The catalogue -/

/-- A name `scan_session_directory` tries in `dirPath`: it contains
".desktop", has 1 to 255 bytes, and its path fits in 512 bytes. -/
def Tried (dirPath name : CStr) : Prop :=
  strstr name.bytes (ascii ".desktop") = true ∧ 0 < name.bytes.length ∧ name.bytes.length ≤ 255 ∧
    dirPath.bytes.length + 1 + name.bytes.length < 512

instance (dirPath name : CStr) : Decidable (Tried dirPath name) := inferInstanceAs (Decidable (_ ∧ _ ∧ _ ∧ _))

/-- The session an entry contributes: its name is tried and its descriptor
parses. -/
def acceptedEntry (dirPath : CStr) (type : SessionType) (entry : DirEntry) : Option SessionInfo :=
  if Tried dirPath entry.name then (parseDesktopFile (joinPath dirPath entry.name) entry.file type).1 else none

/-- The sessions a directory contributes, in readdir order; a directory that
cannot be opened contributes none. -/
def acceptedSessions (dirPath : CStr) (type : SessionType) : Except Nat Directory → List SessionInfo
  | .error _ => []
  | .ok directory => directory.entries.filterMap (acceptedEntry dirPath type)

/-- No `readdir` of the directory fails, and no `realloc` the scan makes for an
entry it tries (a directory that cannot be opened is scanned without error). -/
def ScansCleanly (dirPath : CStr) : Except Nat Directory → Prop
  | .error _ => True
  | .ok directory =>
    directory.readError = none ∧ ∀ entry ∈ directory.entries, Tried dirPath entry.name → entry.reallocError = none

instance (dirPath : CStr) (directory : Except Nat Directory) : Decidable (ScansCleanly dirPath directory) :=
  match directory with
  | .error _ => isTrue trivial
  | .ok directory => inferInstanceAs (Decidable (_ ∧ ∀ entry ∈ directory.entries, _))

/-- One iteration returns exactly when it tries the entry and the `realloc`
for it fails; otherwise it appends the entry's session, if any. -/
theorem scan_entry_cases (dirPath : CStr) (type : SessionType) (scanned : List SessionInfo × List Event)
    (entry : DirEntry) :
    (Tried dirPath entry.name ∧ entry.reallocError ≠ none ∧
        ∃ errno events, scanEntry dirPath type scanned entry = .error (errno, events)) ∨
      (¬(Tried dirPath entry.name ∧ entry.reallocError ≠ none) ∧
        ∃ events, scanEntry dirPath type scanned entry = .ok (scanned.1 ++ (acceptedEntry dirPath type entry).toList, events)) := by
  unfold scanEntry acceptedEntry Tried
  dsimp only
  by_cases tried : strstr entry.name.bytes (ascii ".desktop") ∧ 0 < entry.name.bytes.length ∧
      entry.name.bytes.length ≤ 255 ∧ dirPath.bytes.length + 1 + entry.name.bytes.length < 512
  · obtain ⟨named, filled, short, fits⟩ := tried
    rw [if_neg (by simp [named]), if_neg (by omega), if_neg (by omega), if_pos ⟨named, filled, short, fits⟩]
    cases allocated : entry.reallocError with
    | some errno => exact .inl ⟨⟨named, filled, short, fits⟩, nofun, errno, _, rfl⟩
    | none =>
      refine .inr ⟨fun failed => failed.2 rfl, ?_⟩
      dsimp only
      cases (parseDesktopFile (joinPath dirPath entry.name) entry.file type).1 <;> simp
  · rw [if_neg tried]
    refine .inr ⟨fun failed => tried failed.1, ?_⟩
    by_cases skipped : strstr entry.name.bytes (ascii ".desktop") = false
    · rw [if_pos skipped]
      exact ⟨_, by rw [Option.toList_none, List.append_nil]⟩
    rw [if_neg skipped]
    by_cases invalid : entry.name.bytes.length = 0 ∨ 255 < entry.name.bytes.length
    · rw [if_pos invalid]
      exact ⟨_, by rw [Option.toList_none, List.append_nil]⟩
    rw [if_neg invalid]
    by_cases long : 512 ≤ dirPath.bytes.length + 1 + entry.name.bytes.length
    · rw [if_pos long]
      exact ⟨_, by rw [Option.toList_none, List.append_nil]⟩
    · exact absurd ⟨by simpa using skipped, by omega, by omega, by omega⟩ tried

/-- The loop runs through the entries exactly when no `realloc` for an entry
it tries fails, and then appends the sessions the entries contribute. -/
theorem scan_entries_sessions (dirPath : CStr) (type : SessionType) (entries : List DirEntry)
    (scanned : List SessionInfo × List Event) :
    ((scanEntries dirPath type scanned entries).1 = none ↔
        ∀ entry ∈ entries, Tried dirPath entry.name → entry.reallocError = none) ∧
      ((scanEntries dirPath type scanned entries).1 = none →
        (scanEntries dirPath type scanned entries).2.1 = scanned.1 ++ entries.filterMap (acceptedEntry dirPath type)) := by
  induction entries generalizing scanned with
  | nil => simp [scanEntries]
  | cons entry entries ih =>
    rcases scan_entry_cases dirPath type scanned entry with ⟨tried, failed, errno, events, stopped⟩ | ⟨passed, events, next⟩
    · simp only [scanEntries, stopped]
      exact ⟨iff_of_false nofun fun allocated => failed (allocated entry (.head _) tried), nofun⟩
    · simp only [scanEntries, next]
      obtain ⟨through, appended⟩ := ih (scanned.1 ++ (acceptedEntry dirPath type entry).toList, events)
      refine ⟨through.trans ⟨fun later other member => ?_, fun all other member => all other (.tail _ member)⟩,
        fun ran => by rw [appended ran, List.filterMap_cons]; cases acceptedEntry dirPath type entry <;> simp⟩
      rcases List.mem_cons.mp member with rfl | member
      · exact fun tried => by_contra fun allocated => passed ⟨tried, allocated⟩
      · exact later other member

/-- A scan succeeds exactly when the directory is scanned without error, and
it then appends the sessions the directory contributes. -/
theorem scan_session_directory_status (dirPath : CStr) (type : SessionType) (directory : Except Nat Directory) :
    ((scanSessionDirectory dirPath type directory).1 = .success ↔ ScansCleanly dirPath directory) ∧
      ((scanSessionDirectory dirPath type directory).1 = .success →
        (scanSessionDirectory dirPath type directory).2.1 = acceptedSessions dirPath type directory) := by
  cases directory with
  | error => exact ⟨iff_of_true rfl trivial, fun _ => rfl⟩
  | ok directory =>
    obtain ⟨through, appended⟩ := scan_entries_sessions dirPath type directory.entries ([], [])
    unfold scanSessionDirectory
    dsimp only
    split
    · rename_i stopped
      exact ⟨iff_of_false nofun fun clean => by simp [through.mpr clean.2] at stopped, nofun⟩
    · rename_i ran errno reading
      exact ⟨iff_of_false nofun fun clean => by simp [clean.1] at reading, nofun⟩
    · rename_i ran reading
      exact ⟨iff_of_true rfl ⟨reading, through.mp ran⟩, fun _ => by simp [acceptedSessions, appended ran]⟩

theorem parse_desktop_file_type (filepath : CStr) (file : Except Nat ReadStream) (type : SessionType)
    {session : SessionInfo} (parsed : (parseDesktopFile filepath file type).1 = some session) :
    session.type = type := by
  by_cases named : filepath.bytes = []
  · unfold parseDesktopFile at parsed
    rw [if_pos named] at parsed
    cases parsed
  cases file with
  | error =>
    unfold parseDesktopFile at parsed
    rw [if_neg named] at parsed
    cases parsed
  | ok stream =>
    rw [parse_desktop_file_found filepath named] at parsed
    split_ifs at parsed
    cases parsed
    rfl

theorem accepted_sessions_type (dirPath : CStr) (type : SessionType) (directory : Except Nat Directory) :
    ∀ session ∈ acceptedSessions dirPath type directory, session.type = type := by
  intro session member
  cases directory with
  | error => cases member
  | ok directory =>
    obtain ⟨entry, -, found⟩ := List.mem_filterMap.mp member
    unfold acceptedEntry at found
    split_ifs at found
    exact parse_desktop_file_type _ _ _ found

/-- session_discover succeeds exactly when both directories are scanned without
a failed `readdir` or `realloc` and some entry is accepted; its catalogue is
then the accepted X11 entries followed by the accepted Wayland entries, in
readdir order, each tagged with its directory's type, and it is left empty on
failure. -/
theorem session_discover_catalogue (x11 wayland : Except Nat Directory) :
    let run := sessionDiscover x11 wayland
    let catalogue := acceptedSessions x11SessionDir .x11 x11 ++ acceptedSessions waylandSessionDir .wayland wayland
    (run.result = .success ↔
        ScansCleanly x11SessionDir x11 ∧ ScansCleanly waylandSessionDir wayland ∧ catalogue ≠ []) ∧
      (run.result = .success → run.sessions = catalogue) ∧ (run.result ≠ .success → run.sessions = []) ∧
      (∀ session ∈ acceptedSessions x11SessionDir .x11 x11, session.type = .x11) ∧
      ∀ session ∈ acceptedSessions waylandSessionDir .wayland wayland, session.type = .wayland := by
  obtain ⟨first, firstSessions⟩ := scan_session_directory_status x11SessionDir .x11 x11
  obtain ⟨second, secondSessions⟩ := scan_session_directory_status waylandSessionDir .wayland wayland
  have types := And.intro (accepted_sessions_type x11SessionDir .x11 x11)
    (accepted_sessions_type waylandSessionDir .wayland wayland)
  simp only [sessionDiscover, sessionDiscoverRun]
  by_cases firstClean : ScansCleanly x11SessionDir x11
  · rw [if_neg (not_not.mpr (first.mpr firstClean))]
    by_cases secondClean : ScansCleanly waylandSessionDir wayland
    · rw [if_neg (not_not.mpr (second.mpr secondClean)), firstSessions (first.mpr firstClean),
        secondSessions (second.mpr secondClean)]
      by_cases empty : acceptedSessions x11SessionDir .x11 x11 ++ acceptedSessions waylandSessionDir .wayland wayland = []
      · rw [if_pos empty]
        exact ⟨iff_of_false nofun fun clean => clean.2.2 empty, nofun, fun _ => rfl, types⟩
      · rw [if_neg empty]
        exact ⟨iff_of_true rfl ⟨firstClean, secondClean, empty⟩, fun _ => rfl, fun failed => absurd rfl failed, types⟩
    · rw [if_pos fun succeeded => secondClean (second.mp succeeded)]
      exact ⟨iff_of_false nofun fun clean => secondClean clean.2.1, nofun, fun _ => rfl, types⟩
  · rw [if_pos fun succeeded => firstClean (first.mp succeeded)]
    exact ⟨iff_of_false nofun fun clean => firstClean clean.1, nofun, fun _ => rfl, types⟩

/-- The name test is strstr: an entry whose name contains ".desktop" without
ending in it joins the catalogue. -/
theorem backup_descriptor_discovered :
    let entry : DirEntry := ⟨⟨ascii "w.desktop.bak", by decide⟩, .ok ⟨ascii "Name=w\nExec=s\n", false⟩, none⟩
    (ascii ".desktop").isSuffixOf entry.name.bytes = false ∧
      (sessionDiscover (.ok ⟨[entry], none⟩) (.error 2)).result = .success ∧
      (sessionDiscover (.ok ⟨[entry], none⟩) (.error 2)).sessions =
        [⟨⟨ascii "w", by decide⟩, ⟨ascii "s", by decide⟩, .x11⟩] := by
  decide

end Kia
