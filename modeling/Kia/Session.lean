import Kia.Basic

/-!
# Launching a session

`session_start`: resolve the account, fork, and in the child set the session
environment, enter the home directory, drop the group and then the user
identity, verify all four ids and exec the session; the parent waits for the
child and succeeds only on exit status 0.

The account database, `fork`, `waitpid` and the kernel's answers to the
child's calls are the launch's world. A credential call is any function from
the ids it is made with to a return value and the ids it leaves, so a failing
call, a silent partial drop and any other kernel behaviour are all outcomes
of it. Neither `setgid` nor `setuid` changes the supplementary group list, and
the child makes no call that does: the groups at `exec` are the parent's.
-/

namespace Kia

/-- The fields of `struct passwd` that `session_start` reads; `none` is NULL. -/
structure Passwd where
  uid : Nat
  gid : Nat
  dir : Option CStr
  shell : Option CStr

/-- A process's credentials: its ids and its supplementary groups. -/
structure Creds where
  ids : Ids
  groups : List Nat

/-- How the kernel answers the child's calls. -/
structure ChildWorld where
  /-- Whether `setenv(name, ...)` succeeds. -/
  setenv : String → Bool
  chdir : Bool
  /-- `setgid(gid)` made with ids `ids`: its return value and the ids it leaves. -/
  setgid : Ids → Nat → Int × Ids
  /-- `setuid(uid)` made with ids `ids`: its return value and the ids it leaves. -/
  setuid : Ids → Nat → Int × Ids
  /-- Whether `execlp("startx", ...)` replaces the image. -/
  startx : Bool
  /-- Whether `execlp("/bin/sh", ...)` replaces the image. -/
  shell : Bool
  /-- The `errno` behind every failure message. -/
  errno : Nat

/-- What `getpwnam` answers. -/
inductive Lookup where
  | found (entry : Passwd)
  | notFound
  | failed (errno : Nat)

/-- How the child, or the session that replaced it, terminates. -/
inductive Termination where
  | exited (status : Nat)
  | signaled (signal : Nat)

/-- The answers of everything `session_start` consults. -/
structure LaunchWorld where
  lookup : Lookup
  /-- `fork()`: the child's pid, or the errno of a failure. -/
  fork : Except Nat Nat
  child : ChildWorld
  /-- How the session terminates once the child has exec'd it. -/
  session : Termination
  /-- The errno of a failed `waitpid`, if it fails. -/
  wait : Option Nat

/-- The environment the child sets, in order, in groups of calls joined by `||`
with the message each group logs when one of its calls fails. -/
def environmentGroups (type : SessionType) : List (List String × String) :=
    [(["HOME"], "Failed to set HOME: %s"), (["USER"], "Failed to set USER: %s"),
      (["LOGNAME"], "Failed to set LOGNAME: %s"), (["SHELL"], "Failed to set SHELL: %s"),
      match type with
      | .x11 => (["XDG_SESSION_TYPE", "DISPLAY"], "Failed to set X11 environment: %s")
      | .wayland => (["XDG_SESSION_TYPE", "WAYLAND_DISPLAY"], "Failed to set Wayland environment: %s")]

/-- The `setenv` calls of one group, up to the first that fails. -/
def setenvGroup (world : ChildWorld) : List String → List Event × Bool
  | [] => ([], true)
  | name :: rest =>
    if world.setenv name then
      ((setenvGroup world rest).1.cons (.setenv name true), (setenvGroup world rest).2)
    else
      ([.setenv name false], false)

/-- The environment setup: every group in turn, up to the first that fails,
whose message is then logged. -/
def setEnvironment (world : ChildWorld) : List (List String × String) → List Event × Bool
  | [] => ([], true)
  | (names, message) :: rest =>
    if (setenvGroup world names).2 then
      ((setenvGroup world names).1 ++ (setEnvironment world rest).1, (setEnvironment world rest).2)
    else
      ((setenvGroup world names).1 ++ [.log .error message [.errno world.errno]], false)

/-- How the child ends: its image replaced by an `exec`, or `exit(status)`. -/
inductive ChildEnd where
  | replaced
  | exited (status : Int)
deriving DecidableEq

/-- `exit(EXIT_FAILURE)` after `events`. -/
def abortChild (events : List Event) : List Event × ChildEnd := (events ++ [.exit 1], .exited 1)

/-- The session command: for X11 `startx` first, then the shell; for Wayland
the shell. A failed last `exec` is logged and ends the child. -/
def execSession (session : SessionInfo) (world : ChildWorld) (ids : Ids) (groups : List Nat)
    (files : List FileKind) : List Event × ChildEnd :=
  let shell := Event.exec "/bin/sh" ids groups files
  let failed := Event.log .error "Failed to execute session '%s': %s" [.str session.exec, .errno world.errno]
  match session.type with
  | .x11 =>
    if world.startx then ([.exec "startx" ids groups files], .replaced)
    else if world.shell then ([.exec "startx" ids groups files, shell], .replaced)
    else abortChild [.exec "startx" ids groups files, shell, failed]
  | .wayland =>
    if world.shell then ([shell], .replaced) else abortChild [shell, failed]

/-- The child branch of `session_start`, forked from a parent with credentials
`parent` and open descriptors `files`. -/
def childRun (session : SessionInfo) (entry : Passwd) (home : CStr) (parent : Creds)
    (files : List FileKind) (world : ChildWorld) : List Event × ChildEnd :=
  let environment := setEnvironment world (environmentGroups session.type)
  if ¬environment.2 then abortChild environment.1
  else if ¬world.chdir then
    abortChild (environment.1 ++ [.chdir false,
      .log .error "Failed to change to home directory '%s': %s" [.str home, .errno world.errno]])
  else
    let entered := environment.1 ++ [.chdir true]
    let grouped := world.setgid parent.ids entry.gid
    if grouped.1 ≠ 0 then
      abortChild (entered ++ [.setgid entry.gid grouped.1,
        .log .error "Failed to setgid(%d): %s" [.int entry.gid, .errno world.errno]])
    else
      let dropped := world.setuid grouped.2 entry.uid
      let changed := entered ++ [.setgid entry.gid 0, .setuid entry.uid dropped.1]
      if dropped.1 ≠ 0 then
        abortChild (changed ++
          [.log .error "Failed to setuid(%d): %s" [.int entry.uid, .errno world.errno]])
      else
        let ids := dropped.2
        if ids.ruid ≠ entry.uid ∨ ids.euid ≠ entry.uid ∨ ids.rgid ≠ entry.gid ∨ ids.egid ≠ entry.gid then
          abortChild (changed ++ [.log .error "Failed to drop privileges properly (uid=%d/%d, gid=%d/%d)"
            [.int ids.ruid, .int ids.euid, .int ids.rgid, .int ids.egid]])
        else
          let launched := execSession session world ids parent.groups files
          (changed ++ launched.1, launched.2)

/-- The parent's classification of the child's termination. -/
def waitChild (world : LaunchWorld) (ending : ChildEnd) : Status × List Event :=
  match world.wait with
  | some errno => (.errorSession, [.log .error "Failed to wait for child process: %s" [.errno errno]])
  | none =>
    let termination := match ending with
      | .replaced => world.session
      | .exited status => .exited status.toNat
    match termination with
    | .exited status =>
      (if status = 0 then .success else .errorSession,
        [.log .info "Session exited with status %d" [.int status]])
    | .signaled signal =>
      (.errorSession, [.log .warn "Session terminated by signal %d" [.int signal]])

/-- `session_start(session, username)`, called by a process with credentials
`parent` and open descriptors `files`. The child's events follow the parent's
report of its pid and precede the report of its termination. -/
def sessionStart (session : SessionInfo) (username : CStr) (parent : Creds)
    (files : List FileKind) (world : LaunchWorld) : Status × List Event :=
  if username.bytes = [] then
    (.errorSession, [.log .error "Empty username provided" []])
  else if session.name.bytes = [] ∨ session.exec.bytes = [] then
    (.errorSession, [.log .error "Invalid session: empty name or exec" []])
  else
    match world.lookup with
    | .failed errno =>
      (.errorSession, [.log .error "Failed to get user info for '%s': %s" [.str username, .errno errno]])
    | .notFound => (.errorSession, [.log .error "User not found: %s" [.str username]])
    | .found entry =>
      match entry.dir with
      | none => (.errorSession, [.log .error "User '%s' has no home directory" [.str username]])
      | some home =>
        if home.bytes = [] then
          (.errorSession, [.log .error "User '%s' has no home directory" [.str username]])
        else
          let noShell := match entry.shell with
            | some shell => shell.bytes.isEmpty
            | none => true
          let warned : List Event :=
            if noShell then [.log .warn "User '%s' has no shell, using /bin/sh" [.str username]] else []
          let starting := warned ++ [.log .info "Starting %s session '%s' for user '%s'"
            [.text session.type.label, .str session.name, .str username]]
          match world.fork with
          | .error errno => (.errorSession, starting ++ [.log .error "Failed to fork: %s" [.errno errno]])
          | .ok pid =>
            let child := childRun session entry home parent files world.child
            let waited := waitChild world child.2
            (waited.1, starting ++ [.log .info "Session started with PID %d" [.int pid]] ++
              child.1 ++ waited.2)

/-! ## What a launch does -/

/-- What a launch does: log calls and the child's system calls. -/
def Event.isLaunch : Event → Bool
  | .log _ _ _ | .setenv _ _ | .chdir _ | .setgid _ _ | .setuid _ _ | .exec _ _ _ _ | .exit _ => true
  | _ => false

theorem setenv_group_launch (world : ChildWorld) (names : List String) :
    (setenvGroup world names).1.all Event.isLaunch := by
  induction names with
  | nil => rfl
  | cons name rest inductionHypothesis =>
    unfold setenvGroup
    split_ifs <;> simp [Event.isLaunch, inductionHypothesis]

theorem set_environment_launch (world : ChildWorld) (groups : List (List String × String)) :
    (setEnvironment world groups).1.all Event.isLaunch := by
  induction groups with
  | nil => rfl
  | cons group rest inductionHypothesis =>
    have grouped := setenv_group_launch world group.1
    unfold setEnvironment
    split_ifs <;> simp [Event.isLaunch, grouped, inductionHypothesis]

theorem abort_child_launch (events : List Event) :
    (abortChild events).1.all Event.isLaunch = events.all Event.isLaunch := by
  simp [abortChild, Event.isLaunch]

theorem exec_session_launch (session : SessionInfo) (world : ChildWorld) (ids : Ids) (groups : List Nat)
    (files : List FileKind) : (execSession session world ids groups files).1.all Event.isLaunch := by
  unfold execSession abortChild
  split <;> split_ifs <;> rfl

theorem child_run_launch (session : SessionInfo) (entry : Passwd) (home : CStr) (parent : Creds)
    (files : List FileKind) (world : ChildWorld) :
    (childRun session entry home parent files world).1.all Event.isLaunch := by
  have environment := set_environment_launch world (environmentGroups session.type)
  unfold childRun
  simp only [apply_ite (fun r : List Event × ChildEnd => r.1.all Event.isLaunch), abort_child_launch,
    List.all_append, environment, exec_session_launch, Bool.true_and]
  simp [Event.isLaunch]

theorem wait_child_launch (world : LaunchWorld) (ending : ChildEnd) :
    (waitChild world ending).2.all Event.isLaunch := by
  cases waited : world.wait <;> cases ending <;> cases ended : world.session <;>
    simp [waitChild, waited, ended, Event.isLaunch]

/-- A launch only logs and makes the child's system calls. -/
theorem session_start_launch (session : SessionInfo) (username : CStr) (parent : Creds)
    (files : List FileKind) (world : LaunchWorld) :
    (sessionStart session username parent files world).2.all Event.isLaunch := by
  unfold sessionStart
  simp only [apply_ite (fun r : Status × List Event => r.2.all Event.isLaunch)]
  repeat' split
  all_goals simp [Event.isLaunch, child_run_launch, wait_child_launch]

/-! ## The privilege drop -/

/-- No `exec` call among `events`. -/
def NoExec (events : List Event) : Prop :=
  ∀ file ids groups inherited, Event.exec file ids groups inherited ∉ events

@[simp] theorem no_exec_append (first second : List Event) :
    NoExec (first ++ second) ↔ NoExec first ∧ NoExec second := by
  simp only [NoExec, List.mem_append, not_or]
  exact ⟨fun both => ⟨fun f i g h => (both f i g h).1, fun f i g h => (both f i g h).2⟩,
    fun both f i g h => ⟨both.1 f i g h, both.2 f i g h⟩⟩

/-- Events that a classification closed by evaluation finds free of `exec`. -/
theorem NoExec.of_all {events : List Event} (quiet : events.all fun | .exec .. => false | _ => true) :
    NoExec events :=
  fun _ _ _ _ => Event.not_mem_of_all quiet _ rfl

theorem setenv_group_no_exec (world : ChildWorld) (names : List String) :
    NoExec (setenvGroup world names).1 := by
  induction names with
  | nil => simp [setenvGroup, NoExec]
  | cons name rest inductionHypothesis =>
    unfold setenvGroup
    split_ifs
    · simpa [NoExec] using inductionHypothesis
    · simp [NoExec]

/-- Setting the environment execs nothing. -/
theorem set_environment_no_exec (world : ChildWorld) (groups : List (List String × String)) :
    NoExec (setEnvironment world groups).1 := by
  induction groups with
  | nil => simp [setEnvironment, NoExec]
  | cons group rest inductionHypothesis =>
    unfold setEnvironment
    split_ifs
    · exact (no_exec_append _ _).mpr ⟨setenv_group_no_exec world group.1, inductionHypothesis⟩
    · exact (no_exec_append _ _).mpr ⟨setenv_group_no_exec world group.1, by simp [NoExec]⟩

/-- Every `exec` of the session command is made with the ids, groups and
descriptors it is given. -/
theorem exec_session_execs {session : SessionInfo} {world : ChildWorld} {ids : Ids}
    {groups : List Nat} {files : List FileKind} {file : String} {ids' : Ids} {groups' : List Nat}
    {inherited : List FileKind}
    (member : Event.exec file ids' groups' inherited ∈ (execSession session world ids groups files).1) :
    ids' = ids ∧ groups' = groups ∧ inherited = files := by
  unfold execSession abortChild at member
  split at member <;> split_ifs at member <;> simp at member <;> tauto

/-- The ids the drop must reach: the account's uid and gid, real and effective. -/
def Passwd.ids (entry : Passwd) : Ids := ⟨entry.uid, entry.uid, entry.gid, entry.gid⟩

/-- Every step of the child before its `exec`s succeeds: the environment, the
home directory, `setgid`, `setuid` and the verification of all four ids. -/
def DropSucceeds (session : SessionInfo) (entry : Passwd) (parent : Creds) (world : ChildWorld) :
    Prop :=
  (setEnvironment world (environmentGroups session.type)).2 = true ∧ world.chdir = true ∧
    (world.setgid parent.ids entry.gid).1 = 0 ∧
    (world.setuid (world.setgid parent.ids entry.gid).2 entry.uid).1 = 0 ∧
    (world.setuid (world.setgid parent.ids entry.gid).2 entry.uid).2 = entry.ids

section Child

variable (session : SessionInfo) (entry : Passwd) (home : CStr) (parent : Creds)
  (files : List FileKind) (world : ChildWorld)

/-- A child whose steps all succeed has made `setgid` and then `setuid`
successfully and execs with the account's ids and the parent's groups. -/
theorem child_run_dropped (dropped : DropSucceeds session entry parent world) :
    childRun session entry home parent files world =
      ((setEnvironment world (environmentGroups session.type)).1 ++
          [.chdir true, .setgid entry.gid 0, .setuid entry.uid 0] ++
          (execSession session world entry.ids parent.groups files).1,
        (execSession session world entry.ids parent.groups files).2) := by
  obtain ⟨environment, entered, grouped, changed, verified⟩ := dropped
  simp [childRun, environment, entered, grouped, changed, verified, Passwd.ids]

/-- A child with a failing step or a wrong id after the drop exits with status
1 and has exec'd nothing. -/
theorem child_run_aborted (failing : ¬DropSucceeds session entry parent world) :
    ∃ events, childRun session entry home parent files world = abortChild events ∧
      NoExec events := by
  have quiet := set_environment_no_exec world (environmentGroups session.type)
  -- every abort after the environment only logs and reports the failed call
  have logged (more : List Event) (logs : more.all fun | .exec .. => false | _ => true) :
      NoExec ((setEnvironment world (environmentGroups session.type)).1 ++ more) :=
    (no_exec_append _ _).mpr ⟨quiet, .of_all logs⟩
  simp only [childRun, List.append_assoc, List.singleton_append, List.cons_append]
  by_cases environment : ¬(setEnvironment world (environmentGroups session.type)).2 = true
  · rw [if_pos environment]
    exact ⟨_, rfl, quiet⟩
  rw [if_neg environment]
  by_cases entered : ¬world.chdir = true
  · rw [if_pos entered]
    exact ⟨_, rfl, logged _ rfl⟩
  rw [if_neg entered]
  by_cases grouped : (world.setgid parent.ids entry.gid).1 ≠ 0
  · rw [if_pos grouped]
    exact ⟨_, rfl, logged _ rfl⟩
  rw [if_neg grouped]
  by_cases changed : (world.setuid (world.setgid parent.ids entry.gid).2 entry.uid).1 ≠ 0
  · rw [if_pos changed]
    exact ⟨_, rfl, logged _ rfl⟩
  rw [if_neg changed]
  split
  · exact ⟨_, rfl, logged _ rfl⟩
  · rename_i verified
    refine absurd ⟨not_not.mp environment, not_not.mp entered, not_not.mp grouped, not_not.mp changed, ?_⟩
      failing
    revert verified
    generalize (world.setuid (world.setgid parent.ids entry.gid).2 entry.uid).2 = ids
    cases ids
    simp [Passwd.ids]

/-- An `exec` of the child follows a successful `setgid` and then a successful
`setuid`, and is made with the account's ids, the parent's groups and the
parent's open descriptors. -/
theorem child_run_exec {file : String} {ids : Ids} {groups : List Nat} {inherited : List FileKind}
    (member : Event.exec file ids groups inherited ∈ (childRun session entry home parent files world).1) :
    ids = entry.ids ∧ groups = parent.groups ∧ inherited = files ∧
      ∃ before after, (childRun session entry home parent files world).1 =
          before ++ .setgid entry.gid 0 :: .setuid entry.uid 0 :: after ∧
        Event.exec file ids groups inherited ∈ after := by
  by_cases dropped : DropSucceeds session entry parent world
  · rw [child_run_dropped session entry home parent files world dropped] at member ⊢
    have quiet := set_environment_no_exec world (environmentGroups session.type)
    simp only [List.mem_append, List.mem_cons, List.not_mem_nil, or_false, reduceCtorEq] at member
    rcases member with member | member
    · exact absurd member (quiet _ _ _ _)
    · exact ⟨(exec_session_execs member).1, (exec_session_execs member).2.1,
        (exec_session_execs member).2.2,
        (setEnvironment world (environmentGroups session.type)).1 ++ [.chdir true], _, by simp, member⟩
  · obtain ⟨events, aborted, quiet⟩ := child_run_aborted session entry home parent files world dropped
    rw [aborted] at member
    simp only [abortChild, List.mem_append, List.mem_singleton, reduceCtorEq, or_false] at member
    exact absurd member (quiet _ _ _ _)

end Child

/-- The parent's report of the child's termination execs nothing. -/
theorem wait_child_no_exec (world : LaunchWorld) (ending : ChildEnd) :
    NoExec (waitChild world ending).2 := by
  cases waited : world.wait <;> cases ending <;> cases ended : world.session <;>
    simp [waitChild, waited, ended, NoExec]

/-- `session_start` either forks a child, whose events are framed by the
parent's reports, or fails before any `fork` with `KIA_ERROR_SESSION`. -/
theorem session_start_cases (session : SessionInfo) (username : CStr) (parent : Creds)
    (files : List FileKind) (world : LaunchWorld) :
    (∃ entry home pid before, world.lookup = .found entry ∧ entry.dir = some home ∧
      world.fork = .ok pid ∧ NoExec before ∧
      sessionStart session username parent files world =
        ((waitChild world (childRun session entry home parent files world.child).2).1,
          before ++ (childRun session entry home parent files world.child).1 ++
            (waitChild world (childRun session entry home parent files world.child).2).2)) ∨
    ((sessionStart session username parent files world).1 = .errorSession ∧
      NoExec (sessionStart session username parent files world).2) := by
  generalize launched : sessionStart session username parent files world = outcome
  simp only [sessionStart] at launched
  by_cases unnamed : username.bytes = []
  · rw [if_pos unnamed] at launched
    exact .inr ⟨launched ▸ rfl, launched ▸ .of_all rfl⟩
  by_cases invalid : session.name.bytes = [] ∨ session.exec.bytes = []
  · rw [if_neg unnamed, if_pos invalid] at launched
    exact .inr ⟨launched ▸ rfl, launched ▸ .of_all rfl⟩
  rw [if_neg unnamed, if_neg invalid] at launched
  split at launched
  · exact .inr ⟨launched ▸ rfl, launched ▸ .of_all rfl⟩
  · exact .inr ⟨launched ▸ rfl, launched ▸ .of_all rfl⟩
  rename_i entry found
  split at launched
  · exact .inr ⟨launched ▸ rfl, launched ▸ .of_all rfl⟩
  rename_i home present
  by_cases homeless : home.bytes = []
  · rw [if_pos homeless] at launched
    exact .inr ⟨launched ▸ rfl, launched ▸ .of_all rfl⟩
  rw [if_neg homeless] at launched
  split at launched
  · exact .inr ⟨launched ▸ rfl, launched ▸ by split_ifs <;> exact .of_all rfl⟩
  rename_i pid forked
  exact .inl ⟨entry, home, pid, _, found, present, forked, by split_ifs <;> exact .of_all rfl, launched.symm⟩

end Kia
