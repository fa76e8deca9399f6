import Kia.Session

/-!
# The privilege drop of a launched session

What reaches the session command: for every account, every credential state
of the parent and every answer of the kernel, an `exec` in the trace of
`session_start` comes after a successful `setgid(pw_gid)` followed by a
successful `setuid(pw_uid)`, with the account's real and effective ids. The
supplementary groups are not part of the drop: the child execs with the
parent's list, so a root parent's groups reach the session.
-/

namespace Kia

/-- Every `exec` of a launch follows a successful `setgid(pw_gid)` and then a
successful `setuid(pw_uid)` and is made with real and effective uid `pw_uid`,
real and effective gid `pw_gid` and the parent's supplementary groups. When a
step of the child fails or an id is wrong after the drop, the launch execs
nothing and returns `KIA_ERROR_SESSION`.

Proof: a launch either fails before `fork`, with no `exec`, or frames the
child's events by reports of the parent that exec nothing; the child's own
`exec`s are those of a successful drop. -/
theorem session_start_drop_before_exec (session : SessionInfo) (username : CStr)
    (parent : Creds) (files : List FileKind) (world : LaunchWorld) :
    (∀ file ids groups inherited,
      Event.exec file ids groups inherited ∈ (sessionStart session username parent files world).2 →
      ∃ entry, world.lookup = .found entry ∧ ids = entry.ids ∧ groups = parent.groups ∧
        ∃ before after, (sessionStart session username parent files world).2 =
            before ++ .setgid entry.gid 0 :: .setuid entry.uid 0 :: after ∧
          Event.exec file ids groups inherited ∈ after) ∧
    (∀ entry, world.lookup = .found entry → ¬DropSucceeds session entry parent world.child →
      NoExec (sessionStart session username parent files world).2 ∧
        (sessionStart session username parent files world).1 = .errorSession) := by
  rcases session_start_cases session username parent files world with
    ⟨entry, home, pid, before, found, present, forked, quiet, launched⟩ | ⟨failed, quiet⟩
  · have waitQuiet := wait_child_no_exec world (childRun session entry home parent files world.child).2
    refine ⟨fun file ids groups inherited member => ?_, fun other found' failing => ?_⟩
    · rw [launched] at member ⊢
      simp only [List.mem_append] at member
      rcases member with (member | member) | member
      · exact absurd member (quiet _ _ _ _)
      · obtain ⟨dropped, grouped, -, inner, after, split, later⟩ :=
          child_run_exec session entry home parent files world.child member
        refine ⟨entry, found, dropped, grouped, before ++ inner,
          after ++ (waitChild world (childRun session entry home parent files world.child).2).2,
          by rw [split]; simp, List.mem_append_left _ later⟩
      · exact absurd member (waitQuiet _ _ _ _)
    · obtain rfl : other = entry := Lookup.found.inj (found'.symm.trans found)
      obtain ⟨events, aborted, childQuiet⟩ :=
        child_run_aborted session other home parent files world.child failing
      rw [launched, aborted]
      refine ⟨by
        simp only [abortChild, no_exec_append, quiet, childQuiet, wait_child_no_exec, true_and, and_true]
        simp [NoExec], ?_⟩
      unfold waitChild abortChild
      split <;> simp
  · exact ⟨fun file ids groups inherited member => absurd member (quiet _ _ _ _),
      fun _ _ _ => ⟨quiet, failed⟩⟩

/-! ## What a reported launch means -/

/-- The session command either replaces the child or ends it with status 1. -/
theorem exec_session_ending (session : SessionInfo) (world : ChildWorld) (ids : Ids) (groups : List Nat)
    (files : List FileKind) :
    (execSession session world ids groups files).2 = .replaced ∨ (execSession session world ids groups files).2 = .exited 1 := by
  unfold execSession abortChild
  split <;> split_ifs <;> simp

/-- The child is replaced by the session only after every step of the drop
succeeded and an `exec` of the command replaced it; otherwise it exits with
status 1. -/
theorem child_run_ending (session : SessionInfo) (entry : Passwd) (home : CStr) (parent : Creds)
    (files : List FileKind) (world : ChildWorld) :
    (DropSucceeds session entry parent world ∧ (execSession session world entry.ids parent.groups files).2 = .replaced ∧
        (childRun session entry home parent files world).2 = .replaced) ∨
      (childRun session entry home parent files world).2 = .exited 1 := by
  by_cases dropped : DropSucceeds session entry parent world
  · rw [child_run_dropped session entry home parent files world dropped]
    exact (exec_session_ending session world entry.ids parent.groups files).imp (fun replaced => ⟨dropped, replaced, replaced⟩) id
  · obtain ⟨events, aborted, -⟩ := child_run_aborted session entry home parent files world dropped
    rw [aborted]
    exact .inr rfl

/-- The parent reports success for a replaced child exactly when `waitpid`
succeeds and the session exits with status 0. -/
theorem wait_child_replaced (world : LaunchWorld) :
    (waitChild world .replaced).1 = .success ↔ world.wait = none ∧ world.session = .exited 0 := by
  unfold waitChild
  cases world.wait <;> cases world.session <;> simp

/-- The parent never reports success for a child that exited with status 1. -/
theorem wait_child_aborted (world : LaunchWorld) : (waitChild world (.exited 1)).1 ≠ .success := by
  unfold waitChild
  cases world.wait <;> simp

/-- `session_start` returns `KIA_SUCCESS` exactly when the session ran as the
account and ended well: the name and the entry are not empty, the account has
a home directory, `fork` succeeds, every step of the child succeeds with all
four ids verified, an `exec` of the session replaces the child, `waitpid`
succeeds and the session exits with status 0. A child that aborts exits with
status 1, so its exit is never taken for the session's. -/
theorem session_start_success_iff (session : SessionInfo) (username : CStr) (parent : Creds)
    (files : List FileKind) (world : LaunchWorld) :
    (sessionStart session username parent files world).1 = .success ↔
      username.bytes ≠ [] ∧ session.name.bytes ≠ [] ∧ session.exec.bytes ≠ [] ∧
        ∃ entry home pid, world.lookup = .found entry ∧ entry.dir = some home ∧ home.bytes ≠ [] ∧
          world.fork = .ok pid ∧ DropSucceeds session entry parent world.child ∧
          (execSession session world.child entry.ids parent.groups files).2 = .replaced ∧
          world.wait = none ∧ world.session = .exited 0 := by
  constructor
  · intro success
    have named : username.bytes ≠ [] := fun unnamed => by simp [sessionStart, unnamed] at success
    have valid : ¬(session.name.bytes = [] ∨ session.exec.bytes = []) := fun invalid => by
      simp [sessionStart, named, invalid] at success
    rcases session_start_cases session username parent files world with
      ⟨entry, home, pid, before, found, present, forked, -, launched⟩ | ⟨failed, -⟩
    · have housed : home.bytes ≠ [] := fun homeless => by
        simp [sessionStart, named, valid, found, present, homeless] at success
      rw [launched] at success
      rcases child_run_ending session entry home parent files world.child with ⟨dropped, replaced, ended⟩ | aborted
      · rw [ended, wait_child_replaced] at success
        exact ⟨named, (not_or.mp valid).1, (not_or.mp valid).2, entry, home, pid, found, present, housed, forked,
          dropped, replaced, success⟩
      · exact absurd (aborted ▸ success) (wait_child_aborted world)
    · rw [failed] at success
      cases success
  · rintro ⟨named, hasName, hasExec, entry, home, pid, found, present, housed, forked, dropped, replaced, waited⟩
    simp only [sessionStart, if_neg named, if_neg (not_or.mpr ⟨hasName, hasExec⟩), found, present, if_neg housed,
      forked, child_run_dropped session entry home parent files world.child dropped, replaced]
    exact (wait_child_replaced world).mpr waited

/-- A manager running as root: uid and gid 0, supplementary group 0. -/
def rootCreds : Creds := ⟨⟨0, 0, 0, 0⟩, [0]⟩

/-- A kernel that carries out `setgid` and `setuid` for a privileged caller and
accepts every other call; the shell `exec` replaces the image. -/
def obedientKernel : ChildWorld :=
  { setenv := fun _ => true
    chdir := true
    setgid := fun ids gid => (0, { ids with rgid := gid, egid := gid })
    setuid := fun ids uid => (0, { ids with ruid := uid, euid := uid })
    startx := false
    shell := true
    errno := 0 }

/-- Account `u`: uid and gid 1000, home `/h`, member of group 1000 only. -/
def ordinaryAccount : Passwd := ⟨1000, 1000, some ⟨[47, 104], by decide⟩, none⟩

/-- A Wayland session `w` with command `s`. -/
def waylandSession : SessionInfo := ⟨⟨[119], by decide⟩, ⟨[115], by decide⟩, .wayland⟩

/-- The launch of `w` for `u` by a root manager, with every call succeeding. -/
def rootLaunch : LaunchWorld := ⟨.found ordinaryAccount, .ok 42, obedientKernel, .exited 0, none⟩

/-- The session of account `u`, a member of group 1000 only, is exec'd with
the root manager's supplementary group 0. -/
theorem root_group_reaches_session :
    Event.exec "/bin/sh" ⟨1000, 1000, 1000, 1000⟩ [0] [] ∈
        (sessionStart waylandSession ⟨[117], by decide⟩ rootCreds [] rootLaunch).2 ∧
      (0 : Nat) ∉ [1000] := by
  decide

end Kia
