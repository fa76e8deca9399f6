import Kia.Main
import Kia.Progress

/-!
# What main's exit status says

`main` returns `EXIT_SUCCESS` after `--version` or `--help`, and otherwise only
when `controller_run` returned `KIA_SUCCESS`. The loop returns that code only
at an iteration of its own in which `session_start` reported a successful
launch: a fatal failure returns its own nonzero code, every other failure
sends the loop back to the login screen, and the signal handler changes
nothing the loop reads (`signalled_run_unsignalled`). So an exit status of 0
cannot come from a refused login, a fatal failure or a signal: it means that
one of the run's iterations launched a session while the loop was still going
(`kia_main_exits_zero`). Conversely, whatever inputs follow, a launch ends
`main` with status 0 (`kia_main_launch_exits_zero`).
-/

namespace Kia

/-- The manager as `main` enters `controller_run`: straight after
`controller_init`, with the loaded configuration and the log file set up. -/
def loopMachine (creds : Creds) (startup : Startup) : Machine :=
  ⟨{ controllerInit with config := startup.loaded }, loopGlobals startup, creds⟩

theorem loop_machine_active (creds : Creds) (startup : Startup) : (loopMachine creds startup).Active :=
  ⟨rfl, AppState.noConfusion⟩

/-! ## The loop's code -/

section Run

variable {m : Machine} {result : Status} {inputs : List Input}

/-- A loop that returns `KIA_SUCCESS` from a running machine does so at one of
its own iterations, a launch, made while the loop was still going. -/
theorem controller_run_success (active : m.Active) (finished : (controllerRun m result inputs).result = some .success) :
    ∃ before input after, inputs = before ++ input :: after ∧ (controllerRun m result before).result = none ∧
      Launched (controllerRun m result before).machine input := by
  obtain ⟨before, input, after, split, waiting, exited, returned, -⟩ := controller_run_stopped_at active finished
  rcases (controller_step_exit_iff _ input (controller_run_waiting_active waiting).2).mp exited with fatal | launched
  · exact absurd returned (fatal_step_result _ input fatal)
  · exact ⟨before, input, after, split, waiting, launched⟩

/-- After a launch the loop stops with `KIA_SUCCESS`, whatever inputs follow. -/
theorem controller_run_after_launch {input : Input} (active : m.Active) (launched : Launched m input)
    (rest : List Input) : (controllerRun m result (input :: rest)).result = some .success := by
  rw [(controller_run_exit_step active ((controller_step_exit_iff m input active.2).mpr (.inr launched)) rest).1,
    launched_step_result m input launched]

/-- A loop that has stopped stays stopped, whatever inputs follow. -/
theorem controller_run_append_stopped (first second : List Input) {code : Status}
    (stopped : (controllerRun m result first).result = some code) :
    (controllerRun m result (first ++ second)).result = some code ∧
      (controllerRun m result (first ++ second)).machine = (controllerRun m result first).machine := by
  induction first generalizing m result with
  | nil =>
    by_cases active : m.Active
    · rw [controller_run_waiting active] at stopped
      cases stopped
    · simp only [List.nil_append, controller_run_idle active] at stopped ⊢
      exact ⟨stopped, trivial⟩
  | cons input rest inductionHypothesis =>
    rw [List.cons_append, controllerRun, controllerRun]
    rw [controllerRun] at stopped
    dsimp only at stopped ⊢
    split_ifs at stopped ⊢
    · exact ⟨stopped, rfl⟩
    · exact inductionHypothesis stopped
    · exact ⟨stopped, rfl⟩

/-- A signal changes nothing the loop reads: a signalled loop returns what the
loop without the signal returns, and its machine differs from that loop's at
most in the shutdown flag. -/
theorem signalled_run_unsignalled (signal : Option Nat) :
    (signalledRun m result inputs signal).result = (controllerRun m result inputs).result ∧
      ∃ requested, (signalledRun m result inputs signal).machine =
        (controllerRun m result inputs).machine.withShutdown requested := by
  cases signal with
  | none => exact ⟨rfl, _, rfl⟩
  | some delay =>
    simp only [signalledRun]
    split
    · rename_i code stopped
      obtain ⟨sameResult, sameMachine⟩ :=
        controller_run_append_stopped (inputs.take delay) (inputs.drop delay) stopped
      rw [List.take_append_drop] at sameResult sameMachine
      exact ⟨stopped.trans sameResult.symm, _, sameMachine.symm⟩
    · rename_i waiting
      obtain ⟨sameResult, sameMachine⟩ := controller_run_append (inputs.take delay) (inputs.drop delay) waiting
      rw [List.take_append_drop] at sameResult sameMachine
      rw [show { (controllerRun m result (inputs.take delay)).machine with
          globals := signalHandler (controllerRun m result (inputs.take delay)).machine.globals } =
          (controllerRun m result (inputs.take delay)).machine.withShutdown true from rfl,
        controller_run_shutdown, controller_run_result_irrelevant (controller_run_waiting_active waiting) .success]
      exact ⟨sameResult.symm, true, by rw [sameMachine]⟩

end Run

/-! ## main -/

/-- `main` exits with status 0 only after `--version` or `--help`, or after the
loop launched a session: at one of the iterations of the run, made while the
loop, signalled as the run is, was still going. Neither a fatal failure, nor a
refused login, nor a signal gives status 0. -/
theorem kia_main_exits_zero (creds : Creds) (startup : Startup) (inputs : List Input) (signal : Option Nat)
    (exited : (kiaMain creds startup inputs signal).1 = some 0) :
    0 < parseArguments startup.arguments ∨
      ∃ before input after, inputs = before ++ input :: after ∧
        (signalledRun (loopMachine creds startup) .success before signal).result = none ∧
        Launched (signalledRun (loopMachine creds startup) .success before signal).machine input := by
  unfold kiaMain at exited
  by_cases arguments : parseArguments startup.arguments ≠ 0
  · rw [if_pos arguments] at exited
    by_cases asked : 0 < parseArguments startup.arguments
    · exact .inl asked
    · rw [if_neg asked] at exited
      cases exited
  rw [if_neg arguments] at exited
  by_cases root : creds.ids.euid ≠ 0
  · rw [if_pos root] at exited
    cases exited
  rw [if_neg root] at exited
  by_cases handlers : startup.handlers = false
  · rw [if_pos handlers] at exited
    cases exited
  rw [if_neg handlers] at exited
  generalize running : signalledRun _ Status.success inputs signal = run at exited
  obtain ⟨stopped, machine, events⟩ := run
  cases stopped with
  | none => cases exited
  | some code =>
    dsimp only at exited
    have succeeded : code = .success := by
      by_contra failed
      rw [if_neg failed] at exited
      cases exited
    have finished : (controllerRun (loopMachine creds startup) .success inputs).result = some .success := by
      rw [← (signalled_run_unsignalled signal).1, loopMachine, running, succeeded]
    obtain ⟨before, input, after, split, waiting, launched⟩ :=
      controller_run_success (loop_machine_active creds startup) finished
    obtain ⟨same, requested, machine⟩ := @signalled_run_unsignalled (loopMachine creds startup) .success before signal
    exact .inr ⟨before, input, after, split, same.trans waiting, by rw [machine]; exact launched⟩

/-- The autologin run of a root manager exits with status 0. -/
theorem autologin_run_exits_zero :
    (kiaMain rootCreds rootStartup (List.replicate 4 autologinInput) none).1 = some 0 ∧
      (0 < parseArguments rootStartup.arguments ∨
        ∃ before input after, List.replicate 4 autologinInput = before ++ input :: after ∧
          (signalledRun (loopMachine rootCreds rootStartup) .success before none).result = none ∧
          Launched (signalledRun (loopMachine rootCreds rootStartup) .success before none).machine input) :=
  have exited : (kiaMain rootCreds rootStartup (List.replicate 4 autologinInput) none).1 = some 0 := by decide
  ⟨exited, kia_main_exits_zero rootCreds rootStartup _ none exited⟩

/-- A manager run without arguments, by root, with its signal handlers
installed, whose loop launches a session after the inputs `before`, exits with
status 0 whatever inputs follow. -/
theorem kia_main_launch_exits_zero (creds : Creds) (startup : Startup) (noArguments : startup.arguments = [])
    (root : creds.ids.euid = 0) (handlers : startup.handlers = true) (before : List Input) (input : Input)
    (after : List Input) (waiting : (controllerRun (loopMachine creds startup) .success before).result = none)
    (launched : Launched (controllerRun (loopMachine creds startup) .success before).machine input) :
    (kiaMain creds startup (before ++ input :: after) none).1 = some 0 := by
  have finished : (controllerRun (loopMachine creds startup) .success (before ++ input :: after)).result =
      some .success := by
    rw [(controller_run_append before _ waiting).1]
    exact controller_run_after_launch (controller_run_waiting_active waiting) launched after
  simp only [kiaMain, noArguments, parseArguments, ne_eq, not_true_eq_false, if_false, root, handlers,
    Bool.true_eq_false]
  simp only [signalledRun, show ({ controllerInit with config := startup.loaded } : AppContext) =
    (loopMachine creds startup).ctx from rfl]
  rw [show (⟨(loopMachine creds startup).ctx, loopGlobals startup, creds⟩ : Machine) = loopMachine creds startup from rfl,
    finished]
  rfl

/-- The root autologin run launches `w` at its fourth iteration, so it ends
`main` with status 0 whatever follows. -/
theorem autologin_launch_exits_zero :
    (kiaMain rootCreds rootStartup (List.replicate 3 autologinInput ++ autologinInput :: [autologinInput]) none).1 =
      some 0 :=
  have waiting : (controllerRun (loopMachine rootCreds rootStartup) .success (List.replicate 3 autologinInput)).result =
      none := by decide
  have launched : Launched (controllerRun (loopMachine rootCreds rootStartup) .success
      (List.replicate 3 autologinInput)).machine autologinInput :=
    ⟨by decide, waylandSession, by decide, by decide⟩
  kia_main_launch_exits_zero rootCreds rootStartup rfl rfl rfl _ autologinInput [autologinInput] waiting launched

end Kia
