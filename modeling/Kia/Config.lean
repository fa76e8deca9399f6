import Kia.Basic

/-!
# The configuration record

`kia_config_t` and the two operations on it that the controller calls besides
`config_load`: the defaults and `config_validate`. The range checks of
`max_attempts` and `lockout_duration` are the ones the lockout policy relies
on; `config_validate` checks the lower bound of the duration only, the upper
bound is enforced where a value is parsed.
-/

namespace Kia

/-- `kia_config_t`. -/
structure KiaConfig where
  autologinUser : CStr
  autologinEnabled : Bool
  defaultSession : CStr
  maxAttempts : Int
  enableLogs : Bool
  lockoutDuration : Int
deriving DecidableEq

namespace KiaConfig

/-- The record after `memset(ctx, 0, sizeof(app_context_t))`. -/
def zero : KiaConfig := ⟨CStr.empty, false, CStr.empty, 0, false, 0⟩

/-- The bytes of `"xfce"`, the default session. -/
def defaultSessionName : CStr := ⟨[120, 102, 99, 101], by decide⟩

/-- `config_set_defaults`. -/
def defaults : KiaConfig :=
  { autologinUser := CStr.empty
    autologinEnabled := false
    defaultSession := defaultSessionName
    maxAttempts := 3
    enableLogs := true
    lockoutDuration := 60 }

end KiaConfig

/-- `config_validate`: `max_attempts` in `[MIN_MAX_ATTEMPTS, MAX_MAX_ATTEMPTS]`
and a nonnegative `lockout_duration`. -/
def configValidate (config : KiaConfig) : Status :=
  if 1 ≤ config.maxAttempts ∧ config.maxAttempts ≤ 10 ∧ 0 ≤ config.lockoutDuration then
    .success
  else
    .errorConfig

theorem config_validate_defaults : configValidate KiaConfig.defaults = .success := by decide

end Kia
