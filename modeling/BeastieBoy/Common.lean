import BeastieBoy.CLib.Numeral

/-!
# What both tools share

`common/common.h`, and the log lines of `common/common.c`.
-/

namespace BeastieBoy

open CLib

inductive AppLogLevel where
  | error
  | warning
  | info
  | debug
  deriving DecidableEq

def AppLogLevel.value : AppLogLevel → Nat
  | .error => 0
  | .warning => 1
  | .info => 2
  | .debug => 3

def appLogLevelName : AppLogLevel → CString
  | .error => "ERROR".toList
  | .warning => "WARNING".toList
  | .info => "INFO".toList
  | .debug => "DEBUG".toList

/-- `app_log_message`, which `boy_log` and `beastie_log` repeat. `text` is what
`vfprintf` writes. -/
def appLogMessage (currentLevel messageLevel : AppLogLevel) (text : CString) : CString :=
  if messageLevel.value > currentLevel.value then []
  else "[".toList ++ appLogLevelName messageLevel ++ "] ".toList ++ text ++ ['\n']

/-- No level hides an error. -/
theorem appLogMessage_error (currentLevel : AppLogLevel) (text : CString) :
    appLogMessage currentLevel .error text = "[ERROR] ".toList ++ text ++ ['\n'] := by
  have always : ¬ AppLogLevel.error.value > currentLevel.value := Nat.not_lt_zero _
  rw [appLogMessage, if_neg always]
  rfl

/-- The lowest level hides every other message. -/
theorem appLogMessage_of_ne_error {messageLevel : AppLogLevel} (other : messageLevel ≠ .error)
    (text : CString) : appLogMessage .error messageLevel text = [] := by
  cases messageLevel with
  | error => exact absurd rfl other
  | warning => rfl
  | info => rfl
  | debug => rfl

end BeastieBoy
