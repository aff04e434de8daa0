import TaskWorker.Text.Numeral
import TaskWorker.Text.Quoted
import TaskWorker.Time.Span
/-!
# What can be wrong with settings

* `SettingsError`, the causes; `SettingsError.message`, their wording;
* `VariableFault`, what can be wrong with the value of an environment variable;
* `maxSlots`, the largest number of slots that a task type can have.
-/

namespace TaskWorker

/-- The largest number of slots that a task type can have. -/
def maxSlots : UInt64 := 2305843009213693951

theorem maxSlots_toNat : maxSlots.toNat = UInt64.size / 8 - 1 := by decide

/-- What is wrong with the value of a variable. -/
inductive VariableFault where
  | number (fault : Text.NumeralFault)
  /-- An entry of a list that does not give a value to a name. -/
  | entry (text : String)
  deriving DecidableEq, Repr

/-- The wording of a fault in a variable. -/
def VariableFault.reason : VariableFault → String
  | .number fault => fault.reason
  | .entry text => "expected name=value, got " ++ Text.quote text

/-- Why settings are refused. -/
inductive SettingsError where
  /-- Slots are given both for each type and for all types together. -/
  | conflictingSlots
  /-- A task type is given no slot. -/
  | noSlots (taskType : String) (count : UInt64)
  /-- All task types together are given no slot. -/
  | noSharedSlots (count : UInt64)
  | tooManySlots (count : UInt64)
  | shortGracePeriod (period : Span)
  | noPollingInterval (taskType : String)
  | badVariable (key value : String) (fault : VariableFault)
  deriving DecidableEq, Repr

/-- The wording of an error. -/
def SettingsError.message : SettingsError → String
  | .conflictingSlots =>
    "invalid worker thread count specified, use either shared thread pool or config thread count per task"
  | .noSlots taskType count =>
    "thread count for task type " ++ taskType ++ " must be at least 1, got " ++ toString count
  | .noSharedSlots count => "shared thread count must be at least 1, got " ++ toString count
  | .tooManySlots count =>
    "thread count " ++ toString count ++ " exceeds the maximum of " ++ toString maxSlots
  | .shortGracePeriod period =>
    "shutdown grace period must be at least 1 second, got " ++ period.text
  | .noPollingInterval taskType =>
    "polling interval for task type " ++ taskType ++ " must be greater than zero"
  | .badVariable key value fault =>
    "invalid value " ++ Text.quote value ++ " for " ++ key ++ ": " ++ fault.reason

end TaskWorker
