import TaskWorker.Retry
import TaskWorker.Settings.Error
import TaskWorker.Table
/-!
# Settings of a host

* `Settings`, with the defaults `Settings.standard`;
* `Settings.retryPolicy`, `Settings.domainFor`, `Settings.executionName`, what they mean;
* `Settings.validate`, the check that needs no handlers: the grace period is a second or more.
-/

namespace TaskWorker

/-- What a host is told before it starts. -/
structure Settings where
  /-- The worker id of handlers that have no id of their own. -/
  workerId : String
  /-- The slots of all task types together. -/
  sharedSlots : Option UInt64
  /-- The slots of each task type. -/
  slotsPerType : Table UInt64
  /-- The pause between two attempts to report a result. -/
  retryPause : Span
  /-- The attempts to report a result after the first one. -/
  retries : UInt32
  /-- How long a shutdown waits for what is under way. -/
  gracePeriod : Span
  /-- The domain polled for a task type. -/
  domains : Table String
  /-- How executions are named. -/
  namePattern : String
  deriving DecidableEq

namespace Settings

/-- The place of the number in a name pattern. -/
def placeholder : String := "%d"

/-- The settings of a worker that is told nothing but a part of its id. -/
def standard (freshId : String) : Settings :=
  { workerId := "worker-" ++ freshId
    sharedSlots := none
    slotsPerType := ∅
    retryPause := RetryPolicy.default.pause
    retries := RetryPolicy.default.retries
    gracePeriod := .ofSeconds 10
    domains := ∅
    namePattern := "workflow-worker-" ++ placeholder }

instance : Inhabited Settings := ⟨standard ""⟩

/-- How results are reported again. -/
def retryPolicy (s : Settings) : RetryPolicy := ⟨s.retries, s.retryPause⟩

/-- The domain polled for a task type; an empty name means none. -/
def domainFor (s : Settings) (taskType : String) : Option String :=
  (s.domains.get? taskType).filter fun d => !d.isEmpty

/-- Whether a pattern has a place for the number. -/
def hasPlaceholder : List Char → Bool
  | '%' :: 'd' :: _ => true
  | _ :: cs => hasPlaceholder cs
  | [] => false

/-- Writes digits into every place for the number. -/
def substitute (digits : List Char) : List Char → List Char
  | '%' :: 'd' :: cs => digits ++ substitute digits cs
  | c :: cs => c :: substitute digits cs
  | [] => []

/-- The name of execution `n`: its number stands in the places for it, or else at the end. -/
def executionName (s : Settings) (n : Nat) : String :=
  let pattern := s.namePattern.toList
  let digits := Nat.toDigits 10 n
  String.ofList (if hasPlaceholder pattern then substitute digits pattern else pattern ++ digits)

/-- The check that needs no handlers. -/
def validate (s : Settings) : Except SettingsError Unit :=
  if s.gracePeriod.nanos < 1_000_000_000 then .error (.shortGracePeriod s.gracePeriod) else .ok ()

theorem validate_eq_ok_iff {s : Settings} :
    s.validate = .ok () ↔ 1_000_000_000 ≤ s.gracePeriod.nanos := by
  unfold validate
  split
  · simp; omega
  · simp; omega

/-- The domain that is polled is not empty. -/
theorem domainFor_ne_empty {s : Settings} {t d : String} (h : s.domainFor t = some d) :
    d.isEmpty = false := by
  simp only [domainFor, Option.filter_eq_some_iff] at h
  simpa using h.2

end Settings

end TaskWorker
