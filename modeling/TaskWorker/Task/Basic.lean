import TaskWorker.Json.Basic
import TaskWorker.Time.Moment
import TaskWorker.Time.Span
/-!
# Tasks and their results

A server hands out tasks; a worker sends back one result for each. A result belongs to its task by
the task's id and workflow. A result of failure gives its reason twice: in its own place and as the
one line of its log.

* `Task`, `TaskStatus`, `LogLine`, `TaskResult`;
* `TaskResult.completed`, `inProgress`, `failed`, `failedTerminally` make the result of a task;
* `TaskStatus.isTerminal`, `TaskStatus.isFailure`: **every failure is terminal**
  (`isTerminal_of_isFailure`).
-/

namespace TaskWorker

/-- A unit of work of one type. -/
structure Task where
  id : String
  type : String
  /-- The id of the workflow that the task is part of. -/
  workflow : String
  input : Json
  /-- The part of the type's queue that the task is kept in. -/
  domain : Option String
  /-- How often the task was handed out. -/
  pollCount : UInt32
  retryCount : UInt32
  /-- The worker that the task was handed to. -/
  workerId : Option String
  deriving Inhabited, Repr

namespace Task

/-- A task that has not been handed out yet. -/
def new (id type workflow : String) (input : Json) : Task :=
  ⟨id, type, workflow, input, none, 0, 0, none⟩

end Task

/-- How far a task got. -/
inductive TaskStatus where
  /-- The task goes on later. -/
  | inProgress
  | completed
  /-- The task may be tried again. -/
  | failed
  /-- The task must not be tried again. -/
  | failedTerminally
  deriving DecidableEq, Repr, Inhabited

namespace TaskStatus

/-- The name of a status. -/
def name : TaskStatus → String
  | .inProgress => "IN_PROGRESS"
  | .completed => "COMPLETED"
  | .failed => "FAILED"
  | .failedTerminally => "FAILED_WITH_TERMINAL_ERROR"

/-- The status of a name. -/
def ofName? (s : String) : Option TaskStatus :=
  [.inProgress, .completed, .failed, .failedTerminally].find? fun st => st.name = s

/-- Whether the task is over. -/
def isTerminal : TaskStatus → Bool
  | .inProgress => false
  | _ => true

/-- Whether the task failed. -/
def isFailure : TaskStatus → Bool
  | .failed | .failedTerminally => true
  | _ => false

/-- **Every failure is terminal.** -/
theorem isTerminal_of_isFailure {s : TaskStatus} (h : s.isFailure = true) :
    s.isTerminal = true := by
  cases s <;> first | rfl | cases h

theorem ofName?_name (s : TaskStatus) : ofName? s.name = some s := by
  cases s <;> rfl

end TaskStatus

/-- A line of a result's log. -/
structure LogLine where
  text : String
  time : Moment
  deriving DecidableEq, Repr, Inhabited

/-- What became of a task. -/
structure TaskResult where
  taskId : String
  workflow : String
  workerId : Option String
  status : TaskStatus
  output : Json
  reason : Option String
  /-- The seconds after which a task in progress is handed out again. -/
  callbackSeconds : UInt64
  logs : List LogLine
  deriving Inhabited, Repr

namespace TaskResult

/-- A result that carries over what identifies the task. -/
def forTask (task : Task) (status : TaskStatus) : TaskResult :=
  { taskId := task.id, workflow := task.workflow, workerId := task.workerId, status,
    output := .null, reason := none, callbackSeconds := 0, logs := [] }

/-- The task is done and has an output. -/
def completed (task : Task) (output : Json) : TaskResult :=
  { forTask task .completed with output }

/-- The task goes on after a while. -/
def inProgress (task : Task) (after : Span) : TaskResult :=
  { forTask task .inProgress with callbackSeconds := after.wholeSeconds }

/-- The task failed, now, for a reason. -/
def failure (task : Task) (status : TaskStatus) (reason : String) (now : Moment) : TaskResult :=
  { forTask task status with reason := some reason, logs := [⟨reason, now⟩] }

/-- The task failed and may be tried again. -/
def failed (task : Task) (reason : String) (now : Moment) : TaskResult :=
  failure task .failed reason now

/-- The task failed for good. -/
def failedTerminally (task : Task) (reason : String) (now : Moment) : TaskResult :=
  failure task .failedTerminally reason now

/-- Adds a line to the log. -/
def log (r : TaskResult) (line : String) (now : Moment) : TaskResult :=
  { r with logs := r.logs ++ [⟨line, now⟩] }

/-- The result under another worker id. -/
def signedBy (r : TaskResult) (workerId : String) : TaskResult :=
  { r with workerId := some workerId }

end TaskResult

end TaskWorker
