import TaskWorker.Retry
import TaskWorker.Task.Basic
/-!
# A task server in memory

The server keeps the tasks that wait, the polls it has seen and the results it has accepted. A poll
names a task type and perhaps a domain and takes the oldest task of exactly that type and domain.
The server can be told to fail polls, to reject reports, and to fail a number of reports.

* `Server`, with `Server.enqueue`, `Server.poll`, `Server.report`;
* `Server.queue`, the tasks that wait for one kind of poll; `Server.pending`, of one type;
* `ServerError`, transient or permanent; `ServerError.message`.
-/

namespace TaskWorker

/-- Why a server refuses a call. -/
inductive ServerError where
  /-- The server does not answer for now. -/
  | transient (message : String)
  /-- The server does not want the call. -/
  | permanent (message : String)
  deriving DecidableEq, Repr

namespace ServerError

/-- The wording of an error. -/
def message : ServerError → String
  | .transient m => "transient server error: " ++ m
  | .permanent m => "server rejected request: " ++ m

/-- Whether the same call may succeed later. -/
def isRetryable : ServerError → Bool
  | .transient _ => true
  | .permanent _ => false

/-- How an attempt ends that got this answer. -/
def attempt {α : Type} : Except ServerError α → Attempt ServerError α
  | .ok a => .success a
  | .error (.transient m) => .transient (.transient m)
  | .error (.permanent m) => .permanent (.permanent m)

end ServerError

/-- A poll that the server saw. -/
structure PollRecord where
  taskType : String
  workerId : String
  domain : Option String
  deriving DecidableEq, Repr

/-- A task server. -/
structure Server where
  /-- The tasks that wait, the oldest first. -/
  waiting : List Task
  polls : List PollRecord
  reported : List TaskResult
  reportAttempts : Nat
  failPolls : Bool
  /-- How many reports are still to fail. -/
  failingReports : UInt32
  rejectReports : Bool
  deriving Inhabited

namespace Server

/-- A server that has nothing to do. -/
def new : Server := ⟨[], [], [], 0, false, 0, false⟩

/-- Whether a task is of a type and a domain. -/
def isFor (taskType : String) (domain : Option String) (task : Task) : Bool :=
  task.type == taskType && task.domain == domain

/-- The tasks that wait for polls of a type and a domain. -/
def queue (s : Server) (taskType : String) (domain : Option String) : List Task :=
  s.waiting.filter (isFor taskType domain)

/-- The number of tasks that wait under a type. -/
def pending (s : Server) (taskType : String) : Nat :=
  s.waiting.countP fun task => task.type == taskType

/-- Adds a task to its queue. -/
def enqueue (s : Server) (task : Task) : Server := { s with waiting := s.waiting ++ [task] }

/-- A task as it is handed to a worker. -/
def handOut (task : Task) (workerId : String) : Task :=
  { task with pollCount := task.pollCount + 1, workerId := some workerId }

/-- Answers a poll. -/
def poll (s : Server) (taskType workerId : String) (domain : Option String) :
    Except ServerError (Option Task) × Server :=
  let s := { s with polls := s.polls ++ [⟨taskType, workerId, domain⟩] }
  if s.failPolls then (.error (.transient "poll failed (injected)"), s)
  else
    match s.waiting.find? (isFor taskType domain) with
    | none => (.ok none, s)
    | some task =>
      (.ok (some (handOut task workerId)),
        { s with waiting := s.waiting.eraseP (isFor taskType domain) })

/-- Answers a report. -/
def report (s : Server) (result : TaskResult) : Except ServerError Unit × Server :=
  let s := { s with reportAttempts := s.reportAttempts + 1 }
  if s.rejectReports then
    (.error (.permanent ("result for task " ++ result.taskId ++ " rejected (injected)")), s)
  else if s.failingReports ≠ 0 then
    (.error (.transient "report failed (injected)"),
      { s with failingReports := s.failingReports - 1 })
  else (.ok (), { s with reported := s.reported ++ [result] })

/-- Forgets tasks, polls and results; what the server was told to do stays. -/
def clear (s : Server) : Server :=
  { s with waiting := [], polls := [], reported := [], reportAttempts := 0 }

/-- The number of polls seen for a task type. -/
def pollCountFor (s : Server) (taskType : String) : Nat :=
  s.polls.countP fun p => p.taskType == taskType

end Server

/-- Whether a server is in service, as somebody was last told. -/
structure AvailabilityFlag where
  isAvailable : Bool := true
  deriving DecidableEq, Repr, Inhabited

end TaskWorker
