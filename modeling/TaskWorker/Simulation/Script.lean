import TaskWorker.Handler
import TaskWorker.Task.Wire
/-!
# Scripted handlers

A scripted handler does with each task what its script says: an action, after some time, with lines
for the log of the result. Only handlers of their own kind can do all actions; a closure gives the
input of the task back in the place of an action that it cannot do.

* `Action`, what an execution can do; `Behaviour`, an action with its delay and its lines;
* `HandlerKind`: closures that run among other tasks or by themselves, and handlers of their own
  kind;
* `Script`, with **`Script.execute`**, the end of an execution, and `Script.delay`.
-/

namespace TaskWorker

/-- How a handler is made. -/
inductive HandlerKind where
  /-- From a closure that runs among other tasks. -/
  | async
  /-- From a closure that runs by itself. -/
  | blocking
  /-- By itself, with all freedom in its results. -/
  | custom
  deriving DecidableEq, Repr, Inhabited

/-- What an execution does in the end. -/
inductive Action where
  /-- The output is the input. -/
  | echo
  | output (j : Json)
  /-- The output is the task itself. -/
  | task
  /-- The output is the sum of the integers in the input. -/
  | sum
  | error (e : HandlerError)
  | panic (p : Panic)
  /-- The result is a task in progress. -/
  | inProgress (seconds : UInt64)
  /-- The result is a failure. -/
  | failed (reason : String)
  /-- The result is a failure for good. -/
  | failedTerminally (reason : String)
  /-- The result is a failure under another task's id. -/
  | foreign (taskId : String)
  deriving Repr, Inhabited

/-- An action, the milliseconds before it, and lines for the log of its result. -/
structure Behaviour where
  action : Action
  delay : Nat
  logs : List String
  deriving Repr, Inhabited

/-- To give the input back at once. -/
def Behaviour.echo : Behaviour := ⟨.echo, 0, []⟩

/-- A scripted handler. -/
structure Script where
  /-- The place of the handler among all scripted handlers. -/
  index : Nat
  kind : HandlerKind
  identity : Option String
  /-- What it does with each task. -/
  behaviour : Task → Behaviour

namespace Script

/-- The milliseconds that an execution takes; closures that run by themselves take none. -/
def delay (s : Script) (task : Task) : Nat :=
  match s.kind with
  | .blocking => 0
  | _ => (s.behaviour task).delay

/-- How an action ends as a closure. An action that no closure can do gives the input back. -/
def closure (task : Task) : Action → ClosureOutcome
  | .output j => .output j
  | .task => .output task.toJson
  | .sum =>
    match Payload.integers task.input with
    | .ok ns => .output (.int (Payload.sum ns))
    | .error e => .error (.ofPayload e)
  | .error e => .error e
  | .panic p => .panic p
  | _ => .output task.input

/-- A result of another id than the task's. -/
def foreignResult (task : Task) (taskId : String) : TaskResult :=
  { TaskResult.forTask task .failed with taskId }

/-- How an action of a handler of its own kind ends, before its lines are logged. -/
def custom (task : Task) (now : Moment) : Action → Outcome
  | .inProgress seconds => .returned (.inProgress task (.ofSeconds seconds))
  | .failed reason => .returned (.failed task reason now)
  | .failedTerminally reason => .returned (.failedTerminally task reason now)
  | .foreign taskId => .returned (foreignResult task taskId)
  | action =>
    match closure task action with
    | .output j => .returned (.completed task j)
    | .error e => .failed e
    | .panic p => .panicked p

/-- Adds lines to the log of a result, if there is one. -/
def logged (lines : List String) (now : Moment) : Outcome → Outcome
  | .returned r => .returned (lines.foldl (fun r line => r.log line now) r)
  | o => o

/-- **How the execution of a task ends.** -/
def execute (s : Script) (task : Task) (now : Moment) : Outcome :=
  let b := s.behaviour task
  match s.kind with
  | .async => (closure task b.action).async task
  | .blocking => (closure task b.action).blocking task
  | .custom => logged b.logs now (custom task now b.action)

end Script

end TaskWorker
