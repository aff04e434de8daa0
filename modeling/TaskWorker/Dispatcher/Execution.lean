import TaskWorker.Dispatcher.Basic
/-!
# Executions

An execution hands its task to the handler, then sends the result to the server until the server
takes it, refuses it, or the attempts are used up. However it ends, its slot comes back.

* `Dispatcher.conclude`, the result of a task and its count;
* `Dispatcher.afterReport`, what follows the server's answer to a report;
* `Dispatcher.handlerDone`, `Dispatcher.reportAnswered`, `Dispatcher.pauseDone`, the steps of an
  execution;
* `Dispatcher.endExecution`, its regular end, `Dispatcher.loseExecution`, its end in a panic.
-/

namespace TaskWorker.Dispatcher

variable {α : Type}

/-- How a call of a handler's callback comes back. -/
inductive Callback (β : Type) where
  | returned (b : β)
  | panicked
  deriving Repr

/-- The result of a task, which is signed with the handler's worker id and counted. -/
def conclude (d : Dispatcher α) (task : Task) (outcome : Outcome) (identity : Option String)
    (now : Moment) : TaskResult × Dispatcher α :=
  let r := outcome.result task now
  (r.signedBy (d.workerIdFor identity), d.count (·.execution r.status.isFailure))

/-- What follows the server's answer to a report: another phase, or the end of the report. -/
inductive AfterReport where
  | goOn (phase : Phase)
  | over (outcome : ReportOutcome)
  deriving Repr

/-- What follows the answer to the `attempt`-th report of a result. -/
def afterReport (d : Dispatcher α) (result : TaskResult) (attempt : Nat)
    (answer : Except ServerError Unit) : AfterReport × Dispatcher α :=
  let policy := d.settings.retryPolicy
  match policy.afterAttempt attempt (ServerError.attempt answer) with
  | .succeeded () n => (.over (.reported n), d.count (·.success n))
  | .again n => (.goOn (.pausing result n (d.now + (policy.pauseBefore n).ticks)), d)
  | .gaveUp f =>
    if f.exhausted then
      (.over (.dropped f.attempts),
        (d.count (·.drop f.attempts)).note (.undelivered d.now result))
    else (.over .rejected, (d.count .rejection).note (.undelivered d.now result))

/-- The phase of an execution whose report has just been sent. -/
def sendReport (d : Dispatcher α) (result : TaskResult) (attempt : Nat) : Phase × Dispatcher α :=
  (.reporting result attempt d.now, d.note (.sent d.now attempt result))

/-- The execution of a number. -/
def execution? (d : Dispatcher α) (n : Nat) : Option (Execution α) :=
  d.executions.find? fun e => e.number = n

/-- Puts an execution into another phase. -/
def setPhase (d : Dispatcher α) (n : Nat) (phase : Phase) : Dispatcher α :=
  { d with executions := d.executions.map fun e => if e.number = n then { e with phase } else e }

/-- Ends an execution, which gives its slot back. -/
def closeExecution (d : Dispatcher α) (e : Execution α) (fate : Fate) : Dispatcher α :=
  let d := { d with executions := d.executions.filter fun x => x.number ≠ e.number }
  (d.release e.handler.taskType).note (.ended e.number fate)

/-- Ends an execution that is then counted no more. -/
def endExecution (d : Dispatcher α) (e : Execution α) (fate : Fate) : Dispatcher α :=
  let d := d.closeExecution e fate
  { d with running := d.running - 1 }

/-- Ends an execution in a panic, which leaves it in the count of those under way. -/
def loseExecution (d : Dispatcher α) (e : Execution α) : Dispatcher α := d.closeExecution e .lost

/-- The handler of an execution is done; then the handler says what its identity is. -/
def handlerDone (d : Dispatcher α) (e : Execution α) (outcome : Outcome)
    (identity : Callback (Option String)) (now : Moment) : Dispatcher α :=
  match identity with
  | .panicked => (d.conclude e.task outcome none now).2.loseExecution e
  | .returned identity =>
    let (result, d) := d.conclude e.task outcome identity now
    let (phase, d) := d.sendReport result 1
    d.setPhase e.number phase

/-- The server answered a report of an execution; `told` is how the handler takes the news of a
result that could not be delivered. -/
def reportAnswered (d : Dispatcher α) (e : Execution α) (result : TaskResult) (attempt : Nat)
    (answer : Except ServerError Unit) (told : Callback Unit) : Dispatcher α :=
  match d.afterReport result attempt answer with
  | (.goOn phase, d) => d.setPhase e.number phase
  | (.over outcome, d) =>
    match outcome.isUndelivered, told with
    | true, .panicked => d.loseExecution e
    | _, _ => d.endExecution e (.delivered outcome)

/-- The pause before another report of an execution is over. -/
def pauseDone (d : Dispatcher α) (e : Execution α) (result : TaskResult) (attempt : Nat) :
    Dispatcher α :=
  let (phase, d) := d.sendReport result attempt
  d.setPhase e.number phase

end TaskWorker.Dispatcher
