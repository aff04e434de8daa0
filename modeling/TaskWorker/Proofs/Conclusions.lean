import TaskWorker.Proofs.Balance
import TaskWorker.Proofs.Custody
import TaskWorker.Proofs.Reporting
/-!
# What the work of handlers comes to

The work of a handler ends with a result, with an error or in a panic. Whichever it is, it comes to
one result, which is signed, counted and reported. The work begins when the handler has taken the
task.

* `TaskResult.Blames`, what a result of failure says; `Concludes`, the result that an end of a
  handler's work is to come to; `Outcome.concludes`: it does;
* `Outcome.isFailure`, with `isFailure_result`: the result of a failure, and no other, fails;
* `Dispatcher.conclude_eq_execution`: what is counted of it; `Move.conclusions`,
  **`Host.Run.conclusions`**: the counts after a run are those of the work that ended in it;
* **`Host.one_result_for_each_end`**: all of it together.
-/

namespace TaskWorker

variable {α : Type}

/-! ## Results -/

/-- What a result of failure says: whose it is, that it failed, and why, once in the place of the
reason and once in the only line of the log. -/
structure TaskResult.Blames (r : TaskResult) (task : Task) (status : TaskStatus) (why : String) :
    Prop where
  taskId : r.taskId = task.id
  workflow : r.workflow = task.workflow
  status : r.status = status
  reason : r.reason = some why
  log : r.logs.map LogLine.text = [why]

/-- **The result that an end of a handler's work is to come to.** A result of the handler's own is
kept but for the worker id. -/
inductive Concludes (task : Task) (workerId : String) : Outcome → TaskResult → Prop where
  | returned (r : TaskResult) :
      Concludes task workerId (.returned r) { r with workerId := some workerId }
  | failed {e : HandlerError} {r : TaskResult} (signed : r.workerId = some workerId)
      (blames : r.Blames task (if e.terminal then .failedTerminally else .failed) e.message) :
      Concludes task workerId (.failed e) r
  | panicked {p : Panic} {r : TaskResult} (signed : r.workerId = some workerId)
      (blames : r.Blames task .failed ("handler panicked: " ++ p.message)) :
      Concludes task workerId (.panicked p) r

theorem TaskResult.blames_failure (task : Task) (status : TaskStatus) (why : String)
    (now : Moment) (workerId : String) :
    ((failure task status why now).signedBy workerId).Blames task status why :=
  ⟨rfl, rfl, rfl, rfl, rfl⟩

namespace Outcome

theorem concludes (o : Outcome) (task : Task) (workerId : String) (now : Moment) :
    Concludes task workerId o ((o.result task now).signedBy workerId) := by
  cases o with
  | returned r => exact .returned r
  | failed e =>
    refine .failed rfl ?_
    rw [result, HandlerError.result]
    split <;> exact TaskResult.blames_failure ..
  | panicked p => exact .panicked rfl (TaskResult.blames_failure ..)

/-- Whether the work of a handler failed, which it may also say in a result of its own. -/
def isFailure : Outcome → Bool
  | .returned r => r.status.isFailure
  | .failed _ | .panicked _ => true

theorem isFailure_result (o : Outcome) (task : Task) (now : Moment) :
    (o.result task now).status.isFailure = o.isFailure := by
  cases o with
  | returned r => rfl
  | failed e =>
    rw [result, HandlerError.result]
    split <;> rfl
  | panicked p => rfl

end Outcome

/-- How the work of a handler ends. -/
def Host.Event.conclusion? : Event → Option Outcome
  | .handlerDone _ outcome _ _ => some outcome
  | _ => none

/-! ## Counts -/

namespace Dispatcher

variable {d d' d₁ : Dispatcher α} {e : Host.Event}

/-- **The result of a task, and what is counted of it.** -/
theorem conclude_eq_execution (d : Dispatcher α) (task : Task) (outcome : Outcome)
    (identity : Option String) (now : Moment) :
    d.conclude task outcome identity now =
      ((outcome.result task now).signedBy (d.workerIdFor identity),
        { d with tally := d.tally.execution outcome.isFailure }) := by
  simp only [conclude, count, outcome.isFailure_result]

/-- The end of a report is counted as no other work of a handler. -/
theorem executed_of_over {result : TaskResult} {attempt : Nat} {answer : Except ServerError Unit}
    {outcome : ReportOutcome}
    (finished : d.afterReport result attempt answer = (.over outcome, d₁)) :
    d₁.tally.executed = d.tally.executed ∧ d₁.tally.failures = d.tally.failures := by
  rcases tally_of_over finished with ⟨k, same⟩ | ⟨k, same⟩ | same <;>
    exact same ▸ ⟨rfl, rfl⟩

/-- **Each end of a handler's work is counted once,** and once more if it is a failure. -/
theorem Move.conclusions (move : d.Move e d') :
    d'.tally.executed = d.tally.executed + e.conclusion?.toList.length ∧
      d'.tally.failures = d.tally.failures + e.conclusion?.toList.countP Outcome.isFailure := by
  cases move with
  | aside kind same =>
    have none : e.conclusion? = none := by cases e <;> first | rfl | cases kind
    rw [none, same.tally]
    exact ⟨rfl, rfl⟩
  | idle _ | noSlot _ _ _ | handOver _ | noTask _ | pollFailed _ | cut _ _ | pollLost _
  | pauses _ _ _ | resumes _ _ | abandoned _ _ | lost _ => exact ⟨rfl, rfl⟩
  | poll _ _ _ taken =>
    obtain ⟨_, _, _, _, rfl⟩ := acquire?_eq_some taken
    exact ⟨rfl, rfl⟩
  | @handled n since outcome identity now result x d₁ found stage concluded
  | @lostConcluding n since outcome now result x d₁ found stage concluded =>
    rw [conclude_eq_execution] at concluded
    cases concluded
    refine ⟨rfl, congrArg (d.tally.failures + ·) ?_⟩
    show outcome.isFailure.toNat = [outcome].countP Outcome.isFailure
    cases failed : outcome.isFailure <;> simp [failed]
  | @delivered n attempt since answer told result x outcome d₁ found stage finished
  | @lostTelling n attempt since answer result x outcome d₁ found stage finished undelivered =>
    have counted := executed_of_over finished
    exact counted

end Dispatcher

namespace Host

variable {h₀ h : Host α} {es : List Event} {handlers : List (Handler α)} {settings : Settings}

/-- **The counts after a run are those of the work that ended in it.** -/
theorem Run.conclusions (built : build handlers settings = .ok h₀) (run : Run h₀ es h) :
    h.dispatcher.tally.executed = (es.filterMap Event.conclusion?).length ∧
      h.dispatcher.tally.failures = (es.filterMap Event.conclusion?).countP Outcome.isFailure := by
  refine run.snocInduction (P := fun es h =>
    h.dispatcher.tally.executed = (es.filterMap Event.conclusion?).length ∧
      h.dispatcher.tally.failures =
        (es.filterMap Event.conclusion?).countP Outcome.isFailure) ?_ ?_
  · obtain ⟨hs, a, rfl, _⟩ := build_eq_ok built
    exact ⟨rfl, rfl⟩
  · intro es h h' e run ⟨executed, failures⟩ step
    have counted := (step?_move step).conclusions
    have new : [e].filterMap Event.conclusion? = e.conclusion?.toList := by
      cases conclusion : e.conclusion? <;> simp [conclusion]
    rw [List.filterMap_append, new, List.length_append, List.countP_append, ← executed, ← failures]
    exact counted

/-- **Each end of a handler's work comes to one result.** The task has one, whatever the end is; it
is the handler's own, or says what was wrong, and it is signed and counted, as a failure exactly if
it is one. An execution whose handler is done can always go on to report it. No handler is done
twice with a task, and nothing else is counted. A handler that panics in the call that hands it the
task has not begun to work: that is `Event.executionPanics`, and comes to no result. -/
theorem one_result_for_each_end (built : build handlers settings = .ok h₀) (run : Run h₀ es h) :
    (∀ task outcome identity now, ∃ r : TaskResult,
      h.dispatcher.conclude task outcome identity now =
        (r, { h.dispatcher with
          tally := { h.dispatcher.tally with
            executed := h.dispatcher.tally.executed + 1
            failures := h.dispatcher.tally.failures + if r.status.isFailure then 1 else 0 } }) ∧
      Concludes task (h.dispatcher.workerIdFor identity) outcome r) ∧
    (∀ n x since, h.dispatcher.execution? n = some x → x.phase = .handling since →
      ∀ outcome identity now,
        h.step? (.handlerDone n outcome (.returned identity) now) =
          let (r, d) := h.dispatcher.conclude x.task outcome identity now
          some { h with dispatcher := d.beginReport n r }) ∧
    (es.filterMap Event.finishes?).Nodup ∧
    h.dispatcher.tally.executed = (es.filterMap Event.conclusion?).length ∧
    h.dispatcher.tally.failures =
      (es.filterMap Event.conclusion?).countP Outcome.isFailure := by
  refine ⟨fun task outcome identity now => ?_, fun n x since found stage outcome identity now => ?_,
    (run.finished built).nodup, run.conclusions built⟩
  · refine ⟨_, ?_, outcome.concludes task (h.dispatcher.workerIdFor identity) now⟩
    have failure : ((outcome.result task now).signedBy (h.dispatcher.workerIdFor identity)).status =
        (outcome.result task now).status := rfl
    rw [Dispatcher.conclude_eq_execution, failure, outcome.isFailure_result]
    cases outcome.isFailure <;> rfl
  · have number : x.number = n := Dispatcher.number_of_found found
    simp only [step?, found, stage, Dispatcher.handlerDone_returned, number]

/-- The handler of the sample panics: the task fails, and that is reported and counted. -/
example :
    (sampleBusy.step? (.handlerDone 1 (.panicked (.literal "kaboom")) (.returned none) .epoch)).map
      (fun h => (h.dispatcher.journal.length, h.dispatcher.tally.executed,
        h.dispatcher.tally.failures)) =
    some (sampleBusy.dispatcher.journal.length + 1, 1, 1) := by
  decide

end Host

end TaskWorker
