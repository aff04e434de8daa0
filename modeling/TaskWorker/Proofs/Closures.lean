import Mathlib.Data.List.Forall2
import TaskWorker.Proofs.Conclusions
import TaskWorker.Proofs.Lanes
/-!
# The two kinds of closures

A closure may run among other tasks or on a thread of its own. A panic is then caught in different
places, as the panic of the execution or as an error of the thread that is joined. What comes of it
is the same: it does not matter to a host of which kind its closures are, but for the times in the
logs of results.

* `Outcome.plain`, an end of work with panics seen as errors; `ClosureOutcome.Ends`, with `plain_eq`:
  both kinds end alike; `ClosureOutcome.exists_thread`: so does a thread that is not given up;
* `Dispatcher.untimed`, `Host.untimed`, a state without the times of logs; `Host.Event.plain`;
* **`Host.step?_untimed`**, `Host.replay_untimed`: what is forgotten has no effect on what remains;
* **`Host.closure_kinds_agree`**: one kind of closure may stand for the other.
-/

namespace TaskWorker

open Dispatcher (Callback AfterReport)

variable {α : Type}

/-! ## Ends of work -/

/-- The end of a handler's work without log times, and with a panic seen as an error. -/
def Outcome.plain : Outcome → Outcome
  | .returned r => .returned r.untimed
  | .failed e => .failed e
  | .panicked p => .failed (.retryable p.reason)

theorem Outcome.result_plain (o : Outcome) (task : Task) (now : Moment) :
    o.plain.result task .epoch = (o.result task now).untimed := by
  cases o with
  | returned r => rfl
  | failed e =>
    simp only [plain, result, HandlerError.result]
    split <;> rfl
  | panicked p => rfl

namespace ClosureOutcome

/-- How an execution may end whose closure ended so, of whichever kind that is. -/
inductive Ends (c : ClosureOutcome) (task : Task) : Outcome → Prop where
  | async : Ends c task (c.async task)
  | blocking : Ends c task (c.blocking task)

variable {c : ClosureOutcome} {task : Task} {o o' : Outcome}

/-- **Both kinds of closures end alike,** though one panics where the other fails. -/
theorem Ends.plain_eq (ends : c.Ends task o) (ends' : c.Ends task o') : o.plain = o'.plain := by
  have same : (c.async task).plain = (c.blocking task).plain := by cases c <;> rfl
  cases ends <;> cases ends' <;> first | rfl | exact same | exact same.symm

/-- A thread ends as some closure does, unless it is given up. -/
theorem exists_thread (joined : Except JoinError (Except HandlerError Json)) :
    joined ≠ .error .cancelled ↔ ∃ c : ClosureOutcome, c.thread = joined := by
  constructor
  · intro kept
    rcases joined with (p | _) | e | j
    · exact ⟨.panic p, rfl⟩
    · exact absurd rfl kept
    · exact ⟨.error e, rfl⟩
    · exact ⟨.output j, rfl⟩
  · rintro ⟨c, rfl⟩
    cases c <;> nofun

end ClosureOutcome

/-! ## States without log times -/

def Entry.untimed : Entry → Entry
  | .sent time attempt result => .sent time attempt result.untimed
  | .undelivered time result => .undelivered time result.untimed
  | entry => entry

def Execution.untimed (x : Execution α) : Execution α := { x with phase := x.phase.untimed }

theorem Execution.phase_untimed (x : Execution α) : x.untimed.phase = x.phase.untimed := rfl

@[simp]
theorem Phase.isHandling_untimed (phase : Phase) : phase.untimed.isHandling = phase.isHandling := by
  cases phase <;> rfl

def Dispatcher.AfterReport.untimed : AfterReport → AfterReport
  | .goOn phase => .goOn phase.untimed
  | .over outcome => .over outcome

namespace Dispatcher

/-- A dispatcher without the times in the logs of its results. -/
def untimed (d : Dispatcher α) : Dispatcher α :=
  { d with
    executions := d.executions.map Execution.untimed
    journal := d.journal.map Entry.untimed }

variable (d : Dispatcher α)

theorem execution?_untimed (n : Nat) :
    d.untimed.execution? n = (d.execution? n).map Execution.untimed := by
  simp only [execution?, untimed, List.find?_map]
  rfl

theorem setPhase_untimed (n : Nat) (phase : Phase) :
    d.untimed.setPhase n phase.untimed = (d.setPhase n phase).untimed := by
  simp only [setPhase, untimed, List.map_map, Dispatcher.mk.injEq, true_and, and_true]
  refine List.map_congr_left fun x _ => ?_
  by_cases here : x.number = n
  · simp [Execution.untimed, here]
  · simp [Execution.untimed, here]

theorem closeExecution_untimed (x : Execution α) (fate : Fate) :
    d.untimed.closeExecution x.untimed fate = (d.closeExecution x fate).untimed := by
  simp only [closeExecution, untimed, List.filter_map]
  rfl

theorem endExecution_untimed (x : Execution α) (fate : Fate) :
    d.untimed.endExecution x.untimed fate = (d.endExecution x fate).untimed := by
  simp only [endExecution, closeExecution_untimed]
  rfl

theorem conclude_untimed (task : Task) (outcome : Outcome) (identity : Option String)
    (now : Moment) :
    d.untimed.conclude task outcome.plain identity .epoch =
      (d.conclude task outcome identity now).map TaskResult.untimed untimed := by
  simp only [conclude, outcome.result_plain task now]
  rfl

theorem handlerDone_untimed (x : Execution α) (outcome : Outcome)
    (identity : Callback (Option String)) (now : Moment) :
    d.untimed.handlerDone x.untimed outcome.plain identity .epoch =
      (d.handlerDone x outcome identity now).untimed := by
  cases identity with
  | returned identity =>
    have concluded := d.conclude_untimed x.task outcome identity now
    simp only [handlerDone, Execution.untimed, concluded, Prod.map]
    rcases d.conclude x.task outcome identity now with ⟨r, d⟩
    exact setPhase_untimed (d.note (.sent d.now 1 r)) x.number (.reporting r 1 d.now)
  | panicked =>
    have concluded := d.conclude_untimed x.task outcome none now
    simp only [handlerDone, loseExecution, ← closeExecution_untimed]
    simp only [Execution.untimed, concluded, Prod.map]

theorem afterReport_untimed (result : TaskResult) (attempt : Nat)
    (answer : Except ServerError Unit) :
    d.untimed.afterReport result.untimed attempt answer =
      (d.afterReport result attempt answer).map AfterReport.untimed untimed := by
  simp only [afterReport, untimed]
  split
  · rfl
  · rfl
  · split_ifs <;> rfl

theorem reportAnswered_untimed (x : Execution α) (result : TaskResult) (attempt : Nat)
    (answer : Except ServerError Unit) (told : Callback Unit) :
    d.untimed.reportAnswered x.untimed result.untimed attempt answer told =
      (d.reportAnswered x result attempt answer told).untimed := by
  simp only [reportAnswered, afterReport_untimed]
  rcases d.afterReport result attempt answer with ⟨phase | outcome, d⟩
  · exact d.setPhase_untimed x.number phase
  · simp only [Prod.map, AfterReport.untimed]
    split
    · exact d.closeExecution_untimed x .lost
    · exact d.endExecution_untimed x (.delivered outcome)

theorem pauseDone_untimed (x : Execution α) (result : TaskResult) (attempt : Nat) :
    d.untimed.pauseDone x.untimed result.untimed attempt =
      (d.pauseDone x result attempt).untimed :=
  setPhase_untimed (d.note (.sent d.now attempt result)) x.number (.reporting result attempt d.now)

theorem acquire?_untimed (taskType : String) :
    d.untimed.acquire? taskType = (d.acquire? taskType).map untimed := by
  simp only [acquire?, untimed]
  split
  · rfl
  · split <;> rfl

theorem beginTick_untimed (g : Handler α) (paused : Bool) (identity : Option String) :
    d.untimed.beginTick g paused identity = (d.beginTick g paused identity).map id untimed := by
  have same : d.untimed.stopping = d.stopping ∧ d.untimed.isAvailable = d.isAvailable := ⟨rfl, rfl⟩
  simp only [beginTick, acquire?_untimed, same]
  split_ifs
  · rfl
  · rfl
  · rfl
  · cases d.acquire? g.taskType <;> rfl

theorem answerPoll_untimed (tick : Tick α) (answer : Except ServerError (Option Task)) :
    d.untimed.answerPoll tick answer = (d.answerPoll tick answer).map id untimed := by
  rcases answer with error | task | task
  · rfl
  · rfl
  · simp only [answerPoll, dispatch, dropTick, untimed, Prod.map, List.map_append]
    rfl

end Dispatcher

/-! ## Runs without log times -/

namespace Host

/-- An event without log times, and with a panic of a handler seen as an error. -/
def Event.plain : Event → Event
  | .handlerDone n outcome identity _ => .handlerDone n outcome.plain identity .epoch
  | e => e

/-- A host without the times in the logs of its results. -/
def untimed (h : Host α) : Host α := { h with dispatcher := h.dispatcher.untimed }

variable {h₀ h : Host α} {es fs : List Event} {e f : Event}

theorem isQuiet_untimed (h : Host α) : h.untimed.isQuiet = h.isQuiet := by
  simp only [isQuiet, untimed, Dispatcher.untimed, List.isEmpty_map]

theorem init_untimed (h : Host α) (inRuntime : Bool) :
    (h.untimed.init inRuntime).2 = (h.init inRuntime).2.untimed := by
  have same : h.untimed.status = h.status := rfl
  simp only [init, same]
  split_ifs
  · rfl
  · cases h.status <;> rfl

theorem loopTick_untimed (h : Host α) (l : PollLoop α) (paused : Bool) (identity : Option String) :
    h.untimed.loopTick l paused identity = (h.loopTick l paused identity).untimed := by
  simp only [loopTick, untimed, Dispatcher.beginTick_untimed]
  rcases h.dispatcher.beginTick l.handler paused identity with ⟨outcome | id, d⟩ <;> rfl

theorem answerPoll_untimed (h : Host α) (tick : Tick α)
    (answer : Except ServerError (Option Task)) :
    (h.untimed.answerPoll tick answer).2 = (h.answerPoll tick answer).2.untimed := by
  simp only [answerPoll, untimed, Dispatcher.answerPoll_untimed]
  rfl

theorem beginShutdown_untimed (h : Host α) : h.untimed.beginShutdown = h.beginShutdown.untimed := by
  have same : h.untimed.status = h.status := rfl
  simp only [beginShutdown, same]
  cases h.status <;> rfl

theorem giveUpShutdown_untimed (h : Host α) :
    h.untimed.giveUpShutdown = h.giveUpShutdown.untimed := by
  have same : h.untimed.drain = h.drain := rfl
  simp only [giveUpShutdown, same]
  cases h.drain <;> rfl

/-- **What is forgotten has no effect on what remains.** -/
theorem step?_untimed (h : Host α) (e : Event) :
    h.untimed.step? e.plain = (h.step? e).map untimed := by
  -- what the guards of events look at
  have gone : h.untimed.gone = h.gone := rfl
  have drain : h.untimed.drain = h.drain := rfl
  have now : h.untimed.now = h.now := rfl
  have asleep : ∀ t, h.untimed.sleeper? t = h.sleeper? t := fun _ => rfl
  have stopping : h.untimed.dispatcher.stopping = h.dispatcher.stopping := rfl
  have forced : h.untimed.dispatcher.forced = h.dispatcher.forced := rfl
  have tick : ∀ id, h.untimed.dispatcher.tick? id = h.dispatcher.tick? id := fun _ => rfl
  have execution : ∀ n, h.untimed.dispatcher.execution? n =
      (h.dispatcher.execution? n).map Execution.untimed := h.dispatcher.execution?_untimed
  let put (d : Dispatcher α) : Host α := { h with dispatcher := d }
  cases e with
  | elapse _ => rfl
  | gate _ => rfl
  | init inRuntime =>
    simp only [Event.plain, step?, gone, init_untimed]
    split_ifs <;> rfl
  | shutdown =>
    simp only [Event.plain, step?, gone, beginShutdown_untimed]
    split_ifs <;> rfl
  | drained =>
    simp only [Event.plain, step?, drain, isQuiet_untimed]
    split
    · split_ifs <;> rfl
    · rfl
  | graceOver =>
    simp only [Event.plain, step?, drain, isQuiet_untimed, now]
    split
    · split_ifs <;> rfl
    · rfl
  | shutdownGivenUp =>
    simp only [Event.plain, step?, drain, giveUpShutdown_untimed]
    split <;> rfl
  | dropped =>
    simp only [Event.plain, step?, drain]
    split <;> rfl
  | loopStops t =>
    simp only [Event.plain, step?, asleep, stopping]
    split
    · split_ifs <;> rfl
    · rfl
  | loopTicks t paused identity =>
    simp only [Event.plain, step?, asleep, now, loopTick_untimed]
    split
    · split_ifs <;> rfl
    · rfl
  | loopPanics t =>
    simp only [Event.plain, step?, asleep, now]
    split
    · split_ifs <;> rfl
    · rfl
  | pollAnswered id answer =>
    simp only [Event.plain, step?, tick, answerPoll_untimed, Option.map_map]
    rfl
  | pollCut id =>
    simp only [Event.plain, step?, tick, forced]
    split
    · split_ifs <;> rfl
    · rfl
  | pollPanics id =>
    simp only [Event.plain, step?, tick, Option.map_map]
    rfl
  | handlerDone n outcome identity now =>
    simp only [Event.plain, step?, execution]
    rcases h.dispatcher.execution? n with _ | x
    · rfl
    · simp only [Option.map_some, Execution.phase_untimed]
      cases x.phase with
      | handling since =>
        exact congrArg (some <| put ·) (h.dispatcher.handlerDone_untimed x outcome identity now)
      | reporting _ _ _ | pausing _ _ _ => rfl
  | reportAnswered n answer told =>
    simp only [Event.plain, step?, execution]
    rcases h.dispatcher.execution? n with _ | x
    · rfl
    · simp only [Option.map_some, Execution.phase_untimed]
      cases x.phase with
      | reporting result attempt since =>
        exact congrArg (some <| put ·)
          (h.dispatcher.reportAnswered_untimed x result attempt answer told)
      | handling _ | pausing _ _ _ => rfl
  | pauseDone n =>
    simp only [Event.plain, step?, execution, now]
    rcases h.dispatcher.execution? n with _ | x
    · rfl
    · simp only [Option.map_some, Execution.phase_untimed]
      cases x.phase with
      | pausing result attempt due =>
        simp only [Phase.untimed]
        split_ifs
        · exact congrArg (some <| put ·) (h.dispatcher.pauseDone_untimed x result attempt)
        · rfl
      | handling _ | reporting _ _ _ => rfl
  | abandoned n =>
    simp only [Event.plain, step?, execution, forced]
    rcases h.dispatcher.execution? n with _ | x
    · rfl
    · simp only [Option.map_some, Execution.phase_untimed, Phase.isHandling_untimed]
      split_ifs
      · exact congrArg (some <| put ·) (h.dispatcher.endExecution_untimed x _)
      · rfl
  | executionPanics n =>
    simp only [Event.plain, step?, execution, Option.map_map]
    exact congrArg (Option.map · _)
      (funext fun x => congrArg put (h.dispatcher.closeExecution_untimed x .lost))

theorem replay_untimed (h : Host α) (es : List Event) :
    h.untimed.replay (es.map Event.plain) = (h.replay es).map untimed := by
  induction es generalizing h with
  | nil => rfl
  | cons e es ih =>
    simp only [List.map_cons, replay, step?_untimed]
    cases h.step? e with
    | none => rfl
    | some h' => exact ih h'

/-- Two events that are the same, or the ends of two closures that end alike, whichever their kinds
and the times in their logs. -/
inductive Event.SameButKind : Event → Event → Prop where
  | same (e : Event) : SameButKind e e
  | ends {c : ClosureOutcome} {task : Task} {o o' : Outcome} (n : Nat) (first : c.Ends task o)
      (second : c.Ends task o') (identity : Callback (Option String)) (now now' : Moment) :
      SameButKind (.handlerDone n o identity now) (.handlerDone n o' identity now')

theorem Event.SameButKind.plain_eq (kind : e.SameButKind f) : e.plain = f.plain := by
  cases kind with
  | same _ => rfl
  | ends n first second identity now now' => simp only [Event.plain, first.plain_eq second]

theorem map_plain_eq (kinds : List.Forall₂ Event.SameButKind es fs) :
    es.map Event.plain = fs.map Event.plain := by
  induction kinds with
  | nil => rfl
  | cons kind _ ih => rw [List.map_cons, List.map_cons, kind.plain_eq, ih]

/-- **One kind of closure may stand for the other,** as long as no thread is given up. Whatever a
closure ends with comes to the same result, log times apart, and the same counts; in a run, whenever
that is and whatever has happened since the closure began, all goes on as it did. -/
theorem closure_kinds_agree (run : Run h₀ es h) (kinds : List.Forall₂ Event.SameButKind es fs) :
    (∀ joined, joined ≠ .error .cancelled ↔ ∃ c : ClosureOutcome, c.thread = joined) ∧
    (∀ (c : ClosureOutcome) (task : Task) (identity : Option String) (now now' : Moment),
      let (r, d) := h.dispatcher.conclude task (c.async task) identity now
      let (r', d') := h.dispatcher.conclude task (c.blocking task) identity now'
      r'.untimed = r.untimed ∧ d' = d) ∧
    ∃ g, Run h₀ fs g ∧ g.untimed = h.untimed ∧ g.dispatcher.tally = h.dispatcher.tally := by
  refine ⟨ClosureOutcome.exists_thread, fun c task identity now now' => ?_, ?_⟩
  · have plain : (c.async task).plain = (c.blocking task).plain :=
      ClosureOutcome.Ends.async.plain_eq .blocking
    have failure : (c.async task).isFailure = (c.blocking task).isFailure := by cases c <;> rfl
    simp only [Dispatcher.conclude_eq_execution, TaskResult.untimed_signedBy,
      ← Outcome.result_plain, plain, failure, and_self]
  · -- Without log times, both sequences of events are the same one, and it has been replayed.
    have forgotten := h₀.replay_untimed es
    rw [map_plain_eq kinds, replay_untimed, run_iff_replay.mp run] at forgotten
    obtain ⟨g, replayed, same⟩ := Option.map_eq_some_iff.mp forgotten
    exact ⟨g, run_iff_replay.mpr replayed, same, congrArg (fun h => h.dispatcher.tally) same⟩

/-- The closure of the sample panics; on a thread of its own, it is reported and counted so too. -/
theorem sample_closure_kinds_agree :
    let panic : ClosureOutcome := .panic (.literal "kaboom")
    let later : Moment := { Moment.epoch with second := 1, valid := by decide }
    ∃ g, Run sample (sampleWork.take 4 ++
          [.handlerDone 1 (panic.blocking sampleTask) (.returned none) later]) g ∧
      g.untimed.dispatcher.journal.head? = some (.sent 1000 1
        ((TaskResult.failed sampleTask "handler panicked: kaboom" .epoch).signedBy "worker-0")) ∧
      g.dispatcher.tally.executed = 1 ∧ g.dispatcher.tally.failures = 1 := by
  intro panic later
  have run : Run sample
      (sampleWork.take 4 ++ [.handlerDone 1 (panic.async sampleTask) (.returned none) .epoch]) _ :=
    run_get (by decide)
  have kinds : List.Forall₂ Event.SameButKind
      (sampleWork.take 4 ++ [.handlerDone 1 (panic.async sampleTask) (.returned none) .epoch])
      (sampleWork.take 4 ++ [.handlerDone 1 (panic.blocking sampleTask) (.returned none) later]) :=
    .cons (.same _) <| .cons (.same _) <| .cons (.same _) <| .cons (.same _) <|
      .cons (.ends 1 .async .blocking _ _ _) .nil
  obtain ⟨-, -, g, run', same, tally⟩ := closure_kinds_agree run kinds
  exact ⟨g, run', same ▸ rfl, tally ▸ rfl, tally ▸ rfl⟩

end Host

end TaskWorker
