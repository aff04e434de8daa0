import TaskWorker.Host.Event
import TaskWorker.Simulation.Script
/-!
# Simulated worlds

A simulated world is a host of scripted handlers, a server in memory, and a clock. Nothing takes
time but the pauses and intervals of the host, what the scripts say, and the way to the server. The
world goes from one moment at which something is due to the next, and at each of them it does all
there is to do.

* `World`, with `Receipt`, what the server made of a report, and `Errand`, work done by hand;
* `World.act?`, one thing that is to be done now; `World.nextDue?`, when something is due later;
* `step?_of_happen`: what happens to the host is an event of its runs;
* **`World.runBefore`**, the course of things up to a moment; `World.settle`, all that is to be done
  at the present moment.
-/

namespace TaskWorker

open Dispatcher (AfterReport)

/-- A report as the server saw it. -/
structure Receipt where
  time : Nat
  result : TaskResult
  answer : Except ServerError Unit

/-- Work that is done by hand, outside the loops and the executions. -/
inductive Errand where
  | none
  /-- A task is with a handler since then. -/
  | execution (handler : Handler Script) (task : Task) (since : Nat)
  /-- A result is being reported. -/
  | report (phase : Phase)
  | executed (result : TaskResult)
  | delivered (outcome : ReportOutcome)

/-- A shutdown that runs while other things are done. -/
inductive Background where
  | none
  /-- It waits for what is under way. -/
  | draining
  /-- It had nothing to wait for. -/
  | refused (outcome : ShutdownOutcome)
  deriving DecidableEq, Repr

/-- A host of scripted handlers with its server. -/
structure World where
  /-- The scripted handlers, whether the host has them or not. -/
  handlers : List (Handler Script)
  host : Host Script
  server : Server
  /-- The milliseconds before the server sees a poll. -/
  pollDelay : Nat
  /-- The milliseconds before the server sees a report. -/
  reportDelay : Nat
  /-- Whether the handlers are paused. -/
  paused : List Bool
  receipts : List Receipt
  /-- How the polls of the ticks came out, by the ids of the ticks. -/
  outcomes : List (Nat × TickOutcome)
  errand : Errand
  background : Background
  /-- The one who built the host has let go of it. -/
  gone : Bool

namespace World

/-- A world at time 0. -/
def start (handlers : List (Handler Script)) (host : Host Script) (pollDelay reportDelay : Nat)
    (paused : List Bool) : World :=
  { handlers, host, server := .new, pollDelay, reportDelay, paused
    receipts := [], outcomes := [], errand := .none, background := .none, gone := false }

/-- The time of the world's clock, in milliseconds. -/
def now (w : World) : Nat := w.host.now

/-- The time stamp of what is logged; the clock of log lines stands still. -/
def stamp : Moment := .epoch

/-- Whether a handler is paused. -/
def isPaused (w : World) (h : Handler Script) : Bool := (w.paused[h.logic.index]?).getD false

/-- The number of tasks that are with their handlers. -/
def executing (w : World) : Nat :=
  w.host.dispatcher.executions.countP fun e => e.phase.isHandling

/-! ## What is to be done -/

/-- When a phase of a task's way through a handler ends. -/
def phaseDue (w : World) (h : Handler Script) (task : Task) : Phase → Nat
  | .handling since => since + h.logic.delay task
  | .reporting _ _ since => since + w.reportDelay
  | .pausing _ _ due => due

/-- When the present phase of an execution ends. -/
def executionDue (w : World) (e : Execution Script) : Nat := w.phaseDue e.handler e.task e.phase

/-- When the server sees the poll of a tick. -/
def tickDue (w : World) (t : Tick Script) : Nat := t.since + w.pollDelay

/-- When work by hand goes on. -/
def errandDue? (w : World) : Option Nat :=
  match w.errand with
  | .execution h task since => some (since + h.logic.delay task)
  | .report (.reporting _ _ since) => some (since + w.reportDelay)
  | .report (.pausing _ _ due) => some due
  | _ => none

/-- All moments at which something is due. -/
def dues (w : World) : List Nat :=
  w.host.dispatcher.executions.map w.executionDue ++
    w.host.dispatcher.ticks.map w.tickDue ++
    (w.host.loops.filterMap fun l =>
      match l.state with
      | .sleeping due => some due
      | _ => none) ++
    w.errandDue?.toList ++
    (match w.host.drain with
    | .waiting deadline => [deadline]
    | _ => [])

/-- The next moment after the present one at which something is due. -/
def nextDue? (w : World) : Option Nat := (w.dues.filter fun t => w.now < t).min?

/-- Something happens to the host. -/
def happen (w : World) (e : Host.Event) : Option World :=
  (w.host.step? e).map fun host => { w with host }

/-- **What happens to the host is an event of its runs.** -/
theorem step?_of_happen {w w' : World} {e : Host.Event} (h : w.happen e = some w') :
    w.host.step? e = some w'.host := by
  obtain ⟨host, hs, rfl⟩ := Option.map_eq_some_iff.mp h
  exact hs

/-- The server gets a report. -/
def receive (w : World) (result : TaskResult) : Except ServerError Unit × World :=
  let (answer, server) := w.server.report result
  (answer, { w with server, receipts := w.receipts ++ [⟨w.now, result, answer⟩] })

/-- An execution goes into its next phase. -/
def proceed (w : World) (e : Execution Script) : Option World :=
  match e.phase with
  | .handling _ =>
    w.happen (.handlerDone e.number (e.handler.logic.execute e.task stamp)
      (.returned e.handler.logic.identity) stamp)
  | .reporting result _ _ =>
    let (answer, w) := w.receive result
    w.happen (.reportAnswered e.number answer (.returned ()))
  | .pausing _ _ _ => w.happen (.pauseDone e.number)

/-- The server sees the poll of a tick. -/
def answer (w : World) (t : Tick Script) : Option World :=
  let (answer, server) := w.server.poll t.handler.taskType t.workerId t.domain
  let outcome := (w.host.answerPoll t answer).1
  { w with server, outcomes := (t.id, outcome) :: w.outcomes }.happen (.pollAnswered t.id answer)

/-- The poll of a tick is given up. -/
def cut (w : World) (t : Tick Script) : Option World :=
  { w with outcomes := (t.id, (w.host.cutPoll t).1) :: w.outcomes }.happen (.pollCut t.id)

/-- Work by hand goes on, if it is time. -/
def runErrand? (w : World) : Option World :=
  if w.errandDue?.all fun due => w.now < due then none
  else
    let d := w.host.dispatcher
    match w.errand with
    | .execution h task _ =>
      let (result, d) := d.conclude task (h.logic.execute task stamp) h.logic.identity stamp
      some { w with host := { w.host with dispatcher := d }, errand := .executed result }
    | .report (.reporting result attempt _) =>
      let (answer, w) := w.receive result
      match d.afterReport result attempt answer with
      | (.goOn phase, d) =>
        some { w with host := { w.host with dispatcher := d }, errand := .report phase }
      | (.over outcome, d) =>
        some { w with host := { w.host with dispatcher := d }, errand := .delivered outcome }
    | .report (.pausing result attempt _) =>
      let (phase, d) := d.sendReport result attempt
      some { w with host := { w.host with dispatcher := d }, errand := .report phase }
    | _ => none

/-- What a shutdown that was forced does away with. -/
def abandon? (w : World) : Option World :=
  match w.host.dispatcher.executions, w.host.dispatcher.ticks with
  | e :: _, _ => w.happen (.abandoned e.number)
  | [], t :: _ => w.cut t
  | [], [] => none

/-- The first sleeping loop for which `p` holds of its due time. -/
def sleeper? (w : World) (p : Nat → Bool) : Option (PollLoop Script) :=
  w.host.loops.find? fun l =>
    match l.state with
    | .sleeping due => p due
    | _ => false

/-- A loop that is to stop. -/
def stopLoop? (w : World) : Option World :=
  if !w.host.dispatcher.stopping then none
  else (w.sleeper? fun _ => true).bind fun l => w.happen (.loopStops l.handler.taskType)

/-- The end of a shutdown's wait. -/
def endDrain? (w : World) : Option World := (w.happen .drained).or (w.happen .graceOver)

/-- An execution whose phase is over. -/
def runExecution? (w : World) : Option World :=
  (w.host.dispatcher.executions.find? fun e => w.executionDue e ≤ w.now).bind w.proceed

/-- A poll that has reached the server. -/
def runTick? (w : World) : Option World :=
  (w.host.dispatcher.ticks.find? fun t => w.tickDue t ≤ w.now).bind w.answer

/-- A loop that has slept long enough. -/
def runLoop? (w : World) : Option World :=
  (w.sleeper? fun due => due ≤ w.now).bind fun l =>
    w.happen (.loopTicks l.handler.taskType (w.isPaused l.handler) l.handler.logic.identity)

/-- The host goes, once nobody has it. -/
def release? (w : World) : Option World :=
  if w.gone && !w.host.gone then w.happen .dropped else none

/-- What is left after a forced shutdown is abandoned. An execution whose phase is over at that very
time might as well go on first: which of the two comes first is open in runs, and a world abandons
it. -/
def runOut? (w : World) : Option World :=
  if w.host.dispatcher.forced then w.abandon? else none

/-- One thing that is to be done now, if there is any. -/
def act? (w : World) : Option World :=
  w.runOut? <|> w.stopLoop? <|> w.endDrain? <|> w.runExecution? <|> w.runTick? <|> w.runLoop? <|>
    w.runErrand? <|> w.release?

/-! ## The course of things -/

/-- Sets the clock. -/
def moveTo (w : World) (t : Nat) : World := (w.happen (.elapse (t - w.now))).getD w

/-- More than the number of things that can happen in a span of time. -/
def budget (w : World) (span : Nat) : Nat :=
  8 * ((w.host.loops.length + 1) * (span + 2) + w.host.dispatcher.ticks.length +
    w.host.dispatcher.executions.length + w.server.failingReports.toNat + 2)

/-- Does what is to be done now. -/
def settleFor : Nat → World → World
  | 0, w => w
  | n + 1, w =>
    match w.act? with
    | some w => settleFor n w
    | none => w

/-- All that is to be done now. -/
def settle (w : World) : World := settleFor (w.budget 0) w

/-- Lets things take their course until a moment comes or `done` holds. -/
def runFor (done : World → Bool) (limit : Nat) : Nat → World → World
  | 0, w => w
  | n + 1, w =>
    if done w || limit ≤ w.now then w
    else
      match w.act? with
      | some w => runFor done limit n w
      | none => runFor done limit n (w.moveTo (min limit (w.nextDue?.getD limit)))

/-- **The course of things** until a moment comes or `done` holds. What is due at that moment itself
is left to be done. -/
def runBefore (w : World) (done : World → Bool) (limit : Nat) : World :=
  runFor done limit (w.budget (limit - w.now)) w

end World

end TaskWorker
