import TaskWorker.Simulation.World
/-!
# Steps of a simulation

A simulation goes by steps: somebody gives the server a task, lets time pass, makes a tick by hand,
starts the host or shuts it down. After each step all that can happen without the clock moving has
happened.

* `Step`, what can be done; `Reply`, what comes of it;
* **`World.perform`**.
-/

namespace TaskWorker

/-- What somebody does in a simulated world. Handlers are named by their places. -/
inductive Step where
  | enqueue (task : Task)
  | advance (millis : Nat)
  | failPolls (b : Bool)
  | failReports (n : UInt32)
  | rejectReports (b : Bool)
  | pause (handler : Nat) (b : Bool)
  /-- The gate that is installed changes what it says. -/
  | gate (available : Bool)
  | installGate (available : Bool)
  /-- Ticks that all begin before any of them waits. -/
  | ticks (handlers : List Nat)
  | execute (handler : Nat) (task : Task)
  | report (task : Task) (output : Json)
  | init (inRuntime : Bool)
  /-- Calls for a shutdown, all at once; they are waited for. -/
  | shutdown (calls : Nat)
  /-- A call for a shutdown that is given up after a while. -/
  | shutdownWithin (millis : Nat)
  /-- A call for a shutdown that is not waited for. -/
  | shutdownStart
  /-- Waits for the call that was not waited for. -/
  | shutdownJoin
  /-- Gives up the call that was not waited for. -/
  | shutdownAbort
  | drop
  | describe

/-- What comes of a step. -/
inductive Reply where
  | none
  | ticked (outcomes : List TickOutcome)
  | executed (result : TaskResult)
  | delivered (outcome : ReportOutcome)
  | started (outcome : Except HostError Unit)
  /-- How calls for a shutdown ended. -/
  | shutDown (outcomes : List ShutdownOutcome)
  /-- A call was given up. -/
  | timedOut
  | text (s : String)

namespace World

/-- Changes the dispatcher. -/
def withDispatcher (w : World) (d : Dispatcher Script) : World :=
  { w with host := { w.host with dispatcher := d } }

/-- A gate is installed or changes what it says. -/
def setGate (w : World) (available : Bool) : World := (w.happen (.gate available)).getD w

/-- The server sees a poll that takes no time on its way. -/
def answerAtOnce (w : World) : Dispatcher.TickStart → World
  | .over _ => w
  | .sent id => if w.pollDelay = 0 then ((w.host.dispatcher.tick? id).bind w.answer).getD w else w

/-- Begins the tick of a handler. -/
def beginTick (w : World) (h : Handler Script) : Dispatcher.TickStart × World :=
  let (start, d) := w.host.dispatcher.beginTick h (w.isPaused h) h.logic.identity
  (start, (w.withDispatcher d).answerAtOnce start)

/-- Begins the ticks of some handlers, one after the other, each as far as it gets without waiting.
For each of them, its outcome or the id of its poll. -/
def beginTicks (w : World) : List Nat → List Dispatcher.TickStart × World
  | [] => ([], w)
  | i :: is =>
    match w.handlers[i]? with
    | none => beginTicks w is
    | some h =>
      let (start, w) := w.beginTick h
      let (starts, w) := beginTicks w is
      (start :: starts, w)

/-- How a tick came out, if it did. -/
def outcome? (w : World) : Dispatcher.TickStart → Option TickOutcome
  | .over outcome => some outcome
  | .sent id => (w.outcomes.find? fun o => o.1 = id).map Prod.snd

/-- Makes ticks and waits for all of them. -/
def makeTicks (w : World) (handlers : List Nat) : Reply × World :=
  let (starts, w) := w.beginTicks handlers
  let done (w : World) : Bool := starts.all fun s => (w.outcome? s).isSome
  let w := (w.runBefore done (w.now + w.pollDelay)).settle
  (.ticked (starts.filterMap w.outcome?), w)

/-- Whether work by hand has come to its end, or there is none. -/
def isIdle (w : World) : Bool := w.errandDue?.isNone

/-- Has a handler execute a task, without a slot and without a report. -/
def executeByHand (w : World) (i : Nat) (task : Task) : Reply × World :=
  match w.handlers[i]? with
  | none => (.none, w)
  | some h =>
    let w := { w with errand := .execution h task w.now }
    let w := (w.runBefore isIdle (w.now + h.logic.delay task)).settle
    match w.errand with
    | .executed result => (.executed result, { w with errand := .none })
    | _ => (.none, w)

/-- The milliseconds within which a report has come to its end. -/
def reportSpan (w : World) : Nat :=
  let policy := w.host.dispatcher.settings.retryPolicy
  min policy.maxAttempts (w.server.failingReports.toNat + 1) *
    (w.reportDelay + policy.pause.ticks)

/-- Reports a result. -/
def reportByHand (w : World) (result : TaskResult) : Reply × World :=
  let (phase, d) := w.host.dispatcher.sendReport result 1
  let w := { w.withDispatcher d with errand := .report phase }
  let w := (w.runBefore isIdle (w.now + w.reportSpan)).settle
  match w.errand with
  | .delivered outcome => (.delivered outcome, { w with errand := .none })
  | _ => (.none, w)

/-! ## Shutdowns -/

/-- Begins a shutdown, which is over at once if nothing is under way. -/
def beginShutdown (w : World) : World :=
  let w := (w.happen .shutdown).getD w
  (w.happen .drained).getD w

/-- How a shutdown ended, if it did. -/
def drainOutcome? (w : World) : Option ShutdownOutcome :=
  match w.host.drain with
  | .over outcome => some outcome
  | _ => none

/-- Waits until a shutdown is over. -/
def awaitDrain (w : World) : World :=
  match w.host.drain with
  | .waiting deadline => (w.runBefore (fun w => w.drainOutcome?.isSome) deadline).settle
  | _ => w

/-- Shuts the host down and waits for it; of several calls only the first does something. -/
def shutDown (w : World) : Nat → Reply × World
  | 0 => (.shutDown [], w)
  | calls + 1 =>
    match w.host.refusal? with
    | some refusal => (.shutDown (List.replicate (calls + 1) refusal), w)
    | none =>
      let begun := w.beginShutdown
      let w := begun.awaitDrain
      let others := (List.replicate calls begun.host.refusal?).filterMap id
      (.shutDown (w.drainOutcome?.toList ++ others), w)

/-- Gives up a shutdown. -/
def giveUpShutdown (w : World) : World := (w.happen .shutdownGivenUp).getD w

/-- Shuts the host down and waits for it, but not for long. -/
def shutDownWithin (w : World) (millis : Nat) : Reply × World :=
  match w.host.refusal? with
  | some refusal => (.shutDown [refusal], w)
  | none =>
    let w := w.beginShutdown
    let w := w.runBefore (fun w => w.drainOutcome?.isSome) (w.now + millis)
    match w.drainOutcome? with
    | some outcome => (.shutDown [outcome], w)
    | none => (.timedOut, w.giveUpShutdown)

/-- Shuts the host down and does not wait for it. -/
def startShutdown (w : World) : World :=
  match w.host.refusal? with
  | some refusal => { w with background := .refused refusal }
  | none => { w.beginShutdown with background := .draining }

/-- Waits for a shutdown that was not waited for. -/
def joinShutdown (w : World) : Reply × World :=
  match w.background with
  | .none => (.none, w)
  | .refused refusal => (.shutDown [refusal], { w with background := .none })
  | .draining =>
    let w := w.awaitDrain
    (.shutDown w.drainOutcome?.toList, { w with background := .none })

/-- Gives up a shutdown that was not waited for. -/
def abortShutdown (w : World) : World :=
  match w.background with
  | .draining => { w.giveUpShutdown with background := .none }
  | _ => { w with background := .none }

/-! ## All steps -/

/-- Does a step, before what follows without the clock moving. -/
def begin (w : World) : Step → Reply × World
  | .enqueue task => (.none, { w with server := w.server.enqueue task })
  | .advance millis => (.none, w.runBefore (fun _ => false) (w.now + millis))
  | .failPolls b => (.none, { w with server := { w.server with failPolls := b } })
  | .failReports n => (.none, { w with server := { w.server with failingReports := n } })
  | .rejectReports b => (.none, { w with server := { w.server with rejectReports := b } })
  | .pause i b => (.none, { w with paused := w.paused.set i b })
  | .gate b => (.none, if w.host.dispatcher.gate.isSome then w.setGate b else w)
  | .installGate b => (.none, w.setGate b)
  | .ticks handlers => w.makeTicks handlers
  | .execute i task => w.executeByHand i task
  | .report task output => w.reportByHand (.completed task output)
  | .init inRuntime =>
    (.started (w.host.init inRuntime).1, (w.happen (.init inRuntime)).getD w)
  | .shutdown calls => w.shutDown calls
  | .shutdownWithin millis => w.shutDownWithin millis
  | .shutdownStart => (.none, w.startShutdown)
  | .shutdownJoin => w.joinShutdown
  | .shutdownAbort => (.none, w.abortShutdown)
  | .drop => (.none, { w with gone := true })
  | .describe => (.text w.host.describe, w)

/-- **Does a step** and all that follows without the clock moving. -/
def perform (w : World) (s : Step) : Reply × World :=
  let (reply, w) := w.begin s
  (reply, w.settle)

end World

end TaskWorker
