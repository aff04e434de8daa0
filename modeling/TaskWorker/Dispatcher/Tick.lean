import TaskWorker.Dispatcher.Basic
/-!
# Ticks

A tick asks in turn whether the dispatcher is stopping, whether the server is out of service,
whether the handler is paused and whether a slot is free; the first objection ends it. Otherwise it
sends a poll. A task in the answer goes to an execution together with the slot; any other end of the
poll gives the slot back.

* `Dispatcher.beginTick`, up to the poll; `Dispatcher.answerPoll`, from the answer on;
* `Dispatcher.cutPoll`, the end of a poll that is not waited for any longer, and
  `Dispatcher.losePoll`, the end of one that panicked;
* `Dispatcher.dispatch`, the beginning of an execution.
-/

namespace TaskWorker.Dispatcher

variable {α : Type}

/-- How far the first part of a tick gets. -/
inductive TickStart where
  | over (outcome : TickOutcome)
  /-- The poll of the tick of this id was sent. -/
  | sent (id : Nat)
  deriving DecidableEq, Repr

/-- Sends the poll of a tick that holds a slot. -/
def sendPoll (d : Dispatcher α) (h : Handler α) (identity : Option String) : Dispatcher α :=
  let workerId := d.workerIdFor identity
  let domain := d.settings.domainFor h.taskType
  let tick : Tick α := ⟨d.sentPolls, h, workerId, domain, d.now⟩
  { d with
    ticks := d.ticks ++ [tick]
    sentPolls := d.sentPolls + 1
    tally := d.tally.poll
    journal := .polled d.now h.taskType workerId domain :: d.journal }

/-- The first part of a tick, from the look at the word to stop to the poll, with nothing in
between. The handler says whether it is paused and what its identity is. -/
def beginTick (d : Dispatcher α) (h : Handler α) (paused : Bool) (identity : Option String) :
    TickStart × Dispatcher α :=
  if d.stopping then (.over .shuttingDown, d)
  else if !d.isAvailable then (.over .serverUnavailable, d)
  else if paused then (.over .paused, d)
  else
    match d.acquire? h.taskType with
    | none => (.over .noCapacity, d.count .noSlot)
    | some d' => (.sent d'.sentPolls, d'.sendPoll h identity)

/-- The dispatcher without a tick. -/
def dropTick (d : Dispatcher α) (tick : Tick α) : Dispatcher α :=
  { d with ticks := d.ticks.filter fun t => t.id ≠ tick.id }

/-- Begins an execution, which takes over the slot of a tick. -/
def dispatch (d : Dispatcher α) (tick : Tick α) (task : Task) : Dispatcher α :=
  let n := d.dispatched + 1
  { d with
    executions := d.executions ++ [⟨n, tick.handler, tick.workerId, task, .handling d.now⟩]
    dispatched := n
    running := d.running + 1
    journal := .named n task.id (d.settings.executionName n) :: d.journal }

/-- The second part of a tick. -/
def answerPoll (d : Dispatcher α) (tick : Tick α) :
    Except ServerError (Option Task) → TickOutcome × Dispatcher α
  | .ok (some task) => (.dispatched task.id, (d.dropTick tick).dispatch tick task)
  | .ok none => (.noTask, ((d.dropTick tick).release tick.handler.taskType).count .emptyPoll)
  | .error _ => (.pollFailed, ((d.dropTick tick).release tick.handler.taskType).count .pollError)

/-- The end of a tick whose poll is not waited for any longer. -/
def cutPoll (d : Dispatcher α) (tick : Tick α) : TickOutcome × Dispatcher α :=
  (.shuttingDown, ((d.dropTick tick).release tick.handler.taskType).note (.cut tick.id))

/-- The end of a tick whose poll panicked. -/
def losePoll (d : Dispatcher α) (tick : Tick α) : Dispatcher α :=
  (d.dropTick tick).release tick.handler.taskType

/-- The tick of an id. -/
def tick? (d : Dispatcher α) (id : Nat) : Option (Tick α) := d.ticks.find? fun t => t.id = id

end TaskWorker.Dispatcher
