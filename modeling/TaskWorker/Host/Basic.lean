import TaskWorker.Dispatcher.Execution
import TaskWorker.Dispatcher.Tick
/-!
# Hosts

A host runs a poll loop for each of its handlers: it waits for the handler's polling interval, makes
a tick, and begins again. A host is built from handlers and settings, started once, and shut down
once. A shutdown stops the loops and waits for all that is under way, but no longer than the grace
period; what is left then is abandoned. A shutdown that is itself given up abandons it at once.

* `HostStatus`, `LoopState`, `PollLoop`, `Drain`, `Host`;
* `Host.build`, from handlers and settings; `Host.assemble`, without their checks;
* `Host.init`, `Host.refusal?`, `Host.beginShutdown`, `Host.finishDrain`, `Host.force`,
  `Host.giveUpShutdown`, `Host.drop`, the life of a host;
* `Host.describe`, a host in one line.
-/

namespace TaskWorker

/-- Where a host stands in its life. -/
inductive HostStatus where
  | created
  | running
  | shuttingDown
  | stopped
  deriving DecidableEq, Repr, Inhabited

namespace HostStatus

/-- The name of a status. -/
def name : HostStatus → String
  | .created => "created"
  | .running => "running"
  | .shuttingDown => "shutting_down"
  | .stopped => "stopped"

/-- The title of a status in a description. -/
def title : HostStatus → String
  | .created => "Created"
  | .running => "Running"
  | .shuttingDown => "ShuttingDown"
  | .stopped => "Stopped"

end HostStatus

/-- Why a host is not started. -/
inductive HostError where
  /-- There is nothing that would run its loops. -/
  | noRuntime
  | alreadyStarted
  | stopped
  deriving DecidableEq, Repr

/-- The wording of an error. -/
def HostError.message : HostError → String
  | .noRuntime => "worker host must be started from within a tokio runtime"
  | .alreadyStarted => "worker host is already started"
  | .stopped => "worker host is stopped"

/-- How a shutdown ends. -/
inductive ShutdownOutcome where
  /-- The host was not running. -/
  | notRunning
  /-- All that was under way came to its end. -/
  | drained
  /-- The grace period passed and so many executions were abandoned. -/
  | forced (abandoned : Int)
  deriving DecidableEq, Repr

/-- What a poll loop does. -/
inductive LoopState where
  /-- It waits for its interval to pass. -/
  | sleeping (due : Nat)
  /-- It waits for the poll of a tick. -/
  | polling (tick : Nat)
  | ended
  deriving DecidableEq, Repr

/-- The poll loop of a handler. -/
structure PollLoop (α : Type) where
  handler : Handler α
  state : LoopState

/-- The wait of a shutdown for what is under way. -/
inductive Drain where
  | none
  /-- It lasts until then at the latest. -/
  | waiting (deadline : Nat)
  | over (outcome : ShutdownOutcome)
  | givenUp
  deriving DecidableEq, Repr

/-- A host for the tasks of some handlers, one for each task type. -/
structure Host (α : Type) where
  handlers : List (Handler α)
  allocation : Allocation
  dispatcher : Dispatcher α
  status : HostStatus
  loops : List (PollLoop α)
  drain : Drain
  /-- Nobody has the host any longer. -/
  gone : Bool

namespace Host

variable {α : Type}

/-! ## Building -/

/-- Adds a handler; one of the same type gives its place to it. -/
def addHandler (h : Handler α) : List (Handler α) → List (Handler α)
  | [] => [h]
  | g :: gs => if g.taskType = h.taskType then h :: gs else g :: addHandler h gs

/-- The handlers of a list, one for each type: the last of the type, in the place of the first. A
handler without a polling interval is refused. -/
def uniqueHandlers : List (Handler α) → List (Handler α) → Except SettingsError (List (Handler α))
  | known, [] => .ok known
  | known, h :: hs =>
    if h.interval.isZero then .error (.noPollingInterval h.taskType)
    else uniqueHandlers (addHandler h known) hs

/-- A host whose parts are not checked. -/
def assemble (handlers : List (Handler α)) (allocation : Allocation) (settings : Settings) :
    Host α :=
  { handlers, allocation
    dispatcher := .start settings allocation
    status := .created
    loops := []
    drain := .none
    gone := false }

/-- A host for some handlers. The settings are checked first, then the handlers, then the slots. -/
def build (handlers : List (Handler α)) (settings : Settings) : Except SettingsError (Host α) :=
  match settings.validate with
  | .error e => .error e
  | .ok () =>
    match uniqueHandlers [] handlers with
    | .error e => .error e
    | .ok handlers =>
      match Allocation.plan (handlers.map Handler.taskType) settings.slotsPerType.entries
          settings.sharedSlots with
      | .error e => .error e
      | .ok allocation => .ok (assemble handlers allocation settings)

/-- The task types of a host, in the order of their handlers. -/
def taskTypes (h : Host α) : List String := h.handlers.map Handler.taskType

/-- A host in one line. -/
def describe (h : Host α) : String :=
  "WorkerHost \x7b worker_id: " ++ Text.quote h.dispatcher.settings.workerId ++ ", task_types: " ++
    Text.quoteAll h.taskTypes ++ ", status: " ++ h.status.title ++ " \x7d"

/-! ## Life -/

/-- The time of a host's clock. -/
def now (h : Host α) : Nat := h.dispatcher.now

/-- A loop that has all of its interval before it. -/
def resting (h : Host α) (handler : Handler α) : LoopState :=
  .sleeping (h.now + handler.interval.ticks)

/-- Starts a host, if there is something that runs its loops. -/
def init (h : Host α) (inRuntime : Bool) : Except HostError Unit × Host α :=
  if !inRuntime then (.error .noRuntime, h)
  else
    match h.status with
    | .created =>
      (.ok (), { h with
        status := .running
        loops := h.handlers.map fun handler => ⟨handler, h.resting handler⟩ })
    | .running | .shuttingDown => (.error .alreadyStarted, h)
    | .stopped => (.error .stopped, h)

/-- Whether the loops and the executions of a host have all ended. -/
def isQuiet (h : Host α) : Bool :=
  h.loops.all (fun l => l.state = .ended) && h.dispatcher.executions.isEmpty

/-- What a call for a shutdown hears at once; the one that finds the host running has to wait. -/
def refusal? (h : Host α) : Option ShutdownOutcome :=
  if h.status = .running then none else some .notRunning

/-- Begins to shut a host down, if it is running: the status is changed, the loops are told to stop
and the slots are closed, with nothing in between. -/
def beginShutdown (h : Host α) : Host α :=
  match h.status with
  | .running =>
    { h with
      status := .shuttingDown
      dispatcher := { h.dispatcher with stopping := true }.closeSlots
      drain := .waiting (h.now + h.dispatcher.settings.gracePeriod.ticks) }
  | _ => h

/-- Ends the wait of a shutdown with everything done. -/
def finishDrain (h : Host α) : Host α :=
  { h with status := .stopped, drain := .over .drained }

/-- Ends the wait of a shutdown by abandoning what is left. -/
def force (h : Host α) : Host α :=
  { h with
    status := .stopped
    dispatcher := { h.dispatcher with forced := true }
    drain := .over (.forced h.dispatcher.running) }

/-- Gives up the wait of a shutdown, which abandons what is left. -/
def giveUpShutdown (h : Host α) : Host α :=
  match h.drain with
  | .waiting _ =>
    { h with
      status := .stopped
      dispatcher := { h.dispatcher with forced := true }
      drain := .givenUp }
  | _ => h

/-- Lets go of a host: its loops are told to stop, its executions go on. -/
def drop (h : Host α) : Host α :=
  { h with dispatcher := { h.dispatcher with stopping := true }, gone := true }

/-! ## Loops -/

/-- Puts the loop of a type into another state. -/
def setLoop (h : Host α) (taskType : String) (state : LoopState) : Host α :=
  { h with
    loops := h.loops.map fun l => if l.handler.taskType = taskType then { l with state } else l }

/-- The loop of a type. -/
def loop? (h : Host α) (taskType : String) : Option (PollLoop α) :=
  h.loops.find? fun l => l.handler.taskType = taskType

/-- The loops after the tick of an id has ended: the one that waited for it rests again, or ends
with a tick that was told to shut down. -/
def afterTick (h : Host α) (tick : Nat) (outcome : TickOutcome) : Host α :=
  { h with
    loops := h.loops.map fun l =>
      if l.state = .polling tick then
        { l with state := if outcome = .shuttingDown then .ended else h.resting l.handler }
      else l }

/-- A loop makes a tick. -/
def loopTick (h : Host α) (l : PollLoop α) (paused : Bool) (identity : Option String) : Host α :=
  match h.dispatcher.beginTick l.handler paused identity with
  | (.sent id, d) => { h with dispatcher := d }.setLoop l.handler.taskType (.polling id)
  | (.over outcome, d) =>
    let h := { h with dispatcher := d }
    h.setLoop l.handler.taskType
      (if outcome = .shuttingDown then .ended else h.resting l.handler)

/-- The poll of a tick is answered. -/
def answerPoll (h : Host α) (tick : Tick α) (answer : Except ServerError (Option Task)) :
    TickOutcome × Host α :=
  let (outcome, d) := h.dispatcher.answerPoll tick answer
  (outcome, { h with dispatcher := d }.afterTick tick.id outcome)

/-- The poll of a tick is not waited for any longer. -/
def cutPoll (h : Host α) (tick : Tick α) : TickOutcome × Host α :=
  let (outcome, d) := h.dispatcher.cutPoll tick
  (outcome, { h with dispatcher := d }.afterTick tick.id outcome)

end Host

end TaskWorker
