import TaskWorker.Allocation
import TaskWorker.Handler
import TaskWorker.Server
import TaskWorker.Settings.Basic
import TaskWorker.Slots
import TaskWorker.Tally
/-!
# The dispatcher

The dispatcher is what the task types of a host share. A tick of a handler takes a slot and sends a
poll; if the poll brings a task, the slot passes on to an execution, which runs the handler, reports
the result and gives the slot back. Everything that waits for somebody else is a value in the
dispatcher's state: the ticks whose polls are not answered, and the executions whose handlers or
reports are not done.

* `Tick`, `Phase`, `Execution`, `Fate`, `Dispatcher`; `Dispatcher.start`;
* `Entry`, what the journal of a dispatcher keeps;
* `Dispatcher.acquire?` and `Dispatcher.release` on the slots of a type, `Dispatcher.busySlots`.
-/

namespace TaskWorker

/-- What a tick did. -/
inductive TickOutcome where
  | shuttingDown
  | serverUnavailable
  | paused
  | noCapacity
  | noTask
  | pollFailed
  /-- The task of this id was handed to an execution. -/
  | dispatched (taskId : String)
  deriving DecidableEq, Repr

/-- How reporting a result ended. -/
inductive ReportOutcome where
  | reported (attempts : Nat)
  | rejected
  | dropped (attempts : Nat)
  deriving DecidableEq, Repr

/-- Whether a result could not be delivered. -/
def ReportOutcome.isUndelivered : ReportOutcome → Bool
  | .reported _ => false
  | _ => true

/-- A tick whose poll is not answered yet. It holds a slot of its handler's type. -/
structure Tick (α : Type) where
  id : Nat
  handler : Handler α
  /-- The worker id and the domain that the poll was sent with. -/
  workerId : String
  domain : Option String
  /-- When the poll was sent. -/
  since : Nat

/-- What an execution waits for. -/
inductive Phase where
  /-- The handler has had the task since then. -/
  | handling (since : Nat)
  /-- The report was sent then, for the `attempt`-th time. -/
  | reporting (result : TaskResult) (attempt since : Nat)
  /-- The `attempt`-th report is to be sent when it is due. -/
  | pausing (result : TaskResult) (attempt due : Nat)
  deriving Repr

/-- A task under way. It holds a slot of its handler's type. -/
structure Execution (α : Type) where
  /-- The number of the execution, from one. -/
  number : Nat
  handler : Handler α
  /-- The worker id that the task was polled with. -/
  polledAs : String
  task : Task
  phase : Phase

/-- Whether the handler still has the task. -/
def Phase.isHandling : Phase → Bool
  | .handling _ => true
  | _ => false

/-- How an execution ends. -/
inductive Fate where
  /-- Its result was sent until this came of it. -/
  | delivered (outcome : ReportOutcome)
  /-- It was abandoned, with the task still at the handler or not. -/
  | abandoned (handling : Bool)
  /-- It panicked outside the handler's own work. -/
  | lost
  deriving DecidableEq, Repr

/-- What happened in a dispatcher. -/
inductive Entry where
  /-- A poll was sent. -/
  | polled (time : Nat) (taskType workerId : String) (domain : Option String)
  /-- A poll was not waited for any longer. -/
  | cut (tick : Nat)
  /-- The execution of a number got its task and its name. -/
  | named (number : Nat) (taskId name : String)
  /-- A result was sent to the server. -/
  | sent (time : Nat) (attempt : Nat) (result : TaskResult)
  /-- A handler was told that its result could not be delivered. -/
  | undelivered (time : Nat) (result : TaskResult)
  /-- The execution of a number ended. -/
  | ended (number : Nat) (fate : Fate)
  deriving Repr

/-- What the task types of a host share. Times are milliseconds of the host's clock. -/
structure Dispatcher (α : Type) where
  settings : Settings
  slots : Table Slots
  tally : Tally
  /-- What the gate says about the server, if a gate is installed. -/
  gate : Option Bool
  /-- Nothing more is to be polled. -/
  stopping : Bool
  /-- What is under way is to be abandoned. -/
  forced : Bool
  ticks : List (Tick α)
  executions : List (Execution α)
  /-- The number of ticks that sent a poll. -/
  sentPolls : Nat
  /-- The number of executions so far. -/
  dispatched : Nat
  /-- The executions that are counted as under way; a count below zero would show. -/
  running : Int
  now : Nat
  /-- What happened, the latest first. -/
  journal : List Entry

namespace Dispatcher

variable {α : Type}

/-- A dispatcher with all its slots free. -/
def start (settings : Settings) (allocation : Allocation) : Dispatcher α :=
  { settings
    slots := allocation.counts.map fun _ n => Slots.ofCapacity n
    tally := .zero
    gate := none
    stopping := false
    forced := false
    ticks := []
    executions := []
    sentPolls := 0
    dispatched := 0
    running := 0
    now := 0
    journal := [] }

/-- Adds to the journal. -/
def note (d : Dispatcher α) (e : Entry) : Dispatcher α := { d with journal := e :: d.journal }

/-- Counts something. -/
def count (d : Dispatcher α) (f : Tally → Tally) : Dispatcher α := { d with tally := f d.tally }

/-- Takes a slot of a type; a type that is not known has none. -/
def acquire? (d : Dispatcher α) (taskType : String) : Option (Dispatcher α) :=
  match d.slots.get? taskType with
  | none => none
  | some s =>
    match s.acquire? with
    | none => none
    | some s => some { d with slots := d.slots.insert taskType s }

/-- Gives a slot of a type back. -/
def release (d : Dispatcher α) (taskType : String) : Dispatcher α :=
  { d with slots := d.slots.modify taskType Slots.release }

/-- Hands out no more slots of any type. -/
def closeSlots (d : Dispatcher α) : Dispatcher α :=
  { d with slots := d.slots.map fun _ s => s.close }

/-- The busy slots of a type. -/
def busySlots (d : Dispatcher α) (taskType : String) : Int :=
  match d.slots.get? taskType with
  | none => 0
  | some s => s.busy

/-- The worker id of a handler that says `identity` about itself. -/
def workerIdFor (d : Dispatcher α) (identity : Option String) : String :=
  identity.getD d.settings.workerId

/-- Whether the gate lets polls through. -/
def isAvailable (d : Dispatcher α) : Bool := d.gate.getD true

end Dispatcher

end TaskWorker
