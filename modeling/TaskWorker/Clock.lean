import TaskWorker.Site
/-!
# Sites on an exact clock

Runs of a site leave open how long things take. Here the surroundings of a site say it: how long
polls and reports are on their way, what handlers say about themselves, and what they do with their
tasks and for how long. The clock is exact: nothing happens before it is due, and no time passes
while something is due. What is due at one instant may happen in any order.

Only what happens before a shutdown is looked at, with a server that takes all reports.

* `Surroundings`, with `Surroundings.phaseDue`, `Surroundings.tickDue` and `Surroundings.dues`, when
  things are due;
* `Call`, what somebody does; `Act`, what can happen; `Surroundings.event?`, what an act is at a
  site, if it can happen now;
* **`Surroundings.step?`**, `Surroundings.replay`: the state after an act, and after some acts.
-/

namespace TaskWorker

open Dispatcher (Callback)

/-- What a site does not decide. Times are milliseconds of the site's clock. -/
structure Surroundings (α : Type) where
  /-- Whether a handler says at a time that it is paused. -/
  paused : Handler α → Nat → Bool
  /-- What a handler says at a time about its identity. -/
  identity : Handler α → Nat → Option String
  /-- How long a poll is on its way that was sent at a time. -/
  pollDelay : Handler α → Nat → Nat
  /-- How long a report is on its way that was sent at a time. -/
  reportDelay : Handler α → Nat → Nat
  /-- How long a handler works on a task that it got at a time, and how that ends. -/
  work : Handler α → Task → Nat → Nat × Outcome

/-- What somebody does with a host and its server before a shutdown. -/
inductive Call where
  | init (inRuntime : Bool)
  | enqueue (task : Task)
  | gate (available : Bool)
  | failPolls (b : Bool)

namespace Call

def event : Call → Site.Event
  | .init inRuntime => .host (.init inRuntime)
  | .enqueue task => .enqueue task
  | .gate available => .host (.gate available)
  | .failPolls b => .failPolls b

/-- Whether a call has to do with a task type. -/
def concerns (taskType : String) : Call → Bool
  | .enqueue task => task.type = taskType
  | _ => true

end Call

/-- What can happen on an exact clock. -/
inductive Act where
  | elapse (millis : Nat)
  | call (c : Call)
  /-- The loop of a type makes a tick. -/
  | tick (taskType : String)
  /-- The server sees the poll of a tick. -/
  | served (tick : Nat)
  /-- The handler of an execution is done; its result may be stamped with another clock's time. -/
  | done (number : Nat) (stamp : Moment)
  /-- The server sees the report of an execution. -/
  | reported (number : Nat)

namespace Surroundings

variable {α : Type}

/-! ## What is due -/

/-- When a phase of a task's way through a handler ends. -/
def phaseDue (env : Surroundings α) (g : Handler α) (task : Task) : Phase → Nat
  | .handling since => since + (env.work g task since).1
  | .reporting _ _ since => since + env.reportDelay g since
  | .pausing _ _ due => due

/-- When the server sees the poll of a tick. -/
def tickDue (env : Surroundings α) (k : Tick α) : Nat := k.since + env.pollDelay k.handler k.since

/-- When a loop wakes up by itself. -/
def loopDue? : LoopState → Option Nat
  | .sleeping due => some due
  | _ => none

/-- All moments at which something is due. -/
def dues (env : Surroundings α) (s : Site α) : List Nat :=
  s.host.dispatcher.executions.map (fun x => env.phaseDue x.handler x.task x.phase) ++
    s.host.dispatcher.ticks.map env.tickDue ++
    s.host.loops.filterMap fun l => loopDue? l.state

/-! ## Acts -/

/-- What the handler of an execution being done is at a site, if it is due. -/
def doneEvent? (env : Surroundings α) (now : Nat) (x : Execution α) (stamp : Moment) :
    Option Site.Event :=
  match x.phase with
  | .handling since =>
    let (span, outcome) := env.work x.handler x.task since
    if since + span ≤ now then
      some (.host (.handlerDone x.number outcome (.returned (env.identity x.handler now)) stamp))
    else none
  | _ => none

/-- What the report of an execution being seen is at a site, if it is due. -/
def reportedEvent? (env : Surroundings α) (now : Nat) (x : Execution α) : Option Site.Event :=
  match x.phase with
  | .reporting _ _ since =>
    if since + env.reportDelay x.handler since ≤ now then
      some (.reportServed x.number (.returned ()))
    else none
  | _ => none

/-- What an act is at a site, if it can happen now. -/
def event? (env : Surroundings α) (s : Site α) : Act → Option Site.Event
  | .elapse ms =>
    if (env.dues s).all fun due => s.host.now + ms ≤ due then some (.host (.elapse ms)) else none
  | .call c => some c.event
  | .tick t =>
    (s.host.loop? t).map fun l =>
      .host (.loopTicks t (env.paused l.handler s.host.now) (env.identity l.handler s.host.now))
  | .served id =>
    match s.host.dispatcher.tick? id with
    | some k => if env.tickDue k ≤ s.host.now then some (.pollServed id) else none
    | none => none
  | .done n stamp => (s.host.dispatcher.execution? n).bind fun x => env.doneEvent? s.host.now x stamp
  | .reported n => (s.host.dispatcher.execution? n).bind fun x => env.reportedEvent? s.host.now x

/-- What an act is at a site, and the state after it, if it can happen now. -/
def step? (env : Surroundings α) (s : Site α) (a : Act) : Option (Site.Event × Site α) :=
  match env.event? s a with
  | none => none
  | some e => (s.step? e).map fun s' => (e, s')

/-- The state after some acts, if each of them can happen in its turn. -/
def replay (env : Surroundings α) (s : Site α) : List Act → Option (Site α)
  | [] => some s
  | a :: as =>
    match env.step? s a with
    | none => none
    | some (_, s') => env.replay s' as

end Surroundings

end TaskWorker
