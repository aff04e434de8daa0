import TaskWorker.Host.Event
/-!
# A host with its server

A host polls one server in memory and reports to it. The server does not choose what it answers: a
poll gets the oldest task of its queue, and a report is taken unless the server was told otherwise.
What somebody does with the server and what happens to the host may come in any order.

* `Site`, a host and its server; `Site.start`, with nothing in the server;
* `Site.Event`, `Site.effect?`, `Site.step?`: what can happen, and the state after it;
* `Site.replay`, the state that given events lead to;
* `Site.enqueued`, the tasks that the server was given; `Site.hostEvents`, the run of the host.
-/

namespace TaskWorker

/-- The result that is on its way to the server. -/
def Phase.sending? : Phase → Option TaskResult
  | .reporting result _ _ => some result
  | _ => none

/-- The result that an execution is sending. -/
def Dispatcher.sending? {α : Type} (d : Dispatcher α) (n : Nat) : Option TaskResult :=
  (d.execution? n).bind fun x => x.phase.sending?

/-- Whether an event is the server's answer to a call. -/
def Host.Event.isAnswer : Host.Event → Bool
  | .pollAnswered _ _ | .reportAnswered _ _ _ => true
  | _ => false

/-- A host and the server that it works for. -/
structure Site (α : Type) where
  host : Host α
  server : Server

namespace Site

open Dispatcher (Callback)

variable {α : Type}

/-- A host and a server that has nothing to do yet. -/
def start (host : Host α) : Site α := ⟨host, .new⟩

/-- What can happen to a host and its server. -/
inductive Event where
  /-- Somebody gives the server a task. -/
  | enqueue (task : Task)
  /-- Somebody tells the server whether to fail polls. -/
  | failPolls (b : Bool)
  /-- Somebody tells the server how many reports to fail. -/
  | failReports (n : UInt32)
  /-- Somebody tells the server whether to reject reports. -/
  | rejectReports (b : Bool)
  /-- Something happens to the host in which the server has no part. -/
  | host (e : Host.Event)
  /-- The server sees the poll of a tick and answers it. -/
  | pollServed (tick : Nat)
  /-- The server sees the report of an execution and answers it. -/
  | reportServed (number : Nat) (told : Callback Unit)

/-- The task that the server is given. -/
def Event.enqueued? : Event → Option Task
  | .enqueue task => some task
  | _ => none

/-- What an event is for the host, if it is anything, and what becomes of the server. -/
def effect? (s : Site α) : Event → Option (Option Host.Event × Server)
  | .enqueue task => some (none, s.server.enqueue task)
  | .failPolls b => some (none, { s.server with failPolls := b })
  | .failReports n => some (none, { s.server with failingReports := n })
  | .rejectReports b => some (none, { s.server with rejectReports := b })
  | .host e => if e.isAnswer then none else some (some e, s.server)
  | .pollServed id =>
    (s.host.dispatcher.tick? id).map fun tick =>
      let (answer, server) := s.server.poll tick.handler.taskType tick.workerId tick.domain
      (some (.pollAnswered id answer), server)
  | .reportServed n told =>
    (s.host.dispatcher.sending? n).map fun result =>
      let (answer, server) := s.server.report result
      (some (.reportAnswered n answer told), server)

/-- The state after an event, if the event is possible. -/
def step? (s : Site α) (e : Event) : Option (Site α) :=
  match s.effect? e with
  | none => none
  | some (none, server) => some { s with server }
  | some (some f, server) => (s.host.step? f).map fun host => { host, server }

/-- The state after some events, if each of them is possible in its turn. -/
def replay (s : Site α) (es : List Event) : Option (Site α) := es.foldlM step? s

/-- The tasks that the server was given, in their order. -/
def enqueued (es : List Event) : List Task := es.filterMap Event.enqueued?

/-- What an event is for the host. -/
def hostEvent? (s : Site α) (e : Event) : Option Host.Event := (s.effect? e).bind Prod.fst

/-- What some events are for the host, in their order. -/
def hostEvents (s : Site α) : List Event → List Host.Event
  | [] => []
  | e :: es =>
    (s.hostEvent? e).toList ++
      match s.step? e with
      | some s' => hostEvents s' es
      | none => []

end Site

end TaskWorker
