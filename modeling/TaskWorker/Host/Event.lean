import TaskWorker.Host.Basic
/-!
# Runs of a host

Whatever happens to a host happens in events. An event is possible in some states only, and where it
leaves something open, such as the answer of a server or the end of a handler, it says what came of
it. A run is any sequence of possible events; their order is not restricted further, so that a run
may be late in everything it does.

* `Host.Event`, `Host.step?`, the state after an event if it is possible;
* `Host.Run`, the states reached by events; `Host.Reachable`, from a built host;
* `Host.replay`, the state that given events lead to; **`run_iff_replay`**: a run is what can be
  replayed;
* `Run.trans`, `Run.snoc`.
-/

namespace TaskWorker.Host

open Dispatcher (Callback)

variable {α : Type}

/-- What can happen to a host. -/
inductive Event where
  /-- The clock moves on. -/
  | elapse (millis : Nat)
  /-- A gate is installed, or changes what it says. -/
  | gate (available : Bool)
  /-- Somebody starts the host. -/
  | init (inRuntime : Bool)
  /-- Somebody shuts the host down. -/
  | shutdown
  /-- The shutdown finds everything done. -/
  | drained
  /-- The shutdown finds its grace period over. -/
  | graceOver
  /-- The shutdown is given up. -/
  | shutdownGivenUp
  /-- Nobody has the host any longer. -/
  | dropped
  /-- The loop of a type sees that it is to stop. -/
  | loopStops (taskType : String)
  /-- The loop of a type makes a tick. -/
  | loopTicks (taskType : String) (paused : Bool) (identity : Option String)
  /-- The loop of a type panics in its handler before it polls. -/
  | loopPanics (taskType : String)
  /-- A poll is answered. -/
  | pollAnswered (tick : Nat) (answer : Except ServerError (Option Task))
  /-- A poll is not waited for any longer. -/
  | pollCut (tick : Nat)
  /-- A poll panics. -/
  | pollPanics (tick : Nat)
  /-- The work of a handler on its task is over; if it panics, that is caught and is its outcome.
  Then the handler says what its identity is. -/
  | handlerDone (number : Nat) (outcome : Outcome) (identity : Callback (Option String))
      (now : Moment)
  /-- A report is answered. -/
  | reportAnswered (number : Nat) (answer : Except ServerError Unit) (told : Callback Unit)
  /-- The pause before another report is over. -/
  | pauseDone (number : Nat)
  /-- An execution sees that it is abandoned. -/
  | abandoned (number : Nat)
  /-- An execution panics where nothing catches it: in the call that hands the task to its handler,
  before there is any work to wait for, or in a call that sends its report. -/
  | executionPanics (number : Nat)

/-- The loop of a type, if it is asleep; with it, when it wakes up. -/
def sleeper? (h : Host α) (taskType : String) : Option (PollLoop α × Nat) :=
  match h.loop? taskType with
  | some l =>
    match l.state with
    | .sleeping due => some (l, due)
    | _ => none
  | none => none

/-- The state after an event, if the event is possible. -/
def step? (h : Host α) : Event → Option (Host α)
  | .elapse ms => some { h with dispatcher := { h.dispatcher with now := h.now + ms } }
  | .gate b => some { h with dispatcher := { h.dispatcher with gate := some b } }
  | .init inRuntime => if h.gone then none else some (h.init inRuntime).2
  | .shutdown => if h.gone then none else some h.beginShutdown
  | .drained =>
    match h.drain with
    | .waiting _ => if h.isQuiet then some h.finishDrain else none
    | _ => none
  | .graceOver =>
    match h.drain with
    | .waiting deadline => if deadline ≤ h.now ∧ !h.isQuiet then some h.force else none
    | _ => none
  | .shutdownGivenUp =>
    match h.drain with
    | .waiting _ => some h.giveUpShutdown
    | _ => none
  | .dropped =>
    match h.drain with
    | .waiting _ => none
    | _ => some h.drop
  | .loopStops t =>
    match h.sleeper? t with
    | some _ => if h.dispatcher.stopping then some (h.setLoop t .ended) else none
    | none => none
  | .loopTicks t paused identity =>
    match h.sleeper? t with
    | some (l, due) => if due ≤ h.now then some (h.loopTick l paused identity) else none
    | none => none
  | .loopPanics t =>
    match h.sleeper? t with
    | some (_, due) => if due ≤ h.now then some (h.setLoop t .ended) else none
    | none => none
  | .pollAnswered id answer => (h.dispatcher.tick? id).map fun tick => (h.answerPoll tick answer).2
  | .pollCut id =>
    match h.dispatcher.tick? id with
    | some tick => if h.dispatcher.forced then some (h.cutPoll tick).2 else none
    | none => none
  | .pollPanics id =>
    (h.dispatcher.tick? id).map fun tick =>
      { h with dispatcher := h.dispatcher.losePoll tick }.afterTick id .shuttingDown
  | .handlerDone n outcome identity now =>
    match h.dispatcher.execution? n with
    | some e =>
      match e.phase with
      | .handling _ =>
        some { h with dispatcher := h.dispatcher.handlerDone e outcome identity now }
      | _ => none
    | none => none
  | .reportAnswered n answer told =>
    match h.dispatcher.execution? n with
    | some e =>
      match e.phase with
      | .reporting result attempt _ =>
        some { h with dispatcher := h.dispatcher.reportAnswered e result attempt answer told }
      | _ => none
    | none => none
  | .pauseDone n =>
    match h.dispatcher.execution? n with
    | some e =>
      match e.phase with
      | .pausing result attempt due =>
        if due ≤ h.now then
          some { h with dispatcher := h.dispatcher.pauseDone e result attempt }
        else none
      | _ => none
    | none => none
  | .abandoned n =>
    match h.dispatcher.execution? n with
    | some e =>
      if h.dispatcher.forced then
        some { h with
          dispatcher := h.dispatcher.endExecution e (.abandoned e.phase.isHandling) }
      else none
    | none => none
  | .executionPanics n =>
    (h.dispatcher.execution? n).map fun e =>
      { h with dispatcher := h.dispatcher.loseExecution e }

/-- A sequence of possible events leads from one state to another. -/
inductive Run : Host α → List Event → Host α → Prop where
  | nil (h : Host α) : Run h [] h
  | cons {h h' h'' : Host α} {e : Event} {es : List Event} (first : h.step? e = some h')
      (rest : Run h' es h'') : Run h (e :: es) h''

/-- The state after some events, if each of them is possible in its turn. -/
def replay (h : Host α) : List Event → Option (Host α)
  | [] => some h
  | e :: es => (h.step? e).bind fun h => h.replay es

/-- **A run is what can be replayed.** -/
theorem run_iff_replay {h h' : Host α} {es : List Event} :
    Run h es h' ↔ h.replay es = some h' := by
  induction es generalizing h with
  | nil =>
    constructor
    · rintro ⟨⟩
      rfl
    · intro r
      obtain rfl : h = h' := by simpa [replay] using r
      exact .nil h
  | cons e es ih =>
    simp only [replay, Option.bind_eq_some_iff]
    constructor
    · rintro (_ | ⟨first, rest⟩)
      exact ⟨_, first, ih.mp rest⟩
    · rintro ⟨h₁, first, rest⟩
      exact .cons first (ih.mpr rest)

/-- Runs one after the other. -/
theorem Run.trans {a b c : Host α} {es fs : List Event} (r : Run a es b) (s : Run b fs c) :
    Run a (es ++ fs) c := by
  induction r with
  | nil => exact s
  | cons first _ ih => exact .cons first (ih s)

/-- A run and one more event. -/
theorem Run.snoc {a b c : Host α} {es : List Event} {e : Event} (r : Run a es b)
    (h : b.step? e = some c) : Run a (es ++ [e]) c :=
  r.trans (.cons h (.nil c))

/-- The states of the runs of a host that was built. -/
def Reachable (h : Host α) : Prop :=
  ∃ handlers settings h₀ es, build handlers settings = .ok h₀ ∧ Run h₀ es h

end TaskWorker.Host
