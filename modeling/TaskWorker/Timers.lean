import TaskWorker.Host.Event
/-!
# Hosts on an exact clock

Runs of a host may be late in everything they do. On an exact clock, sleeps last as long as they are
told to: a loop wakes up when its interval is over, a pause between two reports ends when it is due,
and so does a grace period. What can go on by itself goes on before the clock does. How long polls,
handlers and reports take is left open.

* `LoopState.due?`, `Phase.due?`, `Drain.due?`, with `Host.timers`: when timers go off;
* `Host.isPressed`: somebody goes on at once, without a timer; **`Host.mayElapse`**: the clock may
  go on;
* `Host.isExact`, runs on an exact clock.
-/

namespace TaskWorker

/-- When a loop wakes up by itself. -/
def LoopState.due? : LoopState → Option Nat
  | .sleeping due => some due
  | _ => none

/-- When the pause before another report is over. -/
def Phase.due? : Phase → Option Nat
  | .pausing _ _ due => some due
  | _ => none

/-- When the grace period of a shutdown is over. -/
def Drain.due? : Drain → Option Nat
  | .waiting deadline => some deadline
  | _ => Option.none

namespace Host

variable {α : Type}

/-- All moments at which a timer goes off. -/
def timers (h : Host α) : List Nat :=
  h.loops.filterMap (fun l => l.state.due?) ++
    h.dispatcher.executions.filterMap (fun x => x.phase.due?) ++ h.drain.due?.toList

/-- Whether somebody goes on at once: a sleeping loop that is told to stop, a poll or an execution
that is abandoned, or a shutdown that finds everything done. -/
def isPressed (h : Host α) : Bool :=
  (h.dispatcher.stopping && h.loops.any fun l => l.state.due?.isSome) ||
    (h.dispatcher.forced &&
      !(h.dispatcher.ticks.isEmpty && h.dispatcher.executions.isEmpty)) ||
    (h.drain.due?.isSome && h.isQuiet)

/-- Whether the clock may go on: nobody goes on at once, and no timer is passed by. -/
def mayElapse (h : Host α) (millis : Nat) : Bool :=
  !h.isPressed && h.timers.all fun due => h.now + millis ≤ due

/-- Whether an event can happen on an exact clock, if it is possible. -/
def permits (h : Host α) : Event → Bool
  | .elapse millis => h.mayElapse millis
  | _ => true

/-- Whether some events happen on an exact clock. -/
def isExact (h : Host α) : List Event → Bool
  | [] => true
  | e :: es =>
    h.permits e &&
      match h.step? e with
      | some h' => h'.isExact es
      | none => true

end Host

end TaskWorker
