import TaskWorker.Json.Shape
/-!
# Tallies

What a worker counts: polls and how they ended, executions, reports and how they ended. Tallies
count without bound; a snapshot keeps 64 bits of each.

* `Tally`, one operation for each event; `Snapshot`, with `Tally.snapshot`.
-/

namespace TaskWorker

/-- Counts of what happened. -/
structure Tally where
  polls : Nat
  emptyPolls : Nat
  pollErrors : Nat
  executed : Nat
  /-- Executions whose result is a failure. -/
  failures : Nat
  reported : Nat
  /-- Attempts to report beyond the first one of each result. -/
  retries : Nat
  /-- Results given up after all attempts. -/
  dropped : Nat
  /-- Results that the server did not want. -/
  rejected : Nat
  /-- Ticks that found no free slot. -/
  withoutSlot : Nat
  deriving DecidableEq, Repr, Inhabited

namespace Tally

/-- Nothing counted yet. -/
def zero : Tally := ⟨0, 0, 0, 0, 0, 0, 0, 0, 0, 0⟩

/-- A poll is sent. -/
def poll (t : Tally) : Tally := { t with polls := t.polls + 1 }

/-- A poll brought no task. -/
def emptyPoll (t : Tally) : Tally := { t with emptyPolls := t.emptyPolls + 1 }

/-- A poll failed. -/
def pollError (t : Tally) : Tally := { t with pollErrors := t.pollErrors + 1 }

/-- A handler is done with a task. -/
def execution (t : Tally) (isFailure : Bool) : Tally :=
  { t with executed := t.executed + 1, failures := t.failures + isFailure.toNat }

/-- A result was accepted at some attempt. -/
def success (t : Tally) (attempts : Nat) : Tally :=
  { t with reported := t.reported + 1, retries := t.retries + (attempts - 1) }

/-- A result was given up after some attempts. -/
def drop (t : Tally) (attempts : Nat) : Tally :=
  { t with dropped := t.dropped + 1, retries := t.retries + (attempts - 1) }

/-- A result was not wanted. -/
def rejection (t : Tally) : Tally := { t with rejected := t.rejected + 1 }

/-- A tick found no free slot. -/
def noSlot (t : Tally) : Tally := { t with withoutSlot := t.withoutSlot + 1 }

end Tally

/-- Counts as they are shown. -/
structure Snapshot where
  polls : UInt64
  emptyPolls : UInt64
  pollErrors : UInt64
  executed : UInt64
  failures : UInt64
  reported : UInt64
  retries : UInt64
  dropped : UInt64
  rejected : UInt64
  withoutSlot : UInt64
  deriving DecidableEq, Repr

/-- What is shown of a tally. -/
def Tally.snapshot (t : Tally) : Snapshot where
  polls := .ofNat t.polls
  emptyPolls := .ofNat t.emptyPolls
  pollErrors := .ofNat t.pollErrors
  executed := .ofNat t.executed
  failures := .ofNat t.failures
  reported := .ofNat t.reported
  retries := .ofNat t.retries
  dropped := .ofNat t.dropped
  rejected := .ofNat t.rejected
  withoutSlot := .ofNat t.withoutSlot

namespace Snapshot

/-- A snapshot as a record. -/
def toJson (s : Snapshot) : Json :=
  let count (n : UInt64) : Option Json := some (.ofNat n.toNat)
  .record [
    ("polls", count s.polls), ("empty_polls", count s.emptyPolls),
    ("poll_errors", count s.pollErrors), ("tasks_executed", count s.executed),
    ("handler_failures", count s.failures), ("reports_succeeded", count s.reported),
    ("report_retries", count s.retries), ("reports_dropped", count s.dropped),
    ("reports_rejected", count s.rejected), ("ticks_without_capacity", count s.withoutSlot)]

/-- The members of a snapshot. -/
def record : Record Snapshot :=
  mk <$> .required "polls" .word64 <*> .required "empty_polls" .word64
    <*> .required "poll_errors" .word64 <*> .required "tasks_executed" .word64
    <*> .required "handler_failures" .word64 <*> .required "reports_succeeded" .word64
    <*> .required "report_retries" .word64 <*> .required "reports_dropped" .word64
    <*> .required "reports_rejected" .word64 <*> .required "ticks_without_capacity" .word64

/-- Reads a snapshot. -/
def shape : Shape Snapshot := record.shape

end Snapshot

end TaskWorker
