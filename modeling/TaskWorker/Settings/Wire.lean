import TaskWorker.Settings.Basic
import TaskWorker.Time.Stored
/-!
# Settings in writing

Settings are a JSON record whose members may all be left out. The retry pause is kept in whole
milliseconds and the grace period in whole seconds.

* `Settings.toJson`, `Settings.shape`.
-/

namespace TaskWorker.Settings

/-- What settings say in writing: the pause in whole milliseconds, the grace period in whole
seconds. -/
def fields (s : Settings) : List (String × Option Json) := [
  ("worker_id", some (.str s.workerId)),
  ("shared_thread_count", some (match s.sharedSlots with
    | none => .null
    | some n => .ofNat n.toNat)),
  ("per_type_thread_count", some (.ofTable (fun n => .ofNat n.toNat) s.slotsPerType)),
  ("sleep_when_retry", some s.retryPause.millisJson),
  ("update_retry_count", some (.ofNat s.retries.toNat)),
  ("shutdown_grace_period", some s.gracePeriod.secondsJson),
  ("task_to_domain", some (.ofTable .str s.domains)),
  ("worker_name_prefix", some (.str s.namePattern))]

/-- Settings as a record. -/
def toJson (s : Settings) : Json := .record s.fields

/-- The members of settings; each may be left out for its standard. -/
def record (freshId : String) : Record Settings :=
  let s := standard freshId
  mk <$> .default "worker_id" .text s.workerId
    <*> .optional "shared_thread_count" .word64
    <*> .default "per_type_thread_count" (.table .word64) s.slotsPerType
    <*> .default "sleep_when_retry" Span.millisShape s.retryPause
    <*> .default "update_retry_count" .word32 s.retries
    <*> .default "shutdown_grace_period" Span.secondsShape s.gracePeriod
    <*> .default "task_to_domain" (.table .text) s.domains
    <*> .default "worker_name_prefix" .text s.namePattern

/-- Reads settings; `freshId` is the worker id if none is given. -/
def shape (freshId : String) : Shape Settings := (record freshId).shape

end TaskWorker.Settings
