import TaskWorker.Json.Shape
import TaskWorker.Task.Basic
import TaskWorker.Text.Quoted
/-!
# Handlers

A handler does the tasks of one type. Its work on a task returns a result, fails with an error, or
panics; each of these ends in exactly one result. Handlers made from closures, which know only
outputs, errors and panics, come in an asynchronous and a blocking kind.

* `HandlerError`, `Panic`, `Outcome`; **`Outcome.result`** is the result of a handler's work;
* `ClosureOutcome.async`, `ClosureOutcome.blocking`, the two kinds of closure handlers;
  `Outcome.ofThread`, how the thread of the second is joined;
* `Handler`, a task type with its polling interval and the logic behind it;
* `Payload.integers` reads a list of integers, `HandlerError.ofPayload` is the error of a bad one.
-/

namespace TaskWorker

/-- An error that a handler ends a task with. -/
structure HandlerError where
  message : String
  /-- Whether the task must not be tried again. -/
  terminal : Bool
  deriving DecidableEq, Repr, Inhabited

namespace HandlerError

/-- An error after which the task may be tried again. -/
def retryable (message : String) : HandlerError := ⟨message, false⟩

/-- An error that ends the task for good. -/
def final (message : String) : HandlerError := ⟨message, true⟩

/-- A chain of causes, the innermost first, told from the outside in. -/
def ofChain (causes : List String) : HandlerError :=
  retryable (String.intercalate ": " causes.reverse)

/-- The result of a task that ended with an error. -/
def result (e : HandlerError) (task : Task) (now : Moment) : TaskResult :=
  if e.terminal then .failedTerminally task e.message now else .failed task e.message now

/-- An error as a record. -/
def toJson (e : HandlerError) : Json :=
  .record [("message", some (.str e.message)), ("terminal", some (.bool e.terminal))]

/-- Reads an error. -/
def shape : Shape HandlerError :=
  (mk <$> Record.required "message" Shape.text <*> Record.required "terminal" Shape.flag).shape

end HandlerError

/-- What a panic carries. -/
inductive Panic where
  /-- A text that stands in the program. -/
  | literal (s : String)
  /-- A text that was put together. -/
  | text (s : String)
  | other
  deriving DecidableEq, Repr, Inhabited

namespace Panic

/-- What a panic has to say. -/
def message : Panic → String
  | .literal s => s
  | .text s => s
  | .other => "unknown panic"

/-- The reason of a task whose handler panicked. -/
def reason (p : Panic) : String := "handler panicked: " ++ p.message

end Panic

/-- How the work of a handler on a task ends, once the handler has taken the task. A panic of this
work is caught. A handler that panics as it takes the task does no work that could end: that panic
is an event of the host (`Host.Event.executionPanics`). -/
inductive Outcome where
  | returned (r : TaskResult)
  | failed (e : HandlerError)
  | panicked (p : Panic)
  deriving Inhabited, Repr

/-- **The result of a handler's work.** -/
def Outcome.result (task : Task) (now : Moment) : Outcome → TaskResult
  | .returned r => r
  | .failed e => e.result task now
  | .panicked p => .failed task p.reason now

/-! ## Closures -/

/-- How a closure ends. -/
inductive ClosureOutcome where
  | output (j : Json)
  | error (e : HandlerError)
  | panic (p : Panic)
  deriving Inhabited, Repr

/-- Why a thread gives nothing back. -/
inductive JoinError where
  | panicked (p : Panic)
  /-- The thread was given up before it began. -/
  | cancelled
  deriving DecidableEq, Repr

/-- The wording of an error. -/
def JoinError.message : JoinError → String
  | .panicked p => "handler panicked: " ++ p.message
  | .cancelled => "handler was cancelled"

/-- How an execution ends that waits for the thread of its closure. -/
def Outcome.ofThread (task : Task) : Except JoinError (Except HandlerError Json) → Outcome
  | .ok (.ok j) => .returned (.completed task j)
  | .ok (.error e) => .failed e
  | .error e => .failed (.retryable e.message)

namespace ClosureOutcome

/-- A closure that runs among other tasks: its panic is the panic of the execution, whether it has
waited for something before or not. -/
def async (task : Task) : ClosureOutcome → Outcome
  | .output j => .returned (.completed task j)
  | .error e => .failed e
  | .panic p => .panicked p

/-- What the thread of a closure gives back: its panic ends the thread only. -/
def thread : ClosureOutcome → Except JoinError (Except HandlerError Json)
  | .output j => .ok (.ok j)
  | .error e => .ok (.error e)
  | .panic p => .error (.panicked p)

/-- A closure that runs on a thread of its own: its panic comes back as an error. -/
def blocking (task : Task) (c : ClosureOutcome) : Outcome := .ofThread task c.thread

end ClosureOutcome

/-! ## Handlers -/

/-- A handler of one task type, with the logic that does its tasks. -/
structure Handler (α : Type) where
  taskType : String
  /-- How long a poll loop waits before each poll. -/
  interval : Span
  logic : α
  deriving Repr

namespace Handler

/-- The polling interval of a handler that does not say otherwise. -/
def usualInterval : Span := .ofMillis 1000

/-- The handler under another polling interval. -/
def every {α : Type} (h : Handler α) (interval : Span) : Handler α := { h with interval }

end Handler

/-! ## Payloads -/

namespace Payload

/-- What is wrong with a payload that should be a list of integers. -/
inductive Error where
  /-- The payload is no list. -/
  | noList (found : Json)
  /-- An element is no integer. -/
  | noInteger (found : Json)
  /-- An element does not fit into 64 bits with a sign. -/
  | tooLarge (n : Int)
  deriving Repr

/-- How a document is named in a message. -/
def kindOf : Json → String
  | .null => "null"
  | .bool b => "boolean `" ++ (if b then "true" else "false") ++ "`"
  | .int n => "integer `" ++ toString n ++ "`"
  | .double d => "floating point `" ++ String.ofList d.text ++ "`"
  | .str s => "string " ++ Text.quote s
  | .arr _ => "sequence"
  | .obj _ => "map"

/-- The wording of a fault. -/
def Error.message : Error → String
  | .noList found => "invalid type: " ++ kindOf found ++ ", expected a sequence"
  | .noInteger found => "invalid type: " ++ kindOf found ++ ", expected i64"
  | .tooLarge n => "invalid value: integer `" ++ toString n ++ "`, expected i64"

/-- An integer of 64 bits with a sign. -/
def integer : Json → Except Error Int
  | .int n =>
    if -0x8000000000000000 ≤ n ∧ n ≤ 0x7fffffffffffffff then .ok n else .error (.tooLarge n)
  | j => .error (.noInteger j)

/-- A list of integers. -/
def integers : Json → Except Error (List Int)
  | .arr items => items.mapM integer
  | j => .error (.noList j)

/-- The sum of integers, modulo 2⁶⁴. -/
def sum (ns : List Int) : Int := (ns.foldl (fun s n => s + Int64.ofInt n) 0).toInt

end Payload

/-- The error of a bad payload. -/
def HandlerError.ofPayload (e : Payload.Error) : HandlerError :=
  .final ("invalid task payload: " ++ e.message)

end TaskWorker
