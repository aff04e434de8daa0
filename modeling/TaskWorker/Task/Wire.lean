import TaskWorker.Json.Shape
import TaskWorker.Task.Basic
/-!
# Tasks and results on the wire

Tasks and results travel as JSON records. Domains, worker ids and reasons that are not there are
left out, and so is an empty log; all of them may be left out of what is read. Payloads, which are a
task's input and a result's output, are null when they are left out.

* `Task.toJson`, `Task.shape`; `TaskResult.toJson`, `TaskResult.shape`, for texts;
  `Task.shapeWithin`, `TaskResult.shapeWithin`, where payloads may nest as deep as one likes;
* `TaskStatus.shape`: a status is its name, or an object with the name as its one member and null as
  its value;
* `LogLine.toJson`, `LogLine.shape`, where moments are texts.
-/

namespace TaskWorker

/-- How deep brackets may nest in a payload of a text: the record around it is one of 127 levels. -/
def payloadRoom : Nat := 126

/-! ## Statuses -/

namespace TaskStatus

/-- The status of a name, or the fault of a wrong one. -/
def named (s : String) : Except Fault TaskStatus :=
  match ofName? s with
  | some st => .ok st
  | none => .error .misshapen

/-- The value that goes with a status in the long form. -/
def unit : Draft → Except Fault Unit
  | .null => .ok ()
  | d => Shape.refuse d

/-- A status in either form; anything else stands in the place of a name, so it is malformed. -/
def shape : Shape TaskStatus
  | .str s => named s
  | .obj [] none => .error .malformed
  | .obj [] (some gap) => .error gap.read
  | .obj ((k, d) :: more) gap =>
    match named k, unit d with
    | .error f, _ => .error f
    | .ok _, .error f => .error f
    | .ok st, .ok () =>
      match more, gap with
      | [], none => .ok st
      | [], some g => .error g.close
      | _ :: _, _ => .error .malformed
  | .broken _ f _ => .error f
  | _ => .error .malformed

/-- A status as its name. -/
def toJson (s : TaskStatus) : Json := .str s.name

end TaskStatus

/-! ## Tasks -/

namespace Task

/-- What a task says about itself in writing. -/
def fields (t : Task) : List (String × Option Json) := [
  ("taskId", some (.str t.id)),
  ("taskType", some (.str t.type)),
  ("workflowInstanceId", some (.str t.workflow)),
  ("inputData", some t.input),
  ("domain", t.domain.map .str),
  ("pollCount", some (.ofNat t.pollCount.toNat)),
  ("retryCount", some (.ofNat t.retryCount.toNat)),
  ("workerId", t.workerId.map .str)]

/-- A task as a record; what is not there is left out. -/
def toJson (t : Task) : Json := .record t.fields

/-- The members of a task, in whose input brackets nest at most `room` deep. -/
def record (room : Nat) : Record Task :=
  mk <$> .required "taskId" .text
    <*> .required "taskType" .text
    <*> .required "workflowInstanceId" .text
    <*> .default "inputData" (.payload room) .null
    <*> .optional "domain" .text
    <*> .default "pollCount" .word32 0
    <*> .default "retryCount" .word32 0
    <*> .optional "workerId" .text

/-- Reads a task, in whose input brackets nest at most `room` deep. -/
def shapeWithin (room : Nat) : Shape Task := (record room).shape

/-- Reads a task from a text. -/
def shape : Shape Task := shapeWithin payloadRoom

end Task

/-! ## Results -/

namespace LogLine

/-- What a log line says about itself in writing. -/
def fields (l : LogLine) : List (String × Option Json) :=
  [("log", some (.str l.text)), ("createdTime", some (.str l.time.text))]

/-- A log line as a record. -/
def toJson (l : LogLine) : Json := .record l.fields

/-- A moment in writing. -/
def momentShape : Shape Moment := fun d =>
  match Shape.text d with
  | .error f => .error f
  | .ok s =>
    match Moment.ofText? s with
    | some m => .ok m
    | none => .error .misshapen

/-- The members of a log line. -/
def record : Record LogLine := mk <$> .required "log" .text <*> .required "createdTime" momentShape

/-- Reads a log line. -/
def shape : Shape LogLine := record.shape

end LogLine

namespace TaskResult

/-- What a result says about itself in writing. -/
def fields (r : TaskResult) : List (String × Option Json) := [
  ("taskId", some (.str r.taskId)),
  ("workflowInstanceId", some (.str r.workflow)),
  ("workerId", r.workerId.map .str),
  ("status", some r.status.toJson),
  ("outputData", some r.output),
  ("reasonForIncompletion", r.reason.map .str),
  ("callbackAfterSeconds", some (.ofNat r.callbackSeconds.toNat)),
  ("logs", if r.logs.isEmpty then none else some (.arr (r.logs.map LogLine.toJson)))]

/-- A result as a record; what is not there is left out, and so is an empty log. -/
def toJson (r : TaskResult) : Json := .record r.fields

/-- The members of a result, in whose output brackets nest at most `room` deep. -/
def record (room : Nat) : Record TaskResult :=
  mk <$> .required "taskId" .text
    <*> .required "workflowInstanceId" .text
    <*> .optional "workerId" .text
    <*> .required "status" TaskStatus.shape
    <*> .default "outputData" (.payload room) .null
    <*> .optional "reasonForIncompletion" .text
    <*> .default "callbackAfterSeconds" .word64 0
    <*> .default "logs" (.list LogLine.shape) []

/-- Reads a result, in whose output brackets nest at most `room` deep. -/
def shapeWithin (room : Nat) : Shape TaskResult := (record room).shape

/-- Reads a result from a text. -/
def shape : Shape TaskResult := shapeWithin payloadRoom

end TaskResult

end TaskWorker
