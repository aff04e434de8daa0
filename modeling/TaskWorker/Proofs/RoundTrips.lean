import TaskWorker.Overrides.Basic
import TaskWorker.Proofs.Moments
import TaskWorker.Proofs.Records
import TaskWorker.Proofs.Texts
import TaskWorker.Task.Wire
/-!
# The wire read back

Tasks, results and overrides are read back from what is written of them. As a document they always
are, however deep a payload nests. A text is read with two limits: brackets must not nest too deep,
and numbers of double precision are read from their digits, which may give a neighbour. Nothing but
the payload can be lost.

* `Spelling.word32_draft`, `Spelling.word64_draft`, `Spelling.list_draft`: counts and lists are read
  back; **`Spelling.shape_payload_iff`**: a record with a payload is if the payload is;
* `Task.build_fields`, `TaskResult.build_fields`: what is built is the task or the result with the
  payload that is read; `LogLine.shape_draft`, `Overrides.shape_draft`;
* `Json.Legible`, the payloads that a text keeps; `Json.legible_of_short`: those of few digits are;
  `Overrides.Whole`, the overrides that lose nothing; **`wire_read_back`**;
* `Task.not_read_of_nest`, `number_sampleFine`: payloads that a text does not keep.
-/

namespace TaskWorker

/-! ## Members -/

namespace Spelling

variable (σ : Spelling)

theorem draft_ofNat {n : Nat} (small : n < UInt64.size) : σ.draft (.ofNat n) = .int n := by
  have bound : UInt64.size = 18446744073709551616 := rfl
  refine σ.int_exact ?_
  simp only [Json.isExact, Bool.and_eq_true, decide_eq_true_eq]
  omega

theorem word64_draft (n : UInt64) : Shape.word64 (σ.draft (.ofNat n.toNat)) = .ok n := by
  have small := n.toNat_lt_size
  have read : Shape.natural UInt64.size (.int n.toNat) = .ok n.toNat := if_pos small
  rw [σ.draft_ofNat small, Shape.word64, read]
  exact congrArg Except.ok (UInt64.ofNat_toNat)

theorem word32_draft (n : UInt32) : Shape.word32 (σ.draft (.ofNat n.toNat)) = .ok n := by
  have small := n.toNat_lt_size
  have read : Shape.natural UInt32.size (.int n.toNat) = .ok n.toNat := if_pos small
  rw [σ.draft_ofNat (small.trans (by decide)), Shape.word32, read]
  exact congrArg Except.ok (UInt32.ofNat_toNat)

/-- A count that may be null is none. -/
theorem optional_draft {α : Type} {s : Shape α} {n : UInt64} {a : α}
    (read : s (σ.draft (.ofNat n.toNat)) = .ok a) :
    Shape.optional s (σ.draft (.ofNat n.toNat)) = .ok (some a) := by
  rw [σ.draft_ofNat n.toNat_lt_size] at read ⊢
  rw [Shape.optional, read]
  · rfl
  · nofun

theorem millis_draft (s : Span) :
    Span.millisShape (σ.draft s.millisJson) = .ok (.ofMillis s.storedMillis) := by
  rw [Span.millisShape, Span.millisJson, word64_draft]
  rfl

theorem seconds_draft (s : Span) :
    Span.secondsShape (σ.draft s.secondsJson) = .ok (.ofSeconds s.wholeSeconds) := by
  rw [Span.secondsShape, Span.secondsJson, word64_draft]
  rfl

/-- A list is read back if each of its elements is. -/
theorem list_draft {α : Type} {s : Shape α} {write : α → Json}
    (element : ∀ a, s (σ.draft (write a)) = .ok a) (as : List α) :
    Shape.list s (σ.draft (.arr (as.map write))) = .ok as := by
  have read : Shape.elements s (σ.draftItems (as.map write)) = .ok as := by
    induction as with
    | nil => rfl
    | cons a as ih =>
      simp only [List.map_cons, draftItems, Shape.elements, element, ih]
  simp only [draft, draftItems_eq_map] at read ⊢
  simp only [Shape.list, read]

section

variable {α : Type} {r : Record α} {fields : List (String × Option Json)} {room : Nat} {p : Json}
  {put : Json → α}

/-- **A record with a payload** is read as what its payload is read as. -/
theorem shape_payload_eq_ok (reads : r.Reads fields)
    (built : r.build (σ.members fields) = (Draft.toJson room (σ.draft p)).map put) {a : α} :
    r.shape (σ.draft (.record fields)) = .ok a ↔
      ∃ j, Draft.toJson room (σ.draft p) = .ok j ∧ put j = a := by
  rw [σ.shape_record_eq_ok reads, built]
  cases Draft.toJson room (σ.draft p) with
  | error f => exact ⟨nofun, nofun⟩
  | ok j => simp [Except.map]

/-- It is read back exactly if its payload is. -/
theorem shape_payload_iff (reads : r.Reads fields)
    (built : r.build (σ.members fields) = (Draft.toJson room (σ.draft p)).map put)
    (only : ∀ j, put j = put p → j = p) (normal : p.Normal) :
    r.shape (σ.draft (.record fields)) = .ok (put p) ↔
      p.depth ≤ room ∧ ∀ d ∈ p.doubles, σ.double d = .double d := by
  rw [σ.shape_payload_eq_ok reads built, ← σ.toJson_draft_iff room normal]
  constructor
  · rintro ⟨j, read, same⟩
    rw [only j same] at read
    exact read
  · exact fun read => ⟨p, read, rfl⟩

end

end Spelling

/-! ## Tasks -/

namespace Task

variable (σ : Spelling) (room : Nat)

theorem reads_fields (t : Task) : (record room).Reads t.fields where
  sound := by
    unfold record
    apply_rules [Record.Sound.seq, Record.Sound.map, Record.sound_member]
  unique := by
    show ((default : Task).fields.map Prod.fst).Nodup
    decide
  names := rfl

/-- **What is built of a written task** is the task with the payload that is read. -/
theorem build_fields (t : Task) : (record room).build (σ.members t.fields) =
    (Draft.toJson room (σ.draft t.input)).map fun j => { t with input := j } := by
  have reads := reads_fields room t
  have id : (Record.required "taskId" .text).build (σ.members t.fields) = .ok t.id :=
    σ.build_text _ reads rfl _
  have type : (Record.required "taskType" .text).build (σ.members t.fields) = .ok t.type :=
    σ.build_text _ reads rfl _
  have workflow : (Record.required "workflowInstanceId" .text).build (σ.members t.fields) =
      .ok t.workflow :=
    σ.build_text _ reads rfl _
  have input : (Record.default "inputData" (.payload room) .null).build (σ.members t.fields) =
      Draft.toJson room (σ.draft t.input) :=
    σ.build_present (.payload room) _ _ reads rfl
  have domain : (Record.optional "domain" .text).build (σ.members t.fields) = .ok t.domain :=
    σ.build_text? _ reads rfl
  have polls : (Record.default "pollCount" .word32 0).build (σ.members t.fields) =
      .ok t.pollCount :=
    (σ.build_present _ _ _ reads rfl).trans (σ.word32_draft t.pollCount)
  have retries : (Record.default "retryCount" .word32 0).build (σ.members t.fields) =
      .ok t.retryCount :=
    (σ.build_present _ _ _ reads rfl).trans (σ.word32_draft t.retryCount)
  have worker : (Record.optional "workerId" .text).build (σ.members t.fields) = .ok t.workerId :=
    σ.build_text? _ reads rfl
  simp only [record, Record.build_seq, Record.build_map, id, type, workflow, input, domain, polls,
    retries, worker]
  cases Draft.toJson room (σ.draft t.input) <;> rfl

theorem shape_draft_eq_ok {t u : Task} : shapeWithin room (σ.draft t.toJson) = .ok u ↔
    ∃ j, Draft.toJson room (σ.draft t.input) = .ok j ∧ { t with input := j } = u :=
  σ.shape_payload_eq_ok (reads_fields room t) (build_fields σ room t)

theorem shape_draft_iff {t : Task} (normal : t.input.Normal) :
    shapeWithin room (σ.draft t.toJson) = .ok t ↔
      t.input.depth ≤ room ∧ ∀ d ∈ t.input.doubles, σ.double d = .double d :=
  σ.shape_payload_iff (reads_fields room t) (build_fields σ room t)
    (fun _ same => congrArg input same) normal

end Task

/-! ## Results -/

theorem TaskStatus.shape_draft (σ : Spelling) (s : TaskStatus) :
    TaskStatus.shape (σ.draft s.toJson) = .ok s := by
  rw [toJson, Spelling.draft, shape, named, ofName?_name]

namespace LogLine

variable (σ : Spelling)

theorem reads_fields (l : LogLine) : record.Reads l.fields where
  sound := by
    unfold record
    apply_rules [Record.Sound.seq, Record.Sound.map, Record.sound_member]
  unique := by
    show ["log", "createdTime"].Nodup
    decide
  names := rfl

theorem momentShape_draft (m : Moment) : momentShape (σ.draft (.str m.text)) = .ok m := by
  simp only [Spelling.draft, momentShape, Shape.text, Moment.ofText?_text]

/-- **A log line is read back.** -/
theorem shape_draft (l : LogLine) : shape (σ.draft l.toJson) = .ok l := by
  have reads := reads_fields l
  have text : (Record.required "log" .text).build (σ.members l.fields) = .ok l.text :=
    σ.build_text _ reads rfl _
  have time : (Record.required "createdTime" momentShape).build (σ.members l.fields) =
      .ok l.time :=
    (σ.build_present _ _ _ reads rfl).trans (momentShape_draft σ l.time)
  rw [shape, toJson, σ.shape_record_eq_ok reads]
  simp only [record, Record.build_seq, Record.build_map, text, time]
  rfl

end LogLine

namespace TaskResult

variable (σ : Spelling) (room : Nat)

theorem reads_fields (r : TaskResult) : (record room).Reads r.fields where
  sound := by
    unfold record
    apply_rules [Record.Sound.seq, Record.Sound.map, Record.sound_member]
  unique := by
    show ((default : TaskResult).fields.map Prod.fst).Nodup
    decide
  names := rfl

/-- A log is read back, also when it is empty and left out. -/
theorem build_logs (r : TaskResult) :
    (Record.default "logs" (.list LogLine.shape) []).build (σ.members r.fields) = .ok r.logs := by
  refine (σ.build_member _ _ _ (reads_fields 0 r) rfl).trans ?_
  split_ifs with empty
  · rw [List.isEmpty_iff.mp empty]
    rfl
  · exact σ.list_draft (LogLine.shape_draft σ) r.logs

/-- **What is built of a written result** is the result with the payload that is read. -/
theorem build_fields (r : TaskResult) : (record room).build (σ.members r.fields) =
    (Draft.toJson room (σ.draft r.output)).map fun j => { r with output := j } := by
  have reads := reads_fields room r
  have id : (Record.required "taskId" .text).build (σ.members r.fields) = .ok r.taskId :=
    σ.build_text _ reads rfl _
  have workflow : (Record.required "workflowInstanceId" .text).build (σ.members r.fields) =
      .ok r.workflow :=
    σ.build_text _ reads rfl _
  have worker : (Record.optional "workerId" .text).build (σ.members r.fields) = .ok r.workerId :=
    σ.build_text? _ reads rfl
  have status : (Record.required "status" TaskStatus.shape).build (σ.members r.fields) =
      .ok r.status :=
    (σ.build_present _ _ _ reads rfl).trans (TaskStatus.shape_draft σ r.status)
  have output : (Record.default "outputData" (.payload room) .null).build (σ.members r.fields) =
      Draft.toJson room (σ.draft r.output) :=
    σ.build_present (.payload room) _ _ reads rfl
  have reason : (Record.optional "reasonForIncompletion" .text).build (σ.members r.fields) =
      .ok r.reason :=
    σ.build_text? _ reads rfl
  have callback : (Record.default "callbackAfterSeconds" .word64 0).build (σ.members r.fields) =
      .ok r.callbackSeconds :=
    (σ.build_present _ _ _ reads rfl).trans (σ.word64_draft r.callbackSeconds)
  simp only [record, Record.build_seq, Record.build_map, id, workflow, worker, status, output,
    reason, callback, build_logs σ r]
  cases Draft.toJson room (σ.draft r.output) <;> rfl

theorem shape_draft_eq_ok {r q : TaskResult} : shapeWithin room (σ.draft r.toJson) = .ok q ↔
    ∃ j, Draft.toJson room (σ.draft r.output) = .ok j ∧ { r with output := j } = q :=
  σ.shape_payload_eq_ok (reads_fields room r) (build_fields σ room r)

theorem shape_draft_iff {r : TaskResult} (normal : r.output.Normal) :
    shapeWithin room (σ.draft r.toJson) = .ok r ↔
      r.output.depth ≤ room ∧ ∀ d ∈ r.output.doubles, σ.double d = .double d :=
  σ.shape_payload_iff (reads_fields room r) (build_fields σ room r)
    (fun _ same => congrArg output same) normal

end TaskResult

/-! ## Overrides -/

namespace Overrides

variable (σ : Spelling)

theorem reads_fields (o : Overrides) : record.Reads o.fields where
  sound := by
    unfold record
    apply_rules [Record.Sound.seq, Record.Sound.map, Record.sound_member]
  unique := by
    show ((default : Overrides).fields.map Prod.fst).Nodup
    decide
  names := rfl

/-- **What is read of written overrides**: the interval has lost what is less than a millisecond. -/
theorem shape_draft (o : Overrides) : shape (σ.draft o.toJson) =
    .ok { o with interval := o.interval.map fun s => .ofMillis s.storedMillis } := by
  have reads := reads_fields o
  have slots : (Record.nullable "thread_count" .word64).build (σ.members o.fields) =
      .ok o.slots := by
    refine (σ.build_present _ _ _ reads rfl).trans ?_
    cases o.slots with
    | none => rfl
    | some n => exact σ.optional_draft (σ.word64_draft n)
  have interval : (Record.optional "polling_interval" Span.millisShape).build
      (σ.members o.fields) = .ok (o.interval.map fun s => .ofMillis s.storedMillis) := by
    refine (σ.build_present _ _ _ reads rfl).trans ?_
    cases o.interval with
    | none => rfl
    | some s => exact σ.optional_draft (σ.millis_draft s)
  have domain : (Record.nullable "domain" .text).build (σ.members o.fields) = .ok o.domain := by
    refine (σ.build_present _ _ _ reads rfl).trans ?_
    cases o.domain <;> rfl
  rw [shape, toJson, σ.shape_record_eq_ok reads]
  simp only [record, Record.build_seq, Record.build_map, slots, interval, domain]
  rfl

/-- An interval that is stored without a loss. -/
def Whole (o : Overrides) : Prop :=
  ∀ s ∈ o.interval, s.nanos % 1_000_000 = 0 ∧ s.wholeMillis < UInt64.size

theorem interval_of_whole {o : Overrides} (whole : o.Whole) :
    (o.interval.map fun s => Span.ofMillis s.storedMillis) = o.interval := by
  cases here : o.interval with
  | none => rfl
  | some s =>
    obtain ⟨exact, fits⟩ := whole s here
    exact congrArg some (Span.ofMillis_wholeMillis fits exact)

theorem shape_draft_of_whole {o : Overrides} (whole : o.Whole) :
    shape (σ.draft o.toJson) = .ok o := by
  rw [shape_draft, interval_of_whole whole]

end Overrides

/-! ## Documents and texts -/

/-- A payload that a text keeps: its brackets nest no deeper than a text is read, and its numbers of
double precision are read back from their digits. -/
structure Json.Legible (j : Json) : Prop where
  shallow : j.depth ≤ payloadRoom
  steady : ∀ d ∈ j.doubles, (Reader.number d.text).1 = .double d

theorem Json.legible_iff {j : Json} : j.Legible ↔
    j.depth ≤ payloadRoom ∧ ∀ d ∈ j.doubles, Reader.written.double d = .double d :=
  ⟨fun legible => ⟨legible.shallow, legible.steady⟩, fun both => ⟨both.1, both.2⟩⟩

/-- **Numbers of few digits are kept.** -/
theorem Json.legible_of_short {j : Json} (shallow : j.depth ≤ payloadRoom)
    (short : ∀ d ∈ j.doubles, d.Short) : j.Legible where
  shallow := shallow
  steady d mem := congrArg Prod.fst (Double.number_of_short (short d mem))

theorem Json.get?_record {fields : List (String × Option Json)}
    (unique : (fields.map Prod.fst).Nodup) (k : String) :
    (Json.record fields).get? k = (valueOf? k fields).join :=
  valueOf?_filterMap unique k

/-- A document is read as the draft that it is on its own. -/
theorem as?_eq_some {α : Type} {s : Shape α} {j : Json} {a : α}
    (read : s (Spelling.plain.draft j) = .ok a) : j.as? s = some a := by
  rw [Spelling.draft_plain] at read
  rw [Json.as?, read]
  rfl

namespace Task

variable {t : Task}

theorem as?_toJson (normal : t.input.Normal) {room : Nat} (deep : t.input.depth ≤ room) :
    t.toJson.as? (shapeWithin room) = some t :=
  as?_eq_some ((shape_draft_iff .plain room normal).mpr ⟨deep, fun _ _ => rfl⟩)

theorem read_text_iff (normal : t.input.Normal) :
    Document.read shape t.toJson.text = .ok t ↔ t.input.Legible := by
  rw [Document.read_text, Json.legible_iff]
  exact shape_draft_iff Reader.written payloadRoom normal

/-- Nothing but the payload can be read as something else. -/
theorem eq_of_read_text {u : Task} (read : Document.read shape t.toJson.text = .ok u) :
    u = { t with input := u.input } := by
  rw [Document.read_text] at read
  obtain ⟨j, -, rfl⟩ := (shape_draft_eq_ok Reader.written payloadRoom).mp read
  rfl

/-- A domain or a worker id that is not there is left out. -/
theorem get?_toJson (t : Task) : t.toJson.get? "domain" = t.domain.map .str ∧
    t.toJson.get? "workerId" = t.workerId.map .str := by
  have unique := (reads_fields 0 t).unique
  exact ⟨(Json.get?_record unique _).trans rfl, (Json.get?_record unique _).trans rfl⟩

end Task

namespace TaskResult

variable {r : TaskResult}

theorem as?_toJson (normal : r.output.Normal) {room : Nat} (deep : r.output.depth ≤ room) :
    r.toJson.as? (shapeWithin room) = some r :=
  as?_eq_some ((shape_draft_iff .plain room normal).mpr ⟨deep, fun _ _ => rfl⟩)

theorem read_text_iff (normal : r.output.Normal) :
    Document.read shape r.toJson.text = .ok r ↔ r.output.Legible := by
  rw [Document.read_text, Json.legible_iff]
  exact shape_draft_iff Reader.written payloadRoom normal

/-- Nothing but the payload can be read as something else. -/
theorem eq_of_read_text {q : TaskResult} (read : Document.read shape r.toJson.text = .ok q) :
    q = { r with output := q.output } := by
  rw [Document.read_text] at read
  obtain ⟨j, -, rfl⟩ := (shape_draft_eq_ok Reader.written payloadRoom).mp read
  rfl

/-- A worker id or a reason that is not there is left out, and so is an empty log. -/
theorem get?_toJson (r : TaskResult) : r.toJson.get? "workerId" = r.workerId.map .str ∧
    r.toJson.get? "reasonForIncompletion" = r.reason.map .str ∧
    (r.toJson.get? "logs" = none ↔ r.logs = []) := by
  have unique := (reads_fields 0 r).unique
  refine ⟨(Json.get?_record unique _).trans rfl, (Json.get?_record unique _).trans rfl, ?_⟩
  have logs : r.toJson.get? "logs" =
      if r.logs.isEmpty then none else some (.arr (r.logs.map LogLine.toJson)) :=
    (Json.get?_record unique _).trans rfl
  rw [logs, ← List.isEmpty_iff]
  split_ifs with empty <;> simp [empty]

end TaskResult

/-- **What is written on the wire is read back.** As documents, all tasks and results are, and all
overrides whose interval is stored without a loss. As texts, tasks and results are read back exactly
if their payload is legible, and it is if its brackets do not nest too deep and its numbers of
double precision have few digits. What is not there is left out. -/
theorem wire_read_back :
    (∀ t : Task, t.input.Normal →
      (∀ room, t.input.depth ≤ room → t.toJson.as? (Task.shapeWithin room) = some t) ∧
      (Document.read Task.shape t.toJson.text = .ok t ↔ t.input.Legible) ∧
      (∀ u, Document.read Task.shape t.toJson.text = .ok u → u = { t with input := u.input }) ∧
      t.toJson.get? "domain" = t.domain.map .str ∧
      t.toJson.get? "workerId" = t.workerId.map .str) ∧
    (∀ r : TaskResult, r.output.Normal →
      (∀ room, r.output.depth ≤ room → r.toJson.as? (TaskResult.shapeWithin room) = some r) ∧
      (Document.read TaskResult.shape r.toJson.text = .ok r ↔ r.output.Legible) ∧
      (∀ q, Document.read TaskResult.shape r.toJson.text = .ok q →
        q = { r with output := q.output }) ∧
      r.toJson.get? "workerId" = r.workerId.map .str ∧
      r.toJson.get? "reasonForIncompletion" = r.reason.map .str ∧
      (r.toJson.get? "logs" = none ↔ r.logs = [])) ∧
    (∀ o : Overrides, o.Whole →
      o.toJson.as? Overrides.shape = some o ∧
      Document.read Overrides.shape o.toJson.text = .ok o) ∧
    (∀ j : Json, j.depth ≤ payloadRoom → (∀ d ∈ j.doubles, d.Short) → j.Legible) := by
  refine ⟨fun t normal => ⟨fun room => t.as?_toJson normal, t.read_text_iff normal,
      fun _ => t.eq_of_read_text, t.get?_toJson⟩,
    fun r normal => ⟨fun room => r.as?_toJson normal, r.read_text_iff normal,
      fun _ => r.eq_of_read_text, r.get?_toJson⟩,
    fun o whole => ⟨?_, ?_⟩, fun _ => Json.legible_of_short⟩
  · exact as?_eq_some (Overrides.shape_draft_of_whole .plain whole)
  · rw [Document.read_text]
    exact Overrides.shape_draft_of_whole Reader.written whole

/-! ## Samples -/

/-- One half. -/
def sampleHalf : Double := ⟨false, 1 <<< 1073⟩

theorem short_sampleHalf : sampleHalf.Short :=
  have digits : Double.shortest sampleHalf.units = ⟨5, -1⟩ := by decide +kernel
  .inr ⟨Double.isNumber_shiftLeft (by decide) 1073, digits ▸ ⟨by decide, by decide⟩⟩

def samplePayload : Json := .obj [("goods", .arr [.double sampleHalf, .null]), ("pieces", .int 7)]

theorem normal_samplePayload : samplePayload.Normal := by
  have goods : (Json.arr [.double sampleHalf, .null]).Normal := by
    refine .arr _ ?_
    rintro j (_ | ⟨_, _ | ⟨_, ⟨⟩⟩⟩)
    · exact .double sampleHalf
    · exact .null
  have order :
      Increasing [("goods", Json.arr [.double sampleHalf, .null]), ("pieces", .int 7)] := by
    show ["goods", "pieces"].Pairwise (· < ·)
    decide
  refine .obj _ order ?_
  rintro m (_ | ⟨_, _ | ⟨_, ⟨⟩⟩⟩)
  · exact goods
  · exact .int 7 (by decide)

/-- A task without a domain and with a worker id that is empty. -/
def sampleSent : Task := ⟨"t1", "parcel", "w1", samplePayload, none, 3, 0, some ""⟩

/-- A failure whose log has a line in the sixty-first second of a minute. -/
def sampleFailure : TaskResult :=
  .failed sampleSent "torn \x07" ⟨⟨2016, 12, 31⟩, 1439, 60, 5000000, by decide⟩

def sampleOverrides : Overrides := ⟨none, some (.ofMillis 250), some "north"⟩

theorem sample_wire_read_back :
    (sampleSent.toJson.as? (Task.shapeWithin 2) = some sampleSent ∧
      Document.read Task.shape sampleSent.toJson.text = .ok sampleSent) ∧
    (sampleFailure.toJson.as? (TaskResult.shapeWithin 0) = some sampleFailure ∧
      Document.read TaskResult.shape sampleFailure.toJson.text = .ok sampleFailure) ∧
    (sampleOverrides.toJson.as? Overrides.shape = some sampleOverrides ∧
      Document.read Overrides.shape sampleOverrides.toJson.text = .ok sampleOverrides) := by
  have whole : sampleOverrides.Whole := by
    rintro s ⟨⟩
    exact ⟨rfl, by decide⟩
  obtain ⟨tasks, results, overrides, short⟩ := wire_read_back
  have payload : samplePayload.Legible :=
    short samplePayload (by decide) (List.forall_mem_singleton.mpr short_sampleHalf)
  obtain ⟨deep, text, -⟩ := tasks sampleSent normal_samplePayload
  obtain ⟨deep', text', -⟩ := results sampleFailure .null
  exact ⟨⟨deep 2 (by decide), text.mpr payload⟩,
    ⟨deep' 0 (by decide), text'.mpr (short .null (by decide) nofun)⟩,
    overrides sampleOverrides whole⟩

/-! ### Payloads that a text does not keep -/

/-- Brackets, one in the other. -/
def Json.nest : Nat → Json
  | 0 => .arr []
  | n + 1 => .arr [nest n]

theorem Json.normal_nest (n : Nat) : (nest n).Normal := by
  induction n with
  | zero => exact .arr _ nofun
  | succ n ih => exact .arr _ fun j mem => List.mem_singleton.mp mem ▸ ih

/-- What nests too deep is refused. -/
theorem Spelling.toJson_nest (σ : Spelling) {n room : Nat} (deep : room ≤ n) :
    Draft.toJson room (σ.draft (.nest n)) = .error .malformed := by
  induction n generalizing room with
  | zero =>
    rw [Nat.le_zero.mp deep]
    rfl
  | succ n ih =>
    cases room with
    | zero => rfl
    | succ room =>
      have inner := ih (Nat.le_of_succ_le_succ deep)
      simp only [Json.nest, draft, draftItems, Draft.toJson, Draft.itemsToJson, inner]

theorem Task.not_read_of_nest {t u : Task} {n : Nat} (deep : payloadRoom ≤ n)
    (input : t.input = .nest n) : Document.read Task.shape t.toJson.text ≠ .ok u := by
  rw [Document.read_text]
  intro read
  obtain ⟨j, inner, -⟩ := (shape_draft_eq_ok Reader.written payloadRoom).mp read
  rw [input, Reader.written.toJson_nest deep] at inner
  cases inner

/-- A number a little below 0.9452706955539224. -/
def sampleFine : Double := ⟨false, 2128560376130447 <<< 1023⟩

def sampleNeighbour : Double := ⟨false, 8514241504521789 <<< 1021⟩

theorem number_sampleFine : (Reader.number sampleFine.text).1 = .double sampleNeighbour := by
  have digits : Double.shortest sampleFine.units = ⟨9452706955539223, -16⟩ := by decide +kernel
  have scaled : Double.scaled? 9452706955539223 (-16) = some sampleNeighbour.units := by
    decide +kernel
  have positive : sampleFine.units ≠ 0 := by decide +kernel
  refine congrArg Prod.fst (Double.number_eq positive fun n e spells => ?_)
  rw [digits] at spells
  obtain ⟨rfl, rfl⟩ := spells.resolve_right fun front => absurd front.1 (by decide)
  exact ⟨by decide, scaled⟩

/-- A task whose payload is 127 brackets, one in the other. -/
def sampleDeep : Task := .new "t1" "parcel" "w1" (.nest 126)

/-- A task whose payload is a number. -/
def sampleWeight (d : Double) : Task := .new "t1" "parcel" "w1" (.double d)

/-- Brackets that nest 127 deep are refused, and a number may be read as its neighbour. -/
theorem sample_not_read_back :
    sampleDeep.input.Normal ∧
    (∀ u, Document.read Task.shape sampleDeep.toJson.text ≠ .ok u) ∧
    sampleFine ≠ sampleNeighbour ∧
    Document.read Task.shape (sampleWeight sampleFine).toJson.text =
      .ok (sampleWeight sampleNeighbour) := by
  have draft : Reader.written.draft (.double sampleFine) = .double sampleNeighbour :=
    (Reader.written_double sampleFine).trans number_sampleFine
  refine ⟨Json.normal_nest 126, fun u => Task.not_read_of_nest (Nat.le_refl 126) rfl,
    by decide +kernel, ?_⟩
  rw [Document.read_text]
  refine (Task.shape_draft_eq_ok Reader.written payloadRoom).mpr ⟨.double sampleNeighbour, ?_, rfl⟩
  rw [sampleWeight, Task.new, draft, Draft.toJson]

end TaskWorker
