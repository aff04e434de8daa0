import TaskWorker.Proofs.RoundTrips
import TaskWorker.Settings.Wire
/-!
# Settings read back

Settings are read back from what is written of them, as a document and as a text, with a pause of
whole milliseconds and a grace period of whole seconds. The grace period is rounded down. So is the
pause if its milliseconds fit into 64 bits; of a longer one only the last 64 bits are kept.

* `Spelling.table_draft`: tables are read back;
* `Settings.stored`, what is kept of settings; `Settings.shape_draft`, **`Settings.read_back`**: it
  is what is read;
* `Settings.stored_stored`: nothing is lost twice; **`Settings.validate_stored`**: what is kept is
  as good as the settings were;
* `Span.nanos_ofSeconds_wholeSeconds`, **`Span.nanos_ofMillis_storedMillis_iff`**: what is rounded
  down and what is not; `Settings.sample_stored`.
-/

namespace TaskWorker

namespace Span

/-- **Whole seconds are always rounded down.** -/
theorem nanos_ofSeconds_wholeSeconds (s : Span) :
    (ofSeconds s.wholeSeconds).nanos = s.nanos / 1_000_000_000 * 1_000_000_000 := by
  have bound := s.bounded
  have fits : s.nanos / 1_000_000_000 < UInt64.size := by omega
  show (UInt64.ofNat (s.nanos / 1_000_000_000)).toNat * _ = _
  rw [UInt64.toNat_ofNat_of_lt' fits]

/-- Of whole milliseconds 64 bits are kept. -/
theorem nanos_ofMillis_storedMillis (s : Span) :
    (ofMillis s.storedMillis).nanos = s.wholeMillis % UInt64.size * 1_000_000 := by
  show (UInt64.ofNat s.wholeMillis).toNat * _ = _
  rw [UInt64.toNat_ofNat']

/-- **Whole milliseconds are rounded down** exactly if 64 bits hold them. -/
theorem nanos_ofMillis_storedMillis_iff (s : Span) :
    (ofMillis s.storedMillis).nanos = s.nanos / 1_000_000 * 1_000_000 ↔
      s.wholeMillis < UInt64.size := by
  rw [nanos_ofMillis_storedMillis, wholeMillis]
  have small := Nat.mod_lt (s.nanos / 1_000_000) (by decide : 0 < UInt64.size)
  constructor
  · intro same
    omega
  · intro fits
    rw [Nat.mod_eq_of_lt fits]

end Span

namespace Spelling

variable (σ : Spelling)

theorem entries_draft {α : Type} {s : Shape α} {write : α → Json}
    (element : ∀ a, s (σ.draft (write a)) = .ok a) (es : List (String × α)) (t : Table α) :
    Shape.entries s t (σ.draftMembers (es.map fun e => (e.1, write e.2))) =
      .ok (es.foldl (fun t e => t.insert e.1 e.2) t) := by
  induction es generalizing t with
  | nil => rfl
  | cons e es ih =>
    simp only [List.map_cons, draftMembers, Shape.entries, element, ih, List.foldl_cons]

/-- A table is read back if each of its values is. -/
theorem table_draft {α : Type} {s : Shape α} {write : α → Json}
    (element : ∀ a, s (σ.draft (write a)) = .ok a) (t : Table α) :
    Shape.table s (σ.draft (.ofTable write t)) = .ok t := by
  have own : t.entries.foldl (fun t e => t.insert e.1 e.2) ∅ = t :=
    Table.ofList_of_perm (List.Perm.refl t.entries)
  simp only [Json.ofTable, draft, Shape.table, σ.entries_draft element, own]

end Spelling

namespace Settings

variable (σ : Spelling) (freshId : String)

/-- What is kept of settings in writing. -/
def stored (s : Settings) : Settings :=
  { s with
    retryPause := .ofMillis s.retryPause.storedMillis
    gracePeriod := .ofSeconds s.gracePeriod.wholeSeconds }

theorem reads_fields (s : Settings) : (record freshId).Reads s.fields where
  sound := by
    unfold record
    apply_rules [Record.Sound.seq, Record.Sound.map, Record.sound_member]
  unique := by
    show ((default : Settings).fields.map Prod.fst).Nodup
    decide
  names := rfl

theorem shape_draft (s : Settings) : shape freshId (σ.draft s.toJson) = .ok s.stored := by
  have reads := reads_fields freshId s
  have id : (Record.default "worker_id" .text (standard freshId).workerId).build
      (σ.members s.fields) = .ok s.workerId :=
    σ.build_text _ reads rfl _
  have shared : (Record.optional "shared_thread_count" .word64).build (σ.members s.fields) =
      .ok s.sharedSlots := by
    refine (σ.build_present _ _ _ reads rfl).trans ?_
    cases s.sharedSlots with
    | none => rfl
    | some n => exact σ.optional_draft (σ.word64_draft n)
  have slots : (Record.default "per_type_thread_count" (.table .word64)
      (standard freshId).slotsPerType).build (σ.members s.fields) = .ok s.slotsPerType :=
    (σ.build_present _ _ _ reads rfl).trans (σ.table_draft σ.word64_draft s.slotsPerType)
  have pause : (Record.default "sleep_when_retry" Span.millisShape
      (standard freshId).retryPause).build (σ.members s.fields) = .ok s.stored.retryPause :=
    (σ.build_present _ _ _ reads rfl).trans (σ.millis_draft s.retryPause)
  have retries : (Record.default "update_retry_count" .word32 (standard freshId).retries).build
      (σ.members s.fields) = .ok s.retries :=
    (σ.build_present _ _ _ reads rfl).trans (σ.word32_draft s.retries)
  have grace : (Record.default "shutdown_grace_period" Span.secondsShape
      (standard freshId).gracePeriod).build (σ.members s.fields) = .ok s.stored.gracePeriod :=
    (σ.build_present _ _ _ reads rfl).trans (σ.seconds_draft s.gracePeriod)
  have domains : (Record.default "task_to_domain" (.table .text) (standard freshId).domains).build
      (σ.members s.fields) = .ok s.domains :=
    (σ.build_present _ _ _ reads rfl).trans (σ.table_draft (fun _ => rfl) s.domains)
  have pattern : (Record.default "worker_name_prefix" .text (standard freshId).namePattern).build
      (σ.members s.fields) = .ok s.namePattern :=
    σ.build_text _ reads rfl _
  rw [shape, toJson, σ.shape_record_eq_ok reads]
  simp only [record, Record.build_seq, Record.build_map, id, shared, slots, pause, retries, grace,
    domains, pattern]
  rfl

/-- Nothing is lost twice. -/
theorem stored_stored (s : Settings) : s.stored.stored = s.stored := by
  simp only [stored, Span.storedMillis_ofMillis, Span.wholeSeconds_ofSeconds]

/-- **What is kept of settings is as good as they were**: a second is not rounded away. -/
theorem validate_stored (s : Settings) : s.stored.validate = .ok () ↔ s.validate = .ok () := by
  have kept : s.stored.gracePeriod.nanos = _ := s.gracePeriod.nanos_ofSeconds_wholeSeconds
  rw [validate_eq_ok_iff, validate_eq_ok_iff, kept]
  omega

/-- **Settings are read back as what is kept of them.** The grace period is rounded down, and the
pause is if 64 bits hold its milliseconds. -/
theorem read_back (s : Settings) :
    s.toJson.as? (shape freshId) = some s.stored ∧
    Document.read (shape freshId) s.toJson.text = .ok s.stored ∧
    s.stored.gracePeriod.nanos = s.gracePeriod.nanos / 1_000_000_000 * 1_000_000_000 ∧
    (s.stored.retryPause.nanos = s.retryPause.nanos / 1_000_000 * 1_000_000 ↔
      s.retryPause.wholeMillis < UInt64.size) := by
  refine ⟨as?_eq_some (shape_draft .plain freshId s), ?_,
    s.gracePeriod.nanos_ofSeconds_wholeSeconds, s.retryPause.nanos_ofMillis_storedMillis_iff⟩
  rw [Document.read_text]
  exact shape_draft Reader.written freshId s

/-- Settings with the shortest pause that 64 bits do not hold. -/
def sampleLongPause : Settings :=
  { standard "" with retryPause := ⟨UInt64.size * 1_000_000, by decide⟩ }

/-- Nothing is kept of this pause. -/
example : sampleLongPause.stored.retryPause = .zero := by decide

end Settings

end TaskWorker
