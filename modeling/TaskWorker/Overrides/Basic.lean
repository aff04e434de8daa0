import TaskWorker.Time.Stored
/-!
# Overrides

What is said about a single task type: its slots, its polling interval and its domain. Of two
sources of overrides the first one counts wherever it says something.

* `Overrides`, with the empty `Overrides.none`; `Overrides.or`;
* **`or_assoc`**, `none_or`, `or_none`: sources can be combined in any grouping.
-/

namespace TaskWorker

/-- What is said about a task type. -/
structure Overrides where
  slots : Option UInt64
  interval : Option Span
  domain : Option String
  deriving DecidableEq, Repr

namespace Overrides

/-- Nothing is said. -/
def none : Overrides := ⟨.none, .none, .none⟩

instance : Inhabited Overrides := ⟨none⟩

/-- What `a` says, and otherwise what `b` says. -/
def or (a b : Overrides) : Overrides :=
  ⟨a.slots.or b.slots, a.interval.or b.interval, a.domain.or b.domain⟩

theorem none_or (a : Overrides) : none.or a = a := by
  simp [none, or]

theorem or_none (a : Overrides) : a.or none = a := by
  simp [none, or]

/-- **Sources can be combined in any grouping.** -/
theorem or_assoc (a b c : Overrides) : (a.or b).or c = a.or (b.or c) := by
  simp [or, Option.or_assoc]

/-! ## On the wire -/

/-- What overrides say in writing: the interval in whole milliseconds. -/
def fields (o : Overrides) : List (String × Option Json) := [
  ("thread_count", some (match o.slots with
    | .none => .null
    | some n => .ofNat n.toNat)),
  ("polling_interval", some (match o.interval with
    | .none => .null
    | some s => s.millisJson)),
  ("domain", some (.ofText? o.domain))]

/-- Overrides as a record. -/
def toJson (o : Overrides) : Json := .record o.fields

/-- The members of overrides; an interval may be absent, the others only from an object. -/
def record : Record Overrides :=
  mk <$> .nullable "thread_count" .word64
    <*> .optional "polling_interval" Span.millisShape
    <*> .nullable "domain" .text

/-- Reads overrides. -/
def shape : Shape Overrides := record.shape

end Overrides

end TaskWorker
