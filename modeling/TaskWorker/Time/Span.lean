import TaskWorker.Text.Numeral
/-!
# Spans of time

A span is a whole number of nanoseconds, short enough that its seconds fit into 64 bits. Timers
count in milliseconds and never fire early, so a span is rounded up for them; settings keep spans in
whole milliseconds or seconds and round down.

* `Span`, with `ofMillis`, `ofSeconds`, `ofNanos`;
* `wholeMillis`, `wholeSeconds`, `ticks`; `storedMillis` is what 64 bits keep of the milliseconds;
  `ofMillis_wholeMillis`, `ofSeconds_wholeSeconds`: spans that lose nothing;
* `Span.text`, the span in its largest fitting unit.
-/

namespace TaskWorker

/-- A span of time. -/
structure Span where
  nanos : Nat
  bounded : nanos < UInt64.size * 1_000_000_000 := by decide
  deriving DecidableEq, Repr

namespace Span

/-- No time at all. -/
def zero : Span := ⟨0, by decide⟩

instance : Inhabited Span := ⟨zero⟩

/-- A span of whole seconds. -/
def ofSeconds (n : UInt64) : Span :=
  ⟨n.toNat * 1_000_000_000, by have := n.toNat_lt_size; omega⟩

/-- A span of whole milliseconds. -/
def ofMillis (n : UInt64) : Span :=
  ⟨n.toNat * 1_000_000, by have := n.toNat_lt_size; omega⟩

/-- A span of nanoseconds. -/
def ofNanos (n : UInt64) : Span :=
  ⟨n.toNat, by have := n.toNat_lt_size; omega⟩

/-- The whole milliseconds of a span. -/
def wholeMillis (s : Span) : Nat := s.nanos / 1_000_000

/-- The milliseconds that are kept in 64 bits. -/
def storedMillis (s : Span) : UInt64 := UInt64.ofNat s.wholeMillis

/-- The whole seconds of a span. -/
def wholeSeconds (s : Span) : UInt64 := UInt64.ofNat (s.nanos / 1_000_000_000)

/-- The milliseconds that a timer waits for a span: none of it is left out. -/
def ticks (s : Span) : Nat := (s.nanos + 999_999) / 1_000_000

/-- Whether a span is no time at all. -/
def isZero (s : Span) : Bool := s.nanos == 0

/-- A fraction of `width` digits without the zeros at its end, behind a point if anything is left.
-/
def fractionText (n width : Nat) : String :=
  let kept := ((Text.padded width n).reverse.dropWhile (· == '0')).reverse
  if kept.isEmpty then "" else String.ofList ('.' :: kept)

/-- A span in the largest unit that it fills at least once. -/
def text (s : Span) : String :=
  let n := s.nanos
  if 1_000_000_000 ≤ n then
    toString (n / 1_000_000_000) ++ fractionText (n % 1_000_000_000) 9 ++ "s"
  else if 1_000_000 ≤ n then toString (n / 1_000_000) ++ fractionText (n % 1_000_000) 6 ++ "ms"
  else if 1_000 ≤ n then toString (n / 1_000) ++ fractionText (n % 1_000) 3 ++ "µs"
  else toString n ++ "ns"

/-! ## Rounding -/

theorem wholeMillis_ofMillis (n : UInt64) : (ofMillis n).wholeMillis = n.toNat := by
  simp [ofMillis, wholeMillis]

theorem storedMillis_ofMillis (n : UInt64) : (ofMillis n).storedMillis = n := by
  simp [storedMillis, wholeMillis_ofMillis]

theorem wholeSeconds_ofSeconds (n : UInt64) : (ofSeconds n).wholeSeconds = n := by
  simp [ofSeconds, wholeSeconds]

theorem ext_nanos {r s : Span} (same : r.nanos = s.nanos) : r = s := by
  cases r
  cases s
  cases same
  rfl

/-- A span of whole milliseconds is read back from them if 64 bits hold them. -/
theorem ofMillis_wholeMillis {s : Span} (lt : s.wholeMillis < UInt64.size)
    (whole : s.nanos % 1_000_000 = 0) : ofMillis (UInt64.ofNat s.wholeMillis) = s := by
  have nanos : (ofMillis (UInt64.ofNat s.wholeMillis)).nanos = s.nanos := by
    show (UInt64.ofNat s.wholeMillis).toNat * 1_000_000 = _
    rw [UInt64.toNat_ofNat_of_lt' lt, wholeMillis]
    omega
  exact ext_nanos nanos

/-- A span of whole seconds is read back from them. -/
theorem ofSeconds_wholeSeconds {s : Span} (whole : s.nanos % 1_000_000_000 = 0) :
    ofSeconds s.wholeSeconds = s := by
  have lt : s.nanos / 1_000_000_000 < UInt64.size := by
    have := s.bounded
    omega
  have nanos : (ofSeconds s.wholeSeconds).nanos = s.nanos := by
    show (UInt64.ofNat (s.nanos / 1_000_000_000)).toNat * 1_000_000_000 = _
    rw [UInt64.toNat_ofNat_of_lt' lt]
    omega
  exact ext_nanos nanos

theorem ticks_ofMillis (n : UInt64) : (ofMillis n).ticks = n.toNat := by
  simp only [ofMillis, ticks]
  omega

/-- A timer waits no less than the span, and less than a millisecond more. -/
theorem ticks_bounds (s : Span) :
    s.nanos ≤ s.ticks * 1_000_000 ∧ s.ticks * 1_000_000 < s.nanos + 1_000_000 := by
  simp only [ticks]
  omega

theorem ticks_pos {s : Span} (h : s.isZero = false) : 0 < s.ticks := by
  simp only [isZero, beq_eq_false_iff_ne] at h
  simp only [ticks]
  omega

end Span

end TaskWorker
