import TaskWorker.Time.Stored
/-!
# Retries

A call that fails for now is made again after a pause; a call that fails for good is not, and
neither is one whose attempts are used up. Attempts are numbered from one.

* `RetryPolicy`, with `maxAttempts`, `hasAttemptsLeft`, `pauseBefore`;
* **`RetryPolicy.afterAttempt`** decides what follows an attempt; `Progress` is its answer;
* `RetryPolicy.runOn`, a whole call against given outcomes and durations, with the time of each
  attempt on a given clock; `RetryPolicy.run`, on a clock of milliseconds;
* `maxAttempts_lt`: an attempt number fits into 32 bits.
-/

namespace TaskWorker

/-- How often and after which pause a failed call is made again. -/
structure RetryPolicy where
  /-- The attempts after the first one. -/
  retries : UInt32
  pause : Span
  deriving DecidableEq, Repr

/-- How a single attempt ends. -/
inductive Attempt (ε α : Type) where
  | success (value : α)
  /-- A failure that may be mended by another attempt. -/
  | transient (error : ε)
  /-- A failure that stays. -/
  | permanent (error : ε)
  deriving Repr

/-- A call that was given up. -/
structure Failure (ε : Type) where
  error : ε
  attempts : Nat
  /-- Whether the attempts were used up. -/
  exhausted : Bool
  deriving DecidableEq, Repr

/-- What follows an attempt. -/
inductive Progress (ε α : Type) where
  | succeeded (value : α) (attempts : Nat)
  | gaveUp (failure : Failure ε)
  /-- The next attempt, by its number. -/
  | again (attempt : Nat)
  deriving Repr

namespace RetryPolicy

/-- Three more attempts, half a second apart. -/
def default : RetryPolicy := ⟨3, .ofMillis 500⟩

instance : Inhabited RetryPolicy := ⟨default⟩

/-- One attempt and no more. -/
def noRetry : RetryPolicy := ⟨0, .zero⟩

/-- The number of attempts, the first one included; it fits into 32 bits. -/
def maxAttempts (p : RetryPolicy) : Nat := min (p.retries.toNat + 1) (UInt32.size - 1)

/-- Whether another attempt may follow attempt `n`. -/
def hasAttemptsLeft (p : RetryPolicy) (n : Nat) : Bool := n < p.maxAttempts

/-- The pause before attempt `n`. -/
def pauseBefore (p : RetryPolicy) (n : Nat) : Span := if n ≤ 1 then .zero else p.pause

theorem maxAttempts_pos (p : RetryPolicy) : 0 < p.maxAttempts := by
  simp only [maxAttempts, UInt32.size]
  omega

theorem maxAttempts_lt (p : RetryPolicy) : p.maxAttempts < UInt32.size := by
  simp only [maxAttempts, UInt32.size]
  omega

variable {ε α : Type}

/-- **What follows attempt `n`.** -/
def afterAttempt (p : RetryPolicy) (n : Nat) : Attempt ε α → Progress ε α
  | .success a => .succeeded a n
  | .permanent e => .gaveUp ⟨e, n, false⟩
  | .transient e => if p.hasAttemptsLeft n then .again (n + 1) else .gaveUp ⟨e, n, true⟩

/-! ## Whole calls -/

/-- A call from start to end: its answer, when each attempt began, and when the call ended. -/
structure Call (ε α : Type) where
  answer : Except (Failure ε) (α × Nat)
  attempts : List (Nat × Nat)
  finished : Nat

/-- Another attempt is the next one, and there was one left. -/
theorem afterAttempt_eq_again {p : RetryPolicy} {n k : Nat} {a : Attempt ε α}
    (h : p.afterAttempt n a = .again k) : k = n + 1 ∧ n < p.maxAttempts := by
  cases a with
  | success => simp [afterAttempt] at h
  | permanent => simp [afterAttempt] at h
  | transient e =>
    simp only [afterAttempt] at h
    split at h
    · rename_i hl
      simp only [hasAttemptsLeft, decide_eq_true_eq] at hl
      simp only [Progress.again.injEq] at h
      exact ⟨h.symm, hl⟩
    · simp at h

section Clock

-- On the clock that a call runs by, a pause takes as long as `wait` says.
variable (wait : Span → Nat)

/-- The rest of a call whose attempt `n` begins at time `t`. Attempt `n` ends as `op n` says, after
the time given there. -/
def runFrom (p : RetryPolicy) (op : Nat → Attempt ε α × Nat) (n t : Nat) : Call ε α :=
  let ended := t + (op n).2
  match h : p.afterAttempt n (op n).1 with
  | .succeeded a k => ⟨.ok (a, k), [(n, t)], ended⟩
  | .gaveUp f => ⟨.error f, [(n, t)], ended⟩
  | .again k =>
    have : p.maxAttempts - k < p.maxAttempts - n := by
      have := afterAttempt_eq_again h
      omega
    let call := runFrom p op k (ended + wait (p.pauseBefore k))
    { call with attempts := (n, t) :: call.attempts }
termination_by p.maxAttempts - n

/-- A call that begins at time 0. -/
def runOn (p : RetryPolicy) (op : Nat → Attempt ε α × Nat) : Call ε α := p.runFrom wait op 1 0

end Clock

/-- A call that begins at time 0 of a clock of milliseconds, with the pauses of its timers. -/
def run (p : RetryPolicy) (op : Nat → Attempt ε α × Nat) : Call ε α := p.runOn Span.ticks op

/-! ## On the wire -/

/-- A policy as a record: the pause in whole milliseconds. -/
def toJson (p : RetryPolicy) : Json :=
  .record [
    ("update_retry_count", some (.ofNat p.retries.toNat)),
    ("sleep_when_retry", some p.pause.millisJson)]

/-- The members of a policy. -/
def record : Record RetryPolicy :=
  mk <$> .required "update_retry_count" .word32 <*> .required "sleep_when_retry" Span.millisShape

/-- Reads a policy. -/
def shape : Shape RetryPolicy := record.shape

end RetryPolicy

end TaskWorker
