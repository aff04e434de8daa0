import Mathlib.Algebra.BigOperators.Intervals
import Mathlib.Order.Bounds.Basic
import TaskWorker.Retry
/-!
# Calls that are made again

The attempts of a call come one after the other, with a pause between any two. The first attempt
that does not fail for now is the last one; if there is none among those that the policy allows,
then the last one is the last that it allows.

* `Attempt.isTransient`, `Attempt.answer`, what an attempt says about the call;
  `RetryPolicy.begins`, when it begins;
* `runFrom_of_last`, `runFrom_of_again`: one attempt; `runFrom_eq`: the attempts up to the last one;
* **`RetryPolicy.runOn_eq`**: a whole call.
-/

namespace TaskWorker

variable {ε α : Type}

namespace Attempt

/-- Whether another attempt may mend it. -/
def isTransient : Attempt ε α → Bool
  | .transient _ => true
  | _ => false

/-- The answer of a call of which this is the last attempt, by its number. A failure that another
attempt could have mended means that there was none left. -/
def answer (n : Nat) : Attempt ε α → Except (Failure ε) (α × Nat)
  | .success a => .ok (a, n)
  | .transient e => .error ⟨e, n, true⟩
  | .permanent e => .error ⟨e, n, false⟩

end Attempt

namespace RetryPolicy

variable (p : RetryPolicy) (wait : Span → Nat) (op : Nat → Attempt ε α × Nat)

/-- When attempt `k` of a call begins: after the attempts before it and as many pauses. -/
def begins (k : Nat) : Nat := ∑ i ∈ Finset.Ico 1 k, (op i).2 + (k - 1) * wait p.pause

/-- From the beginning of attempt `n` to that of attempt `k`. -/
def between (n k : Nat) : Nat := ∑ i ∈ Finset.Ico n k, ((op i).2 + wait p.pause)

theorem between_one (k : Nat) : p.between wait op 1 k = p.begins wait op k := by
  rw [between, Finset.sum_add_distrib, Finset.sum_const_nat fun _ _ => rfl, Nat.card_Ico, begins]

variable {p op} {n m t : Nat}

/-! ## One attempt -/

/-- What follows an attempt decides how the call goes on. -/
theorem runFrom_eq_match : p.runFrom wait op n t =
    match p.afterAttempt n (op n).1 with
    | .succeeded a k => ⟨.ok (a, k), [(n, t)], t + (op n).2⟩
    | .gaveUp f => ⟨.error f, [(n, t)], t + (op n).2⟩
    | .again k =>
      let call := p.runFrom wait op k (t + (op n).2 + wait (p.pauseBefore k))
      { call with attempts := (n, t) :: call.attempts } := by
  rw [runFrom]
  split
  all_goals
    rename_i next
    simp only [next]

theorem runFrom_of_last
    (last : (op n).1.isTransient = false ∨ n = p.maxAttempts) :
    p.runFrom wait op n t = ⟨(op n).1.answer n, [(n, t)], t + (op n).2⟩ := by
  rw [runFrom_eq_match]
  cases ended : (op n).1 with
  | success a => rfl
  | permanent e => rfl
  | transient e =>
    rw [ended] at last
    have none : p.hasAttemptsLeft n = false := by
      rcases last with last | last
      · cases last
      · simp [hasAttemptsLeft, last]
    simp only [afterAttempt, none]
    rfl

theorem runFrom_of_again (first : 1 ≤ n) (lt : n < p.maxAttempts)
    (again : (op n).1.isTransient = true) :
    p.runFrom wait op n t =
      let call := p.runFrom wait op (n + 1) (t + (op n).2 + wait p.pause)
      { call with attempts := (n, t) :: call.attempts } := by
  have pause : p.pauseBefore (n + 1) = p.pause := if_neg (by omega)
  rw [runFrom_eq_match]
  cases ended : (op n).1 with
  | success a => rw [ended] at again; cases again
  | permanent e => rw [ended] at again; cases again
  | transient e =>
    have left : p.hasAttemptsLeft n = true := by simpa [hasAttemptsLeft] using lt
    simp only [afterAttempt, left, if_true, pause]

/-! ## All attempts -/

/-- The attempts from the `n`-th to the last one, which is the `m`-th. -/
theorem runFrom_eq (first : 1 ≤ n) (le : n ≤ m) (allowed : m ≤ p.maxAttempts)
    (again : ∀ k, n ≤ k → k < m → (op k).1.isTransient = true)
    (last : (op m).1.isTransient = false ∨ m = p.maxAttempts) :
    p.runFrom wait op n t =
      { answer := (op m).1.answer m
        attempts := (List.range' n (m + 1 - n)).map fun k => (k, t + p.between wait op n k)
        finished := t + p.between wait op n m + (op m).2 } := by
  -- Attempts are counted from the last one back to the first.
  induction left : m - n generalizing n t with
  | zero =>
    obtain rfl : n = m := by omega
    have none : p.between wait op n n = 0 := by rw [between, Finset.Ico_self, Finset.sum_empty]
    have one : n + 1 - n = 1 := by omega
    rw [runFrom_of_last wait last, one, List.range'_one, List.map_cons, none, Nat.add_zero]
    rfl
  | succ j ih =>
    have lt : n < m := by omega
    have rest := ih (n := n + 1) (t := t + (op n).2 + wait p.pause) (by omega) lt
      (fun k hk => again k (by omega)) (by omega)
    have step (k : Nat) (hk : n < k) : t + (op n).2 + wait p.pause + p.between wait op (n + 1) k =
        t + p.between wait op n k := by
      rw [between, between, Finset.sum_eq_sum_Ico_succ_bot hk]
      omega
    have none : p.between wait op n n = 0 := by rw [between, Finset.Ico_self, Finset.sum_empty]
    have more : m + 1 - n = (m + 1 - (n + 1)) + 1 := by omega
    have times : (List.range' (n + 1) (m + 1 - (n + 1))).map (fun k =>
        (k, t + (op n).2 + wait p.pause + p.between wait op (n + 1) k)) =
        (List.range' (n + 1) (m + 1 - (n + 1))).map fun k => (k, t + p.between wait op n k) :=
      List.map_congr_left fun k hk => by rw [step k (List.mem_range'_1.mp hk).1]
    rw [runFrom_of_again wait first (by omega) (again n le_rfl lt), rest, step m lt, times, more,
      List.range'_succ, List.map_cons, none]
    rfl

/-- **A call makes its attempts in order,** from the first one to the `n`-th, each once, where the
`n`-th is the first that is no failure for now, or else the last that the policy allows. Each
attempt begins when those before it and as many pauses are over, the answer is that of the last one,
and the call ends with it. The numbers of attempts stay below 2³², for every policy. -/
theorem runOn_eq (p : RetryPolicy) (wait : Span → Nat) (op : Nat → Attempt ε α × Nat) :
    ∃ n, IsLeast {k | 1 ≤ k ∧ ((op k).1.isTransient = false ∨ k = p.maxAttempts)} n ∧
      p.maxAttempts = min (p.retries.toNat + 1) (2 ^ 32 - 1) ∧ n < 2 ^ 32 ∧
      p.runOn wait op =
        { answer := (op n).1.answer n
          attempts := (List.range' 1 n).map fun k => (k, p.begins wait op k)
          finished := p.begins wait op n + (op n).2 } := by
  have allowed : 1 ≤ p.maxAttempts ∧
      ((op p.maxAttempts).1.isTransient = false ∨ p.maxAttempts = p.maxAttempts) :=
    ⟨p.maxAttempts_pos, .inr rfl⟩
  obtain ⟨n, ⟨first, last⟩, least⟩ :
      ∃ n, IsLeast {k | 1 ≤ k ∧ ((op k).1.isTransient = false ∨ k = p.maxAttempts)} n :=
    ⟨_, Nat.isLeast_find ⟨_, allowed⟩⟩
  have le : n ≤ p.maxAttempts := least allowed
  have again : ∀ k, 1 ≤ k → k < n → (op k).1.isTransient = true := by
    intro k hk lt
    by_contra final
    have := least ⟨hk, .inl (by simpa using final)⟩
    omega
  refine ⟨n, ⟨⟨first, last⟩, least⟩, rfl, Nat.lt_of_le_of_lt le p.maxAttempts_lt, ?_⟩
  rw [runOn, runFrom_eq wait le_rfl first le again last, Nat.add_sub_cancel]
  simp only [between_one, Nat.zero_add]

end RetryPolicy

end TaskWorker
