import TaskWorker.Settings.Error
/-!
# Slots

The slots of a task type bound how many of its tasks are under way. A slot is a permit and a place
in a count of busy slots: taking a slot takes the permit first, giving it back gives the permit back
last. Closed slots are handed out no more, but those that are held still come back.

* `Slots`, with the steps `takePermit?`, `countUp`, `countDown`, `returnPermit` and `close`;
* `Slots.acquire?` and `Slots.release`, the whole operations;
* **`acquire?_isSome_iff`**: a slot is handed out exactly if the slots are open and one is free.
-/

namespace TaskWorker

/-- The slots of a task type. -/
structure Slots where
  capacity : UInt64
  /-- The permits that are free. -/
  available : Nat
  /-- The slots that are counted as busy; a count that went below zero would show. -/
  busy : Int
  closed : Bool
  deriving DecidableEq, Repr, Inhabited

namespace Slots

/-- Open slots, all of them free. -/
def ofCapacity (n : UInt64) : Slots := ⟨n, n.toNat, 0, false⟩

/-- Open slots, if there may be so many. -/
def new? (n : UInt64) : Option Slots := if maxSlots < n then none else some (ofCapacity n)

/-! ## Steps -/

/-- Takes a permit, if the slots are open and one is free. -/
def takePermit? (s : Slots) : Option Slots :=
  if s.closed then none
  else if s.available = 0 then none
  else some { s with available := s.available - 1 }

/-- Counts a slot as busy. -/
def countUp (s : Slots) : Slots := { s with busy := s.busy + 1 }

/-- Counts a slot as busy no more. -/
def countDown (s : Slots) : Slots := { s with busy := s.busy - 1 }

/-- Gives a permit back. -/
def returnPermit (s : Slots) : Slots := { s with available := s.available + 1 }

/-- Hands out no more slots. -/
def close (s : Slots) : Slots := { s with closed := true }

/-! ## Whole operations -/

/-- Takes a slot. -/
def acquire? (s : Slots) : Option Slots := s.takePermit?.map countUp

/-- Gives a slot back. -/
def release (s : Slots) : Slots := s.countDown.returnPermit

/-- **A slot is handed out exactly if the slots are open and one is free.** -/
theorem acquire?_isSome_iff {s : Slots} :
    s.acquire?.isSome = true ↔ s.closed = false ∧ 0 < s.available := by
  unfold acquire? takePermit?
  by_cases hc : s.closed
  · simp [hc]
  · by_cases ha : s.available = 0
    · simp [hc, ha]
    · simp [hc, ha]
      omega

theorem acquire?_eq_some {s s' : Slots} (h : s.acquire? = some s') :
    s.closed = false ∧ 0 < s.available ∧
      s' = { s with available := s.available - 1, busy := s.busy + 1 } := by
  unfold acquire? takePermit? at h
  split at h
  · simp at h
  · split at h
    · simp at h
    · rename_i hc ha
      refine ⟨by simpa using hc, by omega, ?_⟩
      simpa [countUp] using h.symm

end Slots

end TaskWorker
