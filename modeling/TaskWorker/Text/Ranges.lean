/-!
# Ranges of characters

A class of characters is given by the ranges of its code points, in increasing order.

* `Ranges`, with `Ranges.contains`;
* `contains_iff`: a character is in a class when one of the ranges holds it.
-/

namespace TaskWorker.Text

/-- Inclusive ranges of code points. -/
abbrev Ranges : Type := List (Nat × Nat)

/-- Whether a character is in one of the ranges. -/
def Ranges.contains (rs : Ranges) (c : Char) : Bool :=
  rs.any fun r => r.1 ≤ c.toNat && c.toNat ≤ r.2

theorem Ranges.contains_iff {rs : Ranges} {c : Char} :
    rs.contains c = true ↔ ∃ r ∈ rs, r.1 ≤ c.toNat ∧ c.toNat ≤ r.2 := by
  simp [Ranges.contains]

end TaskWorker.Text
