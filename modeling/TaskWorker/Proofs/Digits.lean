import Mathlib.Data.List.TakeWhile
import TaskWorker.Text.Blank
import TaskWorker.Text.Numeral
/-!
# Digits in writing

A number in decimal digits is read back from them, also behind zeros that fill up a width. A reader
takes digits as long as there are any, so it takes the whole number where no digit follows.

* `numberOf_toDigits`, **`numberOf_padded`**: numbers are read back; `numberOf_append_zeros`: with
  zeros behind them, greater ones;
* `isDigit_padded`, `length_padded`: what they are made of;
* `NoDigit`, what can follow; `takeWhile_digits`, `dropWhile_digits`: where a number ends;
* `head_toDigits_ne`: no zero stands in front.
-/

namespace TaskWorker.Text

variable {n w : Nat} {ds rest : List Char} {c : Char}

/-! ## Values -/

theorem numberOf_eq_ofDigitChars (ds : List Char) : numberOf ds = Nat.ofDigitChars 10 ds 0 := by
  simp only [numberOf, Nat.ofDigitChars, Nat.mul_comm]

theorem numberOf_toDigits (n : Nat) : numberOf (Nat.toDigits 10 n) = n := by
  rw [numberOf_eq_ofDigitChars, Nat.ofDigitChars_toDigits (by decide) (by decide)]

/-- The number of some digits behind a number already read. -/
def numberFrom (n : Nat) (ds : List Char) : Nat :=
  ds.foldl (fun n c => n * 10 + (c.toNat - '0'.toNat)) n

theorem numberOf_append (as bs : List Char) :
    numberOf (as ++ bs) = numberFrom (numberOf as) bs :=
  List.foldl_append

theorem le_numberFrom (n : Nat) (ds : List Char) : n ≤ numberFrom n ds := by
  induction ds generalizing n with
  | nil => exact Nat.le_refl n
  | cons c ds ih => exact Nat.le_trans (by omega) (ih (n * 10 + (c.toNat - '0'.toNat)))

/-- Zeros in front do not count. -/
theorem numberOf_zeros_append (k : Nat) (ds : List Char) :
    numberOf (List.replicate k '0' ++ ds) = numberOf ds := by
  induction k with
  | zero => rfl
  | succ k ih =>
    rw [List.replicate_succ, List.cons_append, ← ih]
    rfl

/-- Zeros behind count as powers of ten. -/
theorem numberOf_append_zeros (ds : List Char) (k : Nat) :
    numberOf (ds ++ List.replicate k '0') = numberOf ds * Nat.pow 10 k := by
  induction k with
  | zero =>
    rw [List.replicate_zero, List.append_nil]
    exact (Nat.mul_one _).symm
  | succ k ih =>
    have last (ds : List Char) : numberOf (ds ++ ['0']) = numberOf ds * 10 := numberOf_append ds _
    rw [List.replicate_succ', ← List.append_assoc, last, ih, Nat.mul_assoc]
    rfl

/-- **A number is read back behind the zeros that fill up its width.** -/
theorem numberOf_padded (w n : Nat) : numberOf (padded w n) = n := by
  rw [padded, fill, numberOf_zeros_append, numberOf_toDigits]

/-! ## Digits -/

theorem isDigit_toDigits (mem : c ∈ Nat.toDigits 10 n) : c.isDigit = true :=
  Nat.isDigit_of_mem_toDigits (by decide) (by decide) mem

theorem isDigit_zeros {k : Nat} (mem : c ∈ List.replicate k '0') : c.isDigit = true := by
  rw [List.eq_of_mem_replicate mem]
  rfl

theorem isDigit_padded (mem : c ∈ padded w n) : c.isDigit = true :=
  (List.mem_append.mp mem).elim isDigit_zeros isDigit_toDigits

theorem padded_ne_nil (w n : Nat) : padded w n ≠ [] := by
  rw [padded, fill, ne_eq, List.append_eq_nil_iff]
  exact fun none => Nat.toDigits_ne_nil none.2

theorem length_padded (pos : 0 < w) (fits : n < Nat.pow 10 w) : (padded w n).length = w := by
  have short := (Nat.length_toDigits_le_iff (by decide) pos).mpr fits
  rw [padded, fill, List.length_append, List.length_replicate]
  omega

theorem digitChar_ne_zero : ∀ d < 10, d ≠ 0 → Nat.digitChar d ≠ '0' := by decide

/-- No zero stands in front of a number that is not zero. -/
theorem head_toDigits_ne (positive : n ≠ 0) : (Nat.toDigits 10 n).head? ≠ some '0' := by
  induction n using Nat.strongRecOn with
  | _ n ih =>
    by_cases small : n < 10
    · rw [Nat.toDigits_of_lt_base small]
      exact fun same => digitChar_ne_zero n small positive (Option.some.inj same)
    · have front := ih (n / 10) (by omega) (by omega)
      obtain ⟨c, cs, same⟩ :=
        List.exists_cons_of_ne_nil (Nat.toDigits_ne_nil (n := n / 10) (b := 10))
      rw [same] at front
      rw [Nat.toDigits_of_base_le (by decide) (by omega), same]
      exact front

/-! ## Where a number ends -/

/-- A text that does not begin with a digit. -/
def NoDigit (cs : List Char) : Prop := ∀ c ∈ cs.head?, c.isDigit = false

theorem noDigit_nil : NoDigit [] := nofun

theorem noDigit_cons (other : c.isDigit = false) : NoDigit (c :: rest) := by
  intro d mem
  cases mem
  exact other

theorem takeWhile_noDigit (stop : NoDigit rest) : rest.takeWhile Char.isDigit = [] := by
  cases rest with
  | nil => rfl
  | cons c cs => simp [stop c rfl]

theorem dropWhile_noDigit (stop : NoDigit rest) : rest.dropWhile Char.isDigit = rest := by
  cases rest with
  | nil => rfl
  | cons c cs => simp [stop c rfl]

theorem takeWhile_digits (digits : ∀ c ∈ ds, c.isDigit = true) (stop : NoDigit rest) :
    (ds ++ rest).takeWhile Char.isDigit = ds := by
  rw [List.takeWhile_append_of_pos digits, takeWhile_noDigit stop, List.append_nil]

theorem dropWhile_digits (digits : ∀ c ∈ ds, c.isDigit = true) (stop : NoDigit rest) :
    (ds ++ rest).dropWhile Char.isDigit = rest := by
  rw [List.dropWhile_append_of_pos digits, dropWhile_noDigit stop]

/-- No blanks stand in front of digits. -/
theorem trimFront_digits (there : ds ≠ []) (digits : ∀ c ∈ ds, c.isDigit = true)
    (rest : List Char) : trimFront (ds ++ rest) = ds ++ rest := by
  obtain ⟨c, cs, rfl⟩ := List.exists_cons_of_ne_nil there
  exact trimFront_cons_of_not_blank (isBlank_of_isDigit (digits c (.head _)))

end TaskWorker.Text
