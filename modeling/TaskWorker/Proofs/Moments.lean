import Mathlib.Tactic.SplitIfs
import TaskWorker.Proofs.Digits
import TaskWorker.Time.Moment
/-!
# Moments read back

Each part of a written moment is a number in a fixed width, or behind a sign, and ends at a mark. So
the parts are read back one after the other.

* `number?_padded`, `year?_yearText`, `fraction?_fractionText`, `mark?_cons`: the parts;
* `shift_zero`: no offset changes nothing;
* **`Moment.ofText?_text`**: every moment is read back.
-/

namespace TaskWorker.Moment

open Text

variable {cs ds : List Char} {c : Char} {n w : Nat}

/-! ## Parts -/

/-- Digits are read as far as they go, if the width lets them. -/
theorem digits?_append (there : ds ≠ []) (digits : ∀ c ∈ ds, c.isDigit = true)
    (fits : ds.length ≤ w) (stop : NoDigit cs) : digits? w (ds ++ cs) = some (numberOf ds, cs) := by
  have stop' : NoDigit (cs.take (w - ds.length)) := by
    intro c mem
    cases cs with
    | nil => simp at mem
    | cons d cs =>
      cases left : w - ds.length with
      | zero => simp [left] at mem
      | succ k =>
        rw [left] at mem
        cases mem
        exact stop c rfl
  have taken : ((ds ++ cs).take w).takeWhile Char.isDigit = ds := by
    rw [List.take_append, List.take_of_length_le fits]
    exact takeWhile_digits digits stop'
  have some : ds.isEmpty = false := by simpa using there
  simp only [digits?, taken, some, List.drop_left, Bool.false_eq_true, if_false]

/-- A number in a width is read back where it ends. -/
theorem number?_padded (pos : 0 < w) (fits : n < Nat.pow 10 w) (stop : NoDigit cs) :
    number? w (padded w n ++ cs) = some (n, cs) := by
  rw [number?, trimFront_digits (padded_ne_nil w n) (fun _ => isDigit_padded),
    digits?_append (padded_ne_nil w n) (fun _ => isDigit_padded) (length_padded pos fits).le stop,
    numberOf_padded]

theorem mark?_cons (visible : isBlank c = false) (cs : List Char) :
    mark? c (c :: cs) = some cs := by
  rw [mark?, trimFront_cons_of_not_blank visible]
  exact if_pos rfl

theorem separator?_cons (cs : List Char) : separator? ('T' :: cs) = some cs := rfl

/-- A year is read back, in four digits or behind its sign. -/
theorem year?_yearText (y : Int) (stop : NoDigit cs) :
    year? (yearText y ++ cs) = some (y, cs) := by
  have signed (k : Nat) : digits? (padded 4 k ++ cs).length (padded 4 k ++ cs) = some (k, cs) := by
    rw [digits?_append (padded_ne_nil 4 k) (fun _ => isDigit_padded) (by simp) stop,
      numberOf_padded]
  rw [yearText]
  split_ifs with short positive
  · -- The first character is a digit, and so it is no sign.
    obtain ⟨c, ds, same⟩ := List.exists_cons_of_ne_nil (padded_ne_nil 4 y.toNat)
    have digit : c.isDigit = true := isDigit_padded (by rw [same]; exact .head _)
    have fits : y.toNat < 10000 := by omega
    have four : digits? 4 (padded 4 y.toNat ++ cs) = some (y.toNat, cs) := by
      rw [digits?_append (padded_ne_nil 4 _) (fun _ => isDigit_padded)
        (length_padded (by decide) fits).le stop, numberOf_padded]
    rw [year?, trimFront_digits (padded_ne_nil 4 _) (fun _ => isDigit_padded)]
    rw [same, List.cons_append] at four ⊢
    split
    · rename_i eq
      obtain rfl : c = '-' := (List.cons.inj eq).1
      exact absurd digit (by decide)
    · rename_i eq
      obtain rfl : c = '+' := (List.cons.inj eq).1
      exact absurd digit (by decide)
    · simp [four]
      omega
  · rw [List.cons_append, year?, trimFront_cons_of_not_blank (by decide)]
    simp only [signed]
    simp
    omega
  · rw [List.cons_append, year?, trimFront_cons_of_not_blank (by decide)]
    simp only [signed]
    simp
    omega

/-- A fraction is read back from its three, six or nine digits. -/
theorem fraction?_fractionText (small : n < 1_000_000_000) :
    fraction? (fractionText n ++ ['Z']) = some (n, ['Z']) := by
  have stop : NoDigit ['Z'] := noDigit_cons rfl
  have read (w k : Nat) (pos : 0 < w) (short : w ≤ 9) (fits : k < 10 ^ w) :
      fraction? ('.' :: padded w k ++ ['Z']) = some (k * 10 ^ (9 - w), ['Z']) := by
    have length := length_padded pos fits
    have some : (padded w k).isEmpty = false := by simpa using padded_ne_nil w k
    have whole : (padded w k).take 9 = padded w k := List.take_of_length_le (by omega)
    rw [List.cons_append, fraction?]
    simp only [takeWhile_digits (fun _ => isDigit_padded) stop,
      dropWhile_digits (fun _ => isDigit_padded) stop, some, whole, numberOf_padded, length]
    rfl
  rw [fractionText]
  split_ifs with zero millis micros
  · rw [zero]
    rfl
  · rw [read 3 _ (by decide) (by decide) (by omega)]
    simp
    omega
  · rw [read 6 _ (by decide) (by decide) (by omega)]
    simp
    omega
  · rw [read 9 _ (by decide) (by decide) (by omega)]
    simp

theorem offset?_zulu : offset? ['Z'] = some (0, []) := rfl

theorem shift_zero (m : Moment) : shift m.day m.minute m.second m.nanos 0 = some m := by
  have minute := m.valid.2.1
  rw [shift]
  simp only [Int.sub_zero]
  rw [if_neg (by omega), if_pos (by omega), Int.toNat_natCast, ofFields?, dif_pos m.valid]

/-! ## Moments -/

/-- **Every moment is read back.** -/
theorem ofText?_text (m : Moment) : ofText? m.text = some m := by
  obtain ⟨date, minute, second, nanos⟩ := m.valid
  have fields := date
  simp only [Day.isValid, Bool.and_eq_true, decide_eq_true_eq] at fields
  have days : daysIn m.day.year m.day.month ≤ 31 := by
    rw [daysIn]
    split_ifs <;> omega
  have visible : isBlank '-' = false ∧ isBlank ':' = false := by decide
  have colon (cs : List Char) : NoDigit (':' :: cs) := noDigit_cons rfl
  have dash (cs : List Char) : NoDigit ('-' :: cs) := noDigit_cons rfl
  have tee (cs : List Char) : NoDigit ('T' :: cs) := noDigit_cons rfl
  have last : NoDigit (fractionText m.nanos ++ ['Z']) := by
    rw [fractionText]
    split_ifs <;> exact noDigit_cons rfl
  have clock : m.minute / 60 * 60 + m.minute % 60 = m.minute := by omega
  have accepted : (m.day.isValid && decide (m.minute / 60 < 24) && decide (m.minute % 60 < 60) &&
      decide (m.second ≤ 60) && isBlankText []) = true := by
    have hour : m.minute / 60 < 24 := by omega
    have rest : m.minute % 60 < 60 := by omega
    simp [date, hour, rest, second, isBlankText]
  simp only [ofText?, text, String.toList_ofList, List.append_assoc, List.cons_append,
    year?_yearText _ (dash _), mark?_cons visible.1, mark?_cons visible.2,
    number?_padded (by decide : 0 < 2) (by omega : m.day.month < 10 ^ 2) (dash _),
    number?_padded (by decide : 0 < 2) (by omega : m.day.day < 10 ^ 2) (tee _), separator?_cons,
    number?_padded (by decide : 0 < 2) (by omega : m.minute / 60 < 10 ^ 2) (colon _),
    number?_padded (by decide : 0 < 2) (by omega : m.minute % 60 < 10 ^ 2) (colon _),
    number?_padded (by decide : 0 < 2) (by omega : m.second < 10 ^ 2) last,
    fraction?_fractionText nanos, offset?_zulu, clock, bind, Option.bind]
  exact (if_pos accepted).trans m.shift_zero

end TaskWorker.Moment
