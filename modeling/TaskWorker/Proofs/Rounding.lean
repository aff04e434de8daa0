import Mathlib.Tactic.SplitIfs
import TaskWorker.Json.Decimal
/-!
# Rounding to numbers of double precision

A fraction is rounded to a multiple of the spacing of its size. So a number is met by all fractions
that are half of its spacing away from it at most; below a power of two, numbers are closer
together. A reader that scales digits rounds several times, but a short integer and a short power of
ten are exact, so that only their quotient is rounded.

* `roundDiv_eq`, `nearest_eq`: what a fraction is rounded to; `nearest_mul_right`: only the quotient
  counts;
* `IsNumber`, the counts of units that are numbers; **`nearest_of_readsBack`**: what reads back as a
  number is rounded to it;
* `ofNat_eq`, `powerOfTen_eq`: what is exact; `quotient_eq`, `product_eq`: what is rounded once;
* `Decimal.Short`, few digits; `Decimal.Spells`, what digits are written as;
  **`Decimal.scaled?_of_spells`**: a short decimal is rounded once.
-/

namespace TaskWorker

namespace Double

variable {num den units n m k : Nat}

/-! ## Quotients -/

/-- **A quotient is rounded to the whole number** that is half a unit away at most, and even if it
is half a unit away. -/
theorem roundDiv_eq (pos : 0 < den) (lower : 2 * (m * den) ≤ 2 * num + den)
    (upper : 2 * num ≤ 2 * (m * den) + den)
    (tie : 2 * (m * den) = 2 * num + den ∨ 2 * num = 2 * (m * den) + den → m % 2 = 0) :
    roundDiv num den = m := by
  have split : den * (num / den) + num % den = num := Nat.div_add_mod num den
  have rest : num % den < den := Nat.mod_lt num pos
  have near : m = num / den ∨ m = num / den + 1 := by
    have above : m * den < (num / den + 2) * den := by
      rw [Nat.add_mul, Nat.mul_comm (num / den)]
      omega
    have below : num / den * den < (m + 1) * den := by
      rw [Nat.add_mul, Nat.mul_comm (num / den)]
      omega
    have := Nat.lt_of_mul_lt_mul_right above
    have := Nat.lt_of_mul_lt_mul_right below
    omega
  rw [Nat.mul_comm] at split
  simp only [roundDiv]
  rcases near with same | next
  · rw [← same] at split ⊢
    refine if_pos ?_
    by_cases half : 2 * (num % den) = den
    · exact .inr ⟨half, tie (.inr (by omega))⟩
    · exact .inl (by omega)
  · rw [next, Nat.add_mul] at lower upper tie
    rw [if_neg, next]
    rintro (less | ⟨half, even⟩)
    · omega
    · have := tie (.inl (by omega))
      omega

theorem roundDiv_mul_right (pos : 0 < k) (num den : Nat) :
    roundDiv (num * k) (den * k) = roundDiv num den := by
  have less : 2 * (num % den * k) < den * k ↔ 2 * (num % den) < den := by
    rw [← Nat.mul_assoc, Nat.mul_lt_mul_right pos]
  have half : 2 * (num % den * k) = den * k ↔ 2 * (num % den) = den := by
    rw [← Nat.mul_assoc, Nat.mul_right_cancel_iff pos]
  simp only [roundDiv, Nat.mul_div_mul_right _ _ pos, Nat.mul_mod_mul_right, less, half]

/-- Only the quotient counts. -/
theorem nearest_mul_right (pos : 0 < k) (num den : Nat) :
    nearest (num * k) (den * k) = nearest num den := by
  have shift (s : Nat) : (den * k) <<< s = den <<< s * k := by
    rw [Nat.shiftLeft_eq, Nat.shiftLeft_eq, Nat.mul_right_comm]
  simp only [nearest, Nat.mul_div_mul_right _ _ pos, shift, roundDiv_mul_right pos]

/-! ## Sizes -/

/-- Numbers of at most 53 bits are a unit apart; of the others, 53 bits count. -/
theorem spacing_eq (lower : k = 0 ∨ 1 <<< (52 + k) ≤ n) (upper : n < 1 <<< (53 + k)) :
    spacing n = k := by
  rw [Nat.one_shiftLeft] at lower upper
  by_cases zero : n = 0
  · have none : k = 0 := by
      have := Nat.two_pow_pos (52 + k)
      omega
    rw [zero, none]
    rfl
  · have high : n.log2 < 53 + k := (Nat.log2_lt zero).mpr upper
    have low : k = 0 ∨ 52 + k ≤ n.log2 := lower.imp_right (Nat.le_log2 zero).mpr
    rw [spacing]
    omega

theorem lt_of_spacing (n : Nat) : n < 1 <<< (53 + spacing n) := by
  rw [Nat.one_shiftLeft]
  refine Nat.lt_of_lt_of_le (Nat.lt_log2_self) (Nat.pow_le_pow_right (by decide) ?_)
  rw [spacing]
  omega

theorem le_of_spacing (far : 0 < spacing n) : 1 <<< (52 + spacing n) ≤ n := by
  rw [spacing] at far ⊢
  have positive : n ≠ 0 := by
    rintro rfl
    exact absurd far (by decide)
  have same : 52 + (n.log2 - 52) = n.log2 := by omega
  rw [same, Nat.one_shiftLeft]
  exact Nat.log2_self_le positive

/-- A count of units that is a number: 53 bits hold it. -/
def IsNumber (units : Nat) : Prop := 1 <<< spacing units ∣ units

/-- A number has 53 bits, and if it is not among the least numbers, all of them count. -/
theorem IsNumber.exists_shiftLeft (number : IsNumber n) :
    ∃ m < 9007199254740992, (0 < spacing n → 4503599627370496 ≤ m) ∧ m <<< spacing n = n := by
  have full := lt_of_spacing n
  have leading := le_of_spacing (n := n)
  obtain ⟨m, same⟩ := number
  generalize spacing n = k at *
  have whole : m <<< k = n := by
    rw [same, Nat.one_shiftLeft, Nat.shiftLeft_eq, Nat.mul_comm]
  refine ⟨m, ?_, fun far => ?_, whole⟩
  · rw [← whole, Nat.shiftLeft_eq, Nat.one_shiftLeft, Nat.pow_add] at full
    exact Nat.lt_of_mul_lt_mul_right full
  · have leading := leading far
    rw [← whole, Nat.one_shiftLeft, Nat.pow_add, Nat.shiftLeft_eq] at leading
    exact Nat.le_of_mul_le_mul_right leading (Nat.two_pow_pos _)

theorem shiftLeft_52 (n k : Nat) : n * 1 <<< (52 + k) = 4503599627370496 * n <<< k := by
  rw [Nat.one_shiftLeft, Nat.shiftLeft_eq, Nat.pow_add, Nat.mul_left_comm]

theorem shiftLeft_53 (n k : Nat) : n * 1 <<< (53 + k) = 9007199254740992 * n <<< k := by
  rw [Nat.one_shiftLeft, Nat.shiftLeft_eq, Nat.pow_add, Nat.mul_left_comm]

/-! ## What reads back -/

theorem half_le (k : Nat) : 1 <<< (k - 1) ≤ 1 <<< k := by
  rw [Nat.one_shiftLeft, Nat.one_shiftLeft]
  exact Nat.pow_le_pow_right (by decide) (Nat.sub_le k 1)

theorem lowerEnd_ne_zero (positive : units ≠ 0) : lowerEnd units ≠ 0 := by
  have gap : 1 <<< spacing units ≤ units := by
    rw [Nat.one_shiftLeft]
    exact Nat.le_trans (Nat.pow_le_pow_right (by decide) (Nat.sub_le _ _))
      (Nat.log2_self_le positive)
  have half := half_le (spacing units)
  simp only [lowerEnd]
  split_ifs <;> omega

/-- Nothing but zero rounds to zero. -/
theorem not_readsBack_zero (positive : units ≠ 0) (pos : 0 < den) :
    readsBack units 0 den = false := by
  have lower := Nat.mul_pos (Nat.pos_of_ne_zero (lowerEnd_ne_zero positive)) pos
  rw [readsBack]
  split_ifs
  · rw [decide_eq_false (by omega), Bool.false_and]
  · rw [decide_eq_false (by omega), Bool.false_and]

theorem grid_pos (e : Int) : 0 < (grid e).2 := by
  cases e with
  | ofNat e => exact Nat.one_pos
  | negSucc e => exact Nat.pow_pos (by decide)

/-- Nothing below the least fraction that is rounded up to a number reads back as it. -/
theorem lowerEnd_le_of_readsBack (back : readsBack units num den = true) :
    lowerEnd units * den ≤ 2 * num := by
  rw [readsBack] at back
  split at back <;> simp only [Bool.and_eq_true, decide_eq_true_eq] at back <;> omega

/-- What reads back as a number is half of its spacing away at most, and less if the number is
odd. -/
theorem bounds_of_readsBack (back : readsBack units num den = true) :
    2 * (units * den) ≤ 2 * num + den <<< spacing units ∧
    2 * num ≤ 2 * (units * den) + den <<< spacing units ∧
    (2 * (units * den) = 2 * num + den <<< spacing units ∨
      2 * num = 2 * (units * den) + den <<< spacing units → (units >>> spacing units) % 2 = 0) := by
  have gap : 2 * units ≤ lowerEnd units + 1 <<< spacing units := by
    have half := half_le (spacing units)
    simp only [lowerEnd]
    split_ifs <;> omega
  have low : 2 * (units * den) ≤ lowerEnd units * den + den <<< spacing units := by
    have := Nat.mul_le_mul_right den gap
    rwa [Nat.add_mul, Nat.one_shiftLeft, Nat.mul_comm (2 ^ _), ← Nat.shiftLeft_eq,
      Nat.mul_assoc] at this
  have high : upperEnd units * den = 2 * (units * den) + den <<< spacing units := by
    rw [upperEnd, Nat.add_mul, Nat.one_shiftLeft, Nat.mul_comm (2 ^ _), ← Nat.shiftLeft_eq,
      Nat.mul_assoc]
  rw [readsBack, high] at back
  split at back
  · rename_i even
    simp only [Bool.and_eq_true, decide_eq_true_eq] at back
    exact ⟨by omega, by omega, fun _ => even⟩
  · simp only [Bool.and_eq_true, decide_eq_true_eq] at back
    exact ⟨by omega, by omega, by omega⟩

/-- A fraction is rounded to `m` times the spacing of its size. -/
theorem nearest_eq {m : Nat} (pos : 0 < den) (low : k = 0 ∨ 1 <<< (52 + k) * den ≤ num)
    (high : num < 1 <<< (53 + k) * den) (lower : 2 * (m * den <<< k) ≤ 2 * num + den <<< k)
    (upper : 2 * num ≤ 2 * (m * den <<< k) + den <<< k)
    (tie : 2 * (m * den <<< k) = 2 * num + den <<< k ∨ 2 * num = 2 * (m * den <<< k) + den <<< k →
      m % 2 = 0) : nearest num den = m <<< k := by
  have size : spacing (num / den) = k :=
    spacing_eq (low.imp_right (Nat.le_div_iff_mul_le pos).mpr) (Nat.div_lt_of_lt_mul (by
      rwa [Nat.mul_comm]))
  have wide : 0 < den <<< k := by
    rw [Nat.shiftLeft_eq]
    exact Nat.mul_pos pos (Nat.two_pow_pos k)
  rw [nearest]
  simp only [size, roundDiv_eq wide lower upper tie]

/-- Below a power of two, numbers are closer together. -/
theorem nearest_below_power (pos : 0 < den) (below : num < 4503599627370496 * den <<< (k + 1))
    (least : 2 * (4503599627370496 * den <<< (k + 1)) ≤ 2 * num + den <<< k) :
    nearest num den = 9007199254740992 <<< k := by
  rw [Nat.shiftLeft_succ] at below least
  refine nearest_eq pos (.inr ?_) ?_ ?_ ?_ (fun _ => rfl)
  · rw [Nat.mul_comm, shiftLeft_52]
    omega
  · rw [Nat.mul_comm, shiftLeft_53]
    omega
  · omega
  · omega

/-- **What reads back as a number is rounded to it.** -/
theorem nearest_of_readsBack (pos : 0 < den) (number : IsNumber units)
    (back : readsBack units num den = true) : nearest num den = units := by
  obtain ⟨lower, upper, tie⟩ := bounds_of_readsBack back
  have least := lowerEnd_le_of_readsBack back
  have ends : lowerEnd units = 2 * units -
      if 0 < spacing units ∧ units = 1 <<< (52 + spacing units)
      then 1 <<< (spacing units - 1) else 1 <<< spacing units := rfl
  obtain ⟨m, few, many, whole⟩ := number.exists_shiftLeft
  generalize spacing units = s at *
  have step : units * den = m * den <<< s := by
    rw [← whole, Nat.shiftLeft_eq, Nat.shiftLeft_eq, Nat.mul_assoc, Nat.mul_comm (2 ^ s)]
  have shifted : units >>> s = m := by
    rw [← whole, Nat.shiftLeft_shiftRight]
  have wide : 0 < den <<< s := by
    rw [Nat.shiftLeft_eq]
    exact Nat.mul_pos pos (Nat.two_pow_pos s)
  rw [step] at lower upper tie
  rw [shifted] at tie
  by_cases low : s = 0 ∨ 1 <<< (52 + s) * den ≤ num
  · have high : num < 1 <<< (53 + s) * den := by
      rw [Nat.mul_comm, shiftLeft_53]
      have := Nat.mul_le_mul_right (den <<< s) (Nat.succ_le_of_lt few)
      rw [Nat.succ_mul] at this
      omega
    rw [← whole]
    exact nearest_eq pos low high lower upper tie
  · -- The fraction is below the numbers that are as far apart as this one: it is a power of two.
    obtain ⟨far, below⟩ := not_or.mp low
    obtain ⟨t, rfl⟩ : ∃ t, s = t + 1 := ⟨s - 1, by omega⟩
    rw [Nat.not_le, Nat.mul_comm, shiftLeft_52] at below
    have power : m = 4503599627370496 := by
      refine Nat.le_antisymm (Nat.le_of_not_lt fun more => ?_) (many (Nat.succ_pos t))
      have := Nat.mul_le_mul_right (den <<< (t + 1)) (Nat.succ_le_of_lt more)
      rw [Nat.succ_mul] at this
      generalize den <<< (t + 1) = step at *
      omega
    have exact : units = 1 <<< (52 + (t + 1)) := by
      rw [Nat.one_shiftLeft, Nat.pow_add, ← whole, power, Nat.shiftLeft_eq]
    have value : 9007199254740992 <<< t = units := by
      rw [← whole, power, Nat.shiftLeft_eq, Nat.shiftLeft_eq, Nat.pow_succ]
      omega
    have half : 1 <<< t * den = den <<< t := by
      rw [Nat.one_shiftLeft, Nat.shiftLeft_eq, Nat.mul_comm]
    rw [ends, if_pos ⟨Nat.succ_pos t, exact⟩, Nat.add_sub_cancel, Nat.sub_mul, Nat.mul_assoc, step,
      power, half] at least
    rw [← value]
    exact nearest_below_power pos below (by omega)

/-! ## Exact numbers -/

theorem spacing_le (small : n < 1 <<< (53 + k)) : spacing n ≤ k := by
  by_cases zero : n = 0
  · rw [zero]
    exact Nat.zero_le k
  · rw [Nat.one_shiftLeft] at small
    have := (Nat.log2_lt zero).mpr small
    rw [spacing]
    omega

theorem isNumber_shiftLeft (small : n < 9007199254740992) (k : Nat) : IsNumber (n <<< k) := by
  have bound : n <<< k < 1 <<< (53 + k) := by
    rw [Nat.shiftLeft_eq, Nat.one_shiftLeft, Nat.pow_add]
    exact Nat.mul_lt_mul_of_pos_right small (Nat.two_pow_pos k)
  have power : 2 ^ k ∣ n <<< k := ⟨n, by rw [Nat.shiftLeft_eq, Nat.mul_comm]⟩
  rw [IsNumber, Nat.one_shiftLeft]
  exact Nat.dvd_trans (Nat.pow_dvd_pow 2 (spacing_le bound)) power

/-- A number is rounded to itself. -/
theorem nearest_self (number : IsNumber units) : nearest units 1 = units := by
  obtain ⟨m, -, -, whole⟩ := number.exists_shiftLeft
  have same : m * 1 <<< spacing units = units := by
    rw [Nat.one_shiftLeft, ← Nat.shiftLeft_eq, whole]
  have pos : 0 < 1 <<< spacing units := by
    rw [Nat.one_shiftLeft]
    exact Nat.two_pow_pos _
  have low : spacing units = 0 ∨ 1 <<< (52 + spacing units) ≤ units :=
    (Nat.eq_zero_or_pos _).imp_right le_of_spacing
  have read : nearest units 1 = m <<< spacing units := by
    refine nearest_eq Nat.one_pos ?_ ?_ (by omega) (by omega) (by omega)
    · rwa [Nat.mul_one]
    · rw [Nat.mul_one]
      exact lt_of_spacing units
  rw [read, whole]

theorem ofNat_eq (small : n < 9007199254740992) : ofNat n = n * one := by
  have same : n * one = n <<< 1074 := by
    rw [one, Nat.one_shiftLeft, Nat.shiftLeft_eq]
  rw [ofNat, same]
  exact nearest_self (isNumber_shiftLeft small 1074)

theorem powerOfTen_eq : ∀ k < 23, powerOfTen k = Nat.pow 10 k * one := by decide +kernel

/-- A short integer over a short power of ten is rounded once. -/
theorem quotient_eq (small : n < 9007199254740992) (places : k < 23) :
    quotient (ofNat n) (powerOfTen k) = nearest (n * one) (Nat.pow 10 k) := by
  rw [quotient, ofNat_eq small, powerOfTen_eq k places]
  exact nearest_mul_right (by decide) _ _

/-- A short integer times a power of ten that is short with it is not rounded at all. -/
theorem product_eq (small : n * Nat.pow 10 k < 9007199254740992) (places : k < 23) :
    product (ofNat n) (powerOfTen k) = n * Nat.pow 10 k * one := by
  have less : n ≤ n * Nat.pow 10 k := Nat.le_mul_of_pos_right n (Nat.pow_pos (by decide))
  have whole : ofNat (n * Nat.pow 10 k) = n * Nat.pow 10 k * one := ofNat_eq small
  have regroup : n * one * (Nat.pow 10 k * one) = n * Nat.pow 10 k * one * one := by
    rw [← Nat.mul_assoc, Nat.mul_right_comm n]
  have scaled := nearest_mul_right (k := one) (by decide) (n * Nat.pow 10 k * one) 1
  rw [Nat.one_mul] at scaled
  rw [product, ofNat_eq (Nat.lt_of_le_of_lt less small), powerOfTen_eq k places, regroup, scaled]
  exact whole

end Double

/-! ## Short decimals -/

namespace Decimal

open Double

variable {d : Decimal} {n : Nat} {e : Int}

/-- Few digits: at most 22 places are behind the point, and with one place at least the digits are a
number below `2 ^ 53`. -/
def Short (d : Decimal) : Prop :=
  -22 ≤ d.exponent ∧ d.digits * Nat.pow 10 (d.exponent + 1).toNat < 9007199254740992

/-- What a decimal is written as: its own digits, or as many as there are with one place behind the
point. -/
def Spells (d : Decimal) (n : Nat) (e : Int) : Prop :=
  (n = d.digits ∧ e = d.exponent) ∨
    (0 ≤ d.exponent ∧ n = d.digits * Nat.pow 10 (d.exponent.toNat + 1) ∧ e = -1)

/-- A short decimal is spelled in digits that are few. -/
theorem lt_of_spells (short : d.Short) (spells : d.Spells n e) : n < 9007199254740992 := by
  refine Nat.lt_of_le_of_lt ?_ short.2
  rcases spells with ⟨rfl, -⟩ | ⟨front, rfl, -⟩
  · exact Nat.le_mul_of_pos_right _ (Nat.pow_pos (by decide))
  · refine Nat.le_of_eq (congrArg (fun k => d.digits * Nat.pow 10 k) ?_)
    omega

/-- Digits with some places in front of the point, and one behind it. -/
theorem scaled?_front {k : Nat} (few : n * Nat.pow 10 (k + 1) < 9007199254740992) :
    scaled? (n * Nat.pow 10 (k + 1)) (-1) = some (nearest (n * (Nat.pow 10 k * one)) 1) := by
  have regroup : n * Nat.pow 10 (k + 1) * one = n * (Nat.pow 10 k * one) * 10 := by
    show n * (Nat.pow 10 k * 10) * one = _
    rw [← Nat.mul_assoc, Nat.mul_right_comm _ 10, Nat.mul_assoc n]
  have read : scaled? (n * Nat.pow 10 (k + 1)) (-1) =
      some (quotient (ofNat (n * Nat.pow 10 (k + 1))) (powerOfTen 1)) := rfl
  rw [read, quotient_eq few (by decide), regroup]
  exact congrArg some (nearest_mul_right (by decide) _ 1)

/-- Digits with some places in front of the point. -/
theorem scaled?_whole {k : Nat} (positive : n ≠ 0)
    (few : n * Nat.pow 10 (k + 1) < 9007199254740992) :
    scaled? n k = some (nearest (n * (Nat.pow 10 k * one)) 1) := by
  have power : Nat.pow 10 (k + 1) < Nat.pow 10 16 :=
    calc Nat.pow 10 (k + 1) ≤ n * Nat.pow 10 (k + 1) :=
          Nat.le_mul_of_pos_left _ (Nat.pos_of_ne_zero positive)
      _ < Nat.pow 10 16 := Nat.lt_trans few (by decide)
  have places : k + 1 < 16 := (Nat.pow_lt_pow_iff_right (by decide)).mp power
  have fewer : n * Nat.pow 10 k < 9007199254740992 := by
    refine Nat.lt_of_le_of_lt (Nat.mul_le_mul_left n ?_) few
    exact Nat.pow_le_pow_right (by decide) (Nat.le_succ k)
  have whole : ofNat (n * Nat.pow 10 k) = n * Nat.pow 10 k * one := ofNat_eq fewer
  have fits : n * Nat.pow 10 k * one < limit :=
    Nat.lt_of_lt_of_le (Nat.mul_lt_mul_of_pos_right fewer (by decide)) (by decide +kernel)
  have short : ¬ maxPower < k := by
    rw [maxPower]
    omega
  rw [← Nat.mul_assoc]
  show (if n = 0 then some 0 else if maxPower < k then none
    else if product (ofNat n) (powerOfTen k) < limit then _ else none) = _
  rw [if_neg positive, if_neg short, product_eq fewer (by omega), if_pos fits]
  exact congrArg some whole.symm

/-- Digits with some places behind the point. -/
theorem scaled?_behind {k : Nat} (few : n < 9007199254740992) (places : k + 1 < 23) :
    scaled? n (.negSucc k) = some (nearest (n * one) (Nat.pow 10 (k + 1))) := by
  have short : k + 1 ≤ maxPower := by
    rw [maxPower]
    omega
  simp only [scaled?, if_pos short, quotient_eq few places]

/-- **A short decimal is rounded once**, whichever way it is spelled. -/
theorem scaled?_of_spells (positive : d.digits ≠ 0) (short : d.Short) (spells : d.Spells n e) :
    scaled? n e = some (nearest (d.digits * (grid d.exponent).1) (grid d.exponent).2) := by
  obtain ⟨digits, exponent⟩ := d
  obtain ⟨places, few⟩ := short
  cases exponent with
  | ofNat k =>
    have few : digits * Nat.pow 10 (k + 1) < 9007199254740992 := few
    rcases spells with ⟨rfl, rfl⟩ | ⟨-, rfl, rfl⟩
    · exact scaled?_whole positive few
    · exact scaled?_front few
  | negSucc k =>
    have none : (Int.negSucc k + 1).toNat = 0 := by omega
    have few : digits < 9007199254740992 := by
      simp only [none] at few
      have few : digits * 1 < 9007199254740992 := few
      omega
    have places : k + 1 < 23 := by
      simp only at places
      omega
    rcases spells with ⟨rfl, rfl⟩ | ⟨front, -⟩
    · exact scaled?_behind few ‹k + 1 < 23›
    · exact absurd front (by simp)

end Decimal

end TaskWorker
