/-!
# Numbers of double precision

The numbers that a binary format of 64 bits can hold: 53 bits and a power of two. All of them are
whole multiples of the least one, `2⁻¹⁰⁷⁴`, which is the unit here, so that a number is a sign and a
count of units.

* `Double`; `Double.spacing`, how far apart the numbers of a size are;
* `Double.roundDiv`, a quotient rounded to the nearest whole number, and `Double.nearest`, rounded
  to the nearest number; in a tie the even one is taken;
* **`roundDiv_bounds`**: what is rounded moves by half a unit at most;
* `Double.scaled?`, an integer times a power of ten, each of which is rounded before.
-/

namespace TaskWorker

/-- The number `±units · 2⁻¹⁰⁷⁴`. -/
structure Double where
  negative : Bool
  units : Nat
  deriving DecidableEq, Repr, Inhabited

namespace Double

/-- The units of the number one. -/
def one : Nat := 1 <<< 1074

/-- The least power of two that is too large, in units. -/
def limit : Nat := 1 <<< 2098

/-- Numbers of so many units are `2 ^ spacing` units apart, as 53 bits of them count. -/
def spacing (units : Nat) : Nat := units.log2 - 52

/-- The whole number nearest to a quotient; of two the even one. -/
def roundDiv (num den : Nat) : Nat :=
  let q := num / den
  let r := num % den
  if 2 * r < den ∨ (2 * r = den ∧ q % 2 = 0) then q else q + 1

/-- The units of the number nearest to `num / den` units. -/
def nearest (num den : Nat) : Nat :=
  let k := spacing (num / den)
  roundDiv num (den <<< k) <<< k

/-- The units nearest to a natural number. -/
def ofNat (n : Nat) : Nat := nearest (n * one) 1

/-- The units nearest to a power of ten. -/
def powerOfTen (k : Nat) : Nat := ofNat (Nat.pow 10 k)

/-- The units nearest to a product. -/
def product (a b : Nat) : Nat := nearest (a * b) one

/-- The units nearest to a quotient. -/
def quotient (a b : Nat) : Nat := nearest (a * one) b

/-- The largest power of ten that is a number. -/
def maxPower : Nat := 308

/-- The units of `n · 10 ^ e`, unless they are too many. The integer and the power of ten are
rounded first, then their product or quotient; a quotient by more than the largest power of ten is
taken in two steps, behind which nothing is left of an integer of 64 bits. -/
def scaled? (n : Nat) : Int → Option Nat
  | .ofNat e =>
    if n = 0 then some 0
    else if maxPower < e then none
    else
      let units := product (ofNat n) (powerOfTen e)
      if units < limit then some units else none
  | .negSucc e =>
    let e := e + 1
    if e ≤ maxPower then some (quotient (ofNat n) (powerOfTen e))
    else if e ≤ 2 * maxPower then
      some (quotient (quotient (ofNat n) (powerOfTen maxPower)) (powerOfTen (e - maxPower)))
    else some 0

/-! ## Rounding -/

/-- **A rounded quotient is off by half a unit at most.** -/
theorem roundDiv_bounds {num den : Nat} (h : 0 < den) :
    2 * (roundDiv num den * den) ≤ 2 * num + den ∧
      2 * num ≤ 2 * (roundDiv num den * den) + den := by
  have e : den * (num / den) + num % den = num := Nat.div_add_mod num den
  have l : num % den < den := Nat.mod_lt _ h
  have m : num / den * den = den * (num / den) := Nat.mul_comm ..
  have s : (num / den + 1) * den = den * (num / den) + den := by
    rw [Nat.add_mul, Nat.one_mul, m]
  simp only [roundDiv]
  split
  · omega
  · omega

/-- A whole quotient stays as it is. -/
theorem roundDiv_mul {n den : Nat} (h : 0 < den) : roundDiv (n * den) den = n := by
  simp [roundDiv, Nat.mul_div_cancel _ h, h]

end Double

end TaskWorker
