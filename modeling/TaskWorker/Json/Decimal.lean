import TaskWorker.Json.Double
/-!
# Numbers in writing

A number of double precision is written in the fewest decimal digits that read back as this number;
of those, in the digits that come nearest to it.

* `Decimal`, digits and a power of ten; `Decimal.text`: positional for magnitudes from `10⁻⁵` on and
  below `10¹⁶`, with an exponent outside;
* `Double.readsBack`, whether a fraction rounds to a number;
* `Double.shortest`, the fewest digits, found by trying the powers of ten from the largest on;
* **`readsBack_of_onGrid?`**: what is found for a power of ten reads back.
-/

namespace TaskWorker

/-- The number `digits · 10 ^ exponent`. -/
structure Decimal where
  digits : Nat
  exponent : Int
  deriving DecidableEq, Repr, Inhabited

/-- The text of significant digits. -/
def Decimal.text (d : Decimal) : List Char :=
  let ds := Nat.toDigits 10 d.digits
  let point : Int := ds.length + d.exponent
  if 0 ≤ d.exponent ∧ point ≤ 16 then ds ++ List.replicate d.exponent.toNat '0' ++ ['.', '0']
  else if 0 < point ∧ point ≤ 16 then ds.take point.toNat ++ ['.'] ++ ds.drop point.toNat
  else if -5 < point ∧ point ≤ 0 then
    ['0', '.'] ++ List.replicate (-point).toNat '0' ++ ds
  else
    let sign := if 0 < point then ['+'] else []
    let power := 'e' :: sign ++ (toString (point - 1)).toList
    match ds with
    | d :: r@(_ :: _) => d :: '.' :: r ++ power
    | _ => ds ++ power

namespace Double

/-! ## The fewest digits -/

/-- Twice the units of the least fraction that is rounded up to a number. The numbers below a power
of two are closer together than those above. -/
def lowerEnd (units : Nat) : Nat :=
  let k := spacing units
  2 * units - if 0 < k ∧ units = 1 <<< (52 + k) then 1 <<< (k - 1) else 1 <<< k

/-- Twice the units of the largest fraction that is rounded down to a number. -/
def upperEnd (units : Nat) : Nat := 2 * units + 1 <<< spacing units

/-- Whether `num / den` units round to a number. The ends do when the number is even. -/
def readsBack (units num den : Nat) : Bool :=
  if (units >>> spacing units) % 2 = 0 then
    lowerEnd units * den ≤ 2 * num && 2 * num ≤ upperEnd units * den
  else lowerEnd units * den < 2 * num && 2 * num < upperEnd units * den

/-- The units of a power of ten, as a fraction. -/
def grid : Int → Nat × Nat
  | .ofNat e => (Nat.pow 10 e * one, 1)
  | .negSucc e => (one, Nat.pow 10 (e + 1))

/-- One of `n` and `n + 1` that is `good`; of two the first if it is `nearer`. -/
def choose (good : Nat → Bool) (nearer : Bool) (n : Nat) : Option Nat :=
  if good n && (nearer || !good (n + 1)) then some n
  else if good (n + 1) then some (n + 1)
  else none

/-- The multiple of a power of ten that reads back as a number, if there is one; of two the nearer,
and in a tie the even one. -/
def onGrid? (units : Nat) (e : Int) : Option Nat :=
  let (num, den) := grid e
  let n := units * den / num
  let twice := 2 * units * den
  let middle := (2 * n + 1) * num
  choose (fun n => readsBack units (n * num) den)
    (twice < middle || (twice = middle && n % 2 = 0)) n

/-- Tries `fuel` powers of ten, from `10 ^ e` downwards, for a multiple that `digits?` finds. -/
def search (digits? : Int → Option Nat) : Nat → Int → Option Decimal
  | 0, _ => none
  | fuel + 1, e =>
    match digits? e with
    | some n => some ⟨n, e⟩
    | none => search digits? fuel (e - 1)

/-- A power of ten above a number; `0.30103` is a little more than the logarithm of two. -/
def powerAbove (units : Nat) : Int := ((units.log2 : Int) - 1073) * 30103 / 100000 + 1

/-- All digits of a number. -/
def exactly (units : Nat) : Decimal := ⟨units * Nat.pow 5 1074, -1074⟩

/-- The fewest digits that read back as a number. There are 17 at most, so that the search ends
before it has to fall back on all digits. -/
def shortest (units : Nat) : Decimal :=
  (search (onGrid? units) 24 (powerAbove units)).getD (exactly units)

/-- The text of a number. -/
def text (d : Double) : List Char :=
  let body := if d.units = 0 then ['0', '.', '0'] else (shortest d.units).text
  if d.negative then '-' :: body else body

/-- What the search ends with was found. -/
theorem found_of_search {digits? : Int → Option Nat} {fuel : Nat} {e : Int} {d : Decimal}
    (h : search digits? fuel e = some d) : digits? d.exponent = some d.digits := by
  induction fuel generalizing e with
  | zero => cases h
  | succ fuel ih =>
    rw [search] at h
    split at h
    · next n here =>
      cases h
      exact here
    · exact ih h

/-- What is chosen is good. -/
theorem good_of_choose (good : Nat → Bool) {nearer : Bool} {n m : Nat}
    (h : choose good nearer n = some m) : good m = true := by
  simp only [choose] at h
  split at h
  · next hn =>
    simp only [Bool.and_eq_true] at hn
    exact Option.some.inj h ▸ hn.1
  · split at h
    · next hn => exact Option.some.inj h ▸ hn
    · cases h

/-- **What is found for a power of ten reads back.** -/
theorem readsBack_of_onGrid? {units n : Nat} {e : Int} (h : onGrid? units e = some n) :
    readsBack units (n * (grid e).1) (grid e).2 = true :=
  good_of_choose (fun n => readsBack units (n * (grid e).1) (grid e).2) h

end Double

end TaskWorker
