/-!
# Decimal numerals

A count in settings is written in decimal digits, with at most one plus sign in front. Reading it
into a range can fail in three ways, and the fault that is met first counts: digits are looked at
from the left, and a number that has outgrown its range is refused before the next digit is seen.

* `readNumeral bound`, the reader; `NumeralFault.reason`, the wording of its faults;
* `numberOf`, the value of a sequence of digits; `padded`, a number in a fixed width;
* **`readNumeral_toDigits`**: a number within the bound, written in decimal, is read back;
* `readNumeral_le`: what is read is within the bound.
-/

namespace TaskWorker.Text

/-- Why a numeral is refused. -/
inductive NumeralFault where
  | empty
  | invalidDigit
  | tooLarge
  deriving DecidableEq, Repr

/-- The wording of a fault. -/
def NumeralFault.reason : NumeralFault → String
  | .empty => "cannot parse integer from empty string"
  | .invalidDigit => "invalid digit found in string"
  | .tooLarge => "number too large to fit in target type"

/-- The value of a decimal digit. -/
def digit? (c : Char) : Option Nat :=
  if c.isDigit then some (c.toNat - '0'.toNat) else none

/-- The value of a sequence of decimal digits. -/
def numberOf (ds : List Char) : Nat := ds.foldl (fun n c => n * 10 + (c.toNat - '0'.toNat)) 0

/-- Digits behind as many zeros as fill up a width. -/
def fill (width : Nat) (ds : List Char) : List Char := List.replicate (width - ds.length) '0' ++ ds

/-- A number in at least `width` decimal digits. -/
def padded (width n : Nat) : List Char := fill width (Nat.toDigits 10 n)

/-- Reads the digits that follow a number already read. -/
def readDigits (bound : Nat) : Nat → List Char → Except NumeralFault Nat
  | n, [] => .ok n
  | n, c :: cs =>
    match digit? c with
    | none => .error .invalidDigit
    | some d => if bound < n * 10 + d then .error .tooLarge else readDigits bound (n * 10 + d) cs

/-- Reads a numeral of at most `bound`. -/
def readNumeral (bound : Nat) : List Char → Except NumeralFault Nat
  | [] => .error .empty
  | ['+'] => .error .invalidDigit
  | '+' :: cs => readDigits bound 0 cs
  | cs => readDigits bound 0 cs

theorem readDigits_le {bound n m : Nat} {cs : List Char} (hn : n ≤ bound)
    (h : readDigits bound n cs = .ok m) : m ≤ bound := by
  induction cs generalizing n with
  | nil => simpa [readDigits] using (by simpa [readDigits] using h : n = m) ▸ hn
  | cons c cs ih =>
    simp only [readDigits] at h
    split at h
    · cases h
    · split at h
      · cases h
      · exact ih (by omega) h

/-- What is read is within the bound. -/
theorem readNumeral_le {bound m : Nat} {cs : List Char} (h : readNumeral bound cs = .ok m) :
    m ≤ bound := by
  unfold readNumeral at h
  split at h
  · cases h
  · cases h
  · exact readDigits_le (Nat.zero_le _) h
  · exact readDigits_le (Nat.zero_le _) h

/-! ## Reading back -/

theorem digit?_digitChar {d : Nat} (h : d < 10) : digit? (Nat.digitChar d) = some d := by
  have : d = 0 ∨ d = 1 ∨ d = 2 ∨ d = 3 ∨ d = 4 ∨ d = 5 ∨ d = 6 ∨ d = 7 ∨ d = 8 ∨ d = 9 := by omega
  rcases this with rfl | rfl | rfl | rfl | rfl | rfl | rfl | rfl | rfl | rfl <;> rfl

theorem readDigits_append {bound n m : Nat} {cs ds : List Char}
    (h : readDigits bound n cs = .ok m) :
    readDigits bound n (cs ++ ds) = readDigits bound m ds := by
  induction cs generalizing n with
  | nil => simp only [readDigits, Except.ok.injEq] at h; simp [h]
  | cons c cs ih =>
    simp only [readDigits, List.cons_append] at h ⊢
    split at h
    · cases h
    · rename_i d hd
      split at h
      · cases h
      · rename_i hb
        simpa [hb] using ih h

theorem readDigits_toDigits {bound : Nat} (n : Nat) (h : n ≤ bound) :
    readDigits bound 0 (Nat.toDigits 10 n) = .ok n := by
  induction n using Nat.strongRecOn with
  | _ n ih =>
    by_cases hn : n < 10
    · rw [Nat.toDigits_of_lt_base hn]
      simp [readDigits, digit?_digitChar hn, Nat.not_lt.mpr h]
    · rw [Nat.toDigits_of_base_le (by decide) (by omega)]
      have hq := ih (n / 10) (by omega) (by omega)
      rw [readDigits_append hq]
      have hlt : n % 10 < 10 := Nat.mod_lt _ (by decide)
      have hsum : n / 10 * 10 + n % 10 = n := by omega
      simp [readDigits, digit?_digitChar hlt, hsum, Nat.not_lt.mpr h]

/-- **A number within the bound, written in decimal, is read back.** -/
theorem readNumeral_toDigits {bound : Nat} (n : Nat) (h : n ≤ bound) :
    readNumeral bound (Nat.toDigits 10 n) = .ok n := by
  have key := readDigits_toDigits n h
  have hd : ∀ c ∈ Nat.toDigits 10 n, c.isDigit = true :=
    fun c hc => Nat.isDigit_of_mem_toDigits (by decide) (by decide) hc
  have hne : Nat.toDigits 10 n ≠ [] := by
    by_cases hn : n < 10
    · simp [Nat.toDigits_of_lt_base hn]
    · simp [Nat.toDigits_of_base_le (by decide : 1 < 10) (Nat.le_of_not_lt hn)]
  unfold readNumeral
  split
  · rename_i heq; exact absurd heq hne
  · rename_i heq; rw [heq] at hd; exact absurd (hd '+' (by simp)) (by decide)
  · rename_i cs _ heq; rw [heq] at hd; exact absurd (hd '+' (by simp)) (by decide)
  · exact key

end TaskWorker.Text
