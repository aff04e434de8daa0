import TaskWorker.Proofs.Digits
/-!
# Which texts are numerals

A numeral is read digit by digit and refused as soon as it has outgrown its range. What it comes to
in the end needs no reader: a numeral is one digit or more, perhaps behind a plus sign, and it is in
range if its value is.

* `IsNumeralOf`, the numerals of a number; `IsNumeral`, those within a bound;
* `readDigits_eq_ok_iff`, **`readNumeral_eq_ok_iff`**: a number is read exactly from its numerals,
  if it is within the bound; `readNumeral_word_iff`: so is a number of 64 bits; `isNumeral_iff`: a
  numeral is a text that can be read.
-/

namespace TaskWorker.Text

variable {bound n m : Nat} {c : Char} {cs : List Char}

/-- One digit or more, with at most one plus sign in front, that come to a number. -/
def IsNumeralOf (cs : List Char) (n : Nat) : Prop :=
  ∃ ds, (cs = ds ∨ cs = '+' :: ds) ∧ ds ≠ [] ∧ (∀ c ∈ ds, c.isDigit = true) ∧ numberOf ds = n

/-- A numeral of a number within a bound. -/
def IsNumeral (bound : Nat) (cs : List Char) : Prop := ∃ n, IsNumeralOf cs n ∧ n ≤ bound

/-- Digits are read behind a number exactly if they do not take it out of range: a number on the way
is never larger than the last one. -/
theorem readDigits_eq_ok_iff (le : n ≤ bound) : readDigits bound n cs = .ok m ↔
    (∀ c ∈ cs, c.isDigit = true) ∧ numberFrom n cs = m ∧ m ≤ bound := by
  induction cs generalizing n with
  | nil =>
    show Except.ok n = .ok m ↔ _
    rw [Except.ok.injEq]
    exact ⟨fun same => ⟨by simp, same, same ▸ le⟩, fun read => read.2.1⟩
  | cons c cs ih =>
    rw [readDigits, List.forall_mem_cons]
    by_cases digit : c.isDigit = true
    · have value : digit? c = some (c.toNat - '0'.toNat) := if_pos digit
      simp only [value]
      by_cases large : bound < n * 10 + (c.toNat - '0'.toNat)
      · rw [if_pos large]
        constructor
        · intro refused
          cases refused
        · rintro ⟨-, same, fits⟩
          have grown := le_numberFrom (n * 10 + (c.toNat - '0'.toNat)) cs
          rw [show numberFrom (n * 10 + (c.toNat - '0'.toNat)) cs = m from same] at grown
          omega
      · rw [if_neg large, ih (Nat.le_of_not_lt large)]
        exact ⟨fun read => ⟨⟨digit, read.1⟩, read.2⟩, fun read => ⟨read.1.2, read.2⟩⟩
    · have value : digit? c = none := if_neg digit
      simp only [value]
      constructor
      · intro refused
        cases refused
      · intro read
        exact absurd read.1.1 digit

theorem readNumeral_plus (some : cs ≠ []) :
    readNumeral bound ('+' :: cs) = readDigits bound 0 cs := by
  obtain ⟨c, cs, rfl⟩ := List.exists_cons_of_ne_nil some
  rfl

theorem readNumeral_unsigned (some : cs ≠ []) (clear : cs.head? ≠ '+') :
    readNumeral bound cs = readDigits bound 0 cs := by
  unfold readNumeral
  split
  · exact absurd rfl some
  · exact absurd rfl clear
  · exact absurd rfl clear
  · rfl

/-- **A number is read exactly from its numerals,** if it is within the bound. -/
theorem readNumeral_eq_ok_iff :
    readNumeral bound cs = .ok n ↔ IsNumeralOf cs n ∧ n ≤ bound := by
  have digits (ds : List Char) : readDigits bound 0 ds = .ok n ↔
      ((∀ c ∈ ds, c.isDigit = true) ∧ numberOf ds = n) ∧ n ≤ bound := by
    rw [readDigits_eq_ok_iff (Nat.zero_le bound), and_assoc]
    rfl
  constructor
  · intro read
    by_cases some : cs = []
    · rw [some] at read
      cases read
    by_cases plus : cs.head? = '+'
    · obtain ⟨ds, rfl⟩ := List.head?_eq_some_iff.mp plus
      by_cases lone : ds = []
      · rw [lone] at read
        cases read
      rw [readNumeral_plus lone, digits] at read
      exact ⟨⟨ds, .inr rfl, lone, read.1⟩, read.2⟩
    · rw [readNumeral_unsigned some plus, digits] at read
      exact ⟨⟨cs, .inl rfl, some, read.1⟩, read.2⟩
  · rintro ⟨⟨ds, rfl | rfl, some, value⟩, le⟩
    · have clear : cs.head? ≠ '+' := by
        intro plus
        obtain ⟨ds, rfl⟩ := List.head?_eq_some_iff.mp plus
        exact absurd (value.1 '+' List.mem_cons_self) (by decide)
      rw [readNumeral_unsigned some clear, digits]
      exact ⟨value, le⟩
    · rw [readNumeral_plus some, digits]
      exact ⟨value, le⟩

/-- **A number of 64 bits is read exactly from its numerals.** -/
theorem readNumeral_word_iff {w : UInt64} :
    (∃ n, readNumeral (UInt64.size - 1) cs = .ok n ∧ UInt64.ofNat n = w) ↔
      IsNumeralOf cs w.toNat := by
  constructor
  · rintro ⟨n, read, rfl⟩
    obtain ⟨numeral, le⟩ := readNumeral_eq_ok_iff.mp read
    have lt : n < UInt64.size := Nat.lt_of_le_sub_one (by decide) le
    rwa [UInt64.toNat_ofNat_of_lt' lt]
  · intro numeral
    have le : w.toNat ≤ UInt64.size - 1 := Nat.le_sub_one_of_lt w.toNat_lt_size
    exact ⟨w.toNat, readNumeral_eq_ok_iff.mpr ⟨numeral, le⟩, UInt64.ofNat_toNat⟩

/-- A numeral within a bound is a text that can be read. -/
theorem isNumeral_iff : IsNumeral bound cs ↔ ∃ n, readNumeral bound cs = .ok n := by
  simp only [IsNumeral, readNumeral_eq_ok_iff]

instance (bound : Nat) (cs : List Char) : Decidable (IsNumeral bound cs) :=
  decidable_of_iff ((readNumeral bound cs).isOk = true) <| by
    rw [isNumeral_iff]
    cases readNumeral bound cs <;> simp [Except.isOk, Except.toBool]

end TaskWorker.Text
