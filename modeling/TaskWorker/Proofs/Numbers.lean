import Mathlib.Tactic.SplitIfs
import TaskWorker.Json.Writer
import TaskWorker.Json.Reader
import TaskWorker.Proofs.Digits
import TaskWorker.Proofs.Rounding
/-!
# Numbers in documents

A number that a text begins with is read to its end, whatever comes behind it, as long as it is a
comma or a closing bracket. The text of a number is read to its end.

* `Reader.Ends`, what comes behind a value; **`Reader.number_append`**: a number that takes all of a
  text stops there when more comes;
* `Reader.intDraft`, what an integer becomes; `Reader.number_int`, `Reader.intDraft_of_isExact`;
* `Reader.double_eq`: digits that fit into 64 bits are scaled as they are; `Reader.Spelled`,
  **`Reader.spelled_text`**: the text of a decimal spells it;
* **`Double.number_text`**: the text of a number is read to its end; `Double.number_eq`: as what its
  digits are scaled to;
* `Double.Short`, the numbers of few digits; **`Double.number_of_short`**: they are read back.
-/

namespace TaskWorker

namespace Reader

open Text

variable {cs ds whole fraction rest : List Char} {c : Char} {d : Draft} {negative minus : Bool}

/-! ## What comes behind a value -/

/-- A text that is over, or goes on behind a value. -/
def Ends (rest : List Char) : Prop := ∀ c ∈ rest.head?, c = ',' ∨ c = ']' ∨ c = '\x7d'

theorem ends_nil : Ends [] := nofun

theorem ends_cons (c : Char) (rest : List Char) (kind : c = ',' ∨ c = ']' ∨ c = '\x7d') :
    Ends (c :: rest) := by
  intro d mem
  cases mem
  exact kind

theorem Ends.noDigit (ends : Ends rest) : NoDigit rest := by
  intro c mem
  rcases ends c mem with rfl | rfl | rfl <;> rfl

theorem takeWhile_append (ends : Ends rest) (cs : List Char) :
    (cs ++ rest).takeWhile Char.isDigit = cs.takeWhile Char.isDigit := by
  rw [List.takeWhile_append, takeWhile_noDigit ends.noDigit, List.append_nil]
  split_ifs with all
  · exact (List.takeWhile_prefix Char.isDigit).eq_of_length all |>.symm
  · rfl

theorem dropWhile_append (ends : Ends rest) (cs : List Char) :
    (cs ++ rest).dropWhile Char.isDigit = cs.dropWhile Char.isDigit ++ rest := by
  rw [List.dropWhile_append, dropWhile_noDigit ends.noDigit]
  split_ifs with none
  · rw [List.isEmpty_iff.mp none, List.nil_append]
  · rfl

/-! ## Numbers with something behind them -/

theorem badNumber_ne (rest : List Char) : badNumber rest ≠ (d, some cs) := nofun

theorem scientific_append
    (read : scientific negative whole fraction minus cs = (d, some [])) (ends : Ends rest) :
    scientific negative whole fraction minus (cs ++ rest) = (d, some rest) := by
  simp only [scientific] at read ⊢
  rw [takeWhile_append ends, dropWhile_append ends]
  by_cases none : (cs.takeWhile Char.isDigit).isEmpty = true
  · rw [if_pos none] at read
    exact absurd read (badNumber_ne _)
  · rw [if_neg none, Prod.mk.injEq, Option.some.injEq] at read
    rw [if_neg none, read.1, read.2, List.nil_append]

theorem power_cons (plus : c ≠ '+') (dash : c ≠ '-') (cs : List Char) :
    power negative whole fraction (c :: cs) =
      scientific negative whole fraction false (c :: cs) := by
  unfold power
  split
  · rename_i eq
    exact absurd (List.cons.inj eq).1 plus
  · rename_i eq
    exact absurd (List.cons.inj eq).1 dash
  · rfl

theorem power_append (read : power negative whole fraction cs = (d, some [])) (ends : Ends rest) :
    power negative whole fraction (cs ++ rest) = (d, some rest) := by
  cases cs with
  | nil => exact absurd read (badNumber_ne [])
  | cons c cs =>
    by_cases plus : c = '+'
    · subst plus
      exact scientific_append read ends
    · by_cases dash : c = '-'
      · subst dash
        exact scientific_append read ends
      · rw [power_cons plus dash] at read
        rw [List.cons_append, power_cons plus dash]
        exact scientific_append read ends

theorem exponent_ends (ends : Ends rest) (fraction : Option (List Char)) :
    exponent negative whole fraction rest = (plain negative whole fraction, some rest) := by
  cases rest with
  | nil => rfl
  | cons c rest =>
    refine if_neg ?_
    rcases ends c rfl with rfl | rfl | rfl <;> decide

theorem exponent_append {fraction : Option (List Char)}
    (read : exponent negative whole fraction cs = (d, some [])) (ends : Ends rest) :
    exponent negative whole fraction (cs ++ rest) = (d, some rest) := by
  cases cs with
  | nil =>
    cases read
    exact exponent_ends ends fraction
  | cons c cs =>
    rw [List.cons_append, exponent]
    rw [exponent] at read
    by_cases letter : c = 'e' ∨ c = 'E'
    · rw [if_pos letter] at read ⊢
      exact power_append read ends
    · rw [if_neg letter] at read
      cases read

/-- Without a point there is no fraction. -/
theorem fractional_of_ne (other : ∀ c ∈ cs.head?, c ≠ '.') :
    fractional negative whole cs = exponent negative whole none cs := by
  unfold fractional
  split
  · exact absurd rfl (other '.' rfl)
  · rfl

theorem fractional_append (read : fractional negative whole cs = (d, some [])) (ends : Ends rest) :
    fractional negative whole (cs ++ rest) = (d, some rest) := by
  cases cs with
  | nil =>
    have other : ∀ c ∈ rest.head?, c ≠ '.' := by
      intro c mem
      rcases ends c mem with rfl | rfl | rfl <;> decide
    rw [fractional_of_ne (by simp)] at read
    rw [List.nil_append, fractional_of_ne other]
    exact exponent_append read ends
  | cons c cs =>
    by_cases point : c = '.'
    · subst point
      simp only [fractional, List.cons_append] at read ⊢
      rw [takeWhile_append ends, dropWhile_append ends]
      by_cases none : (cs.takeWhile Char.isDigit).isEmpty = true
      · rw [if_pos none] at read
        exact absurd read (badNumber_ne _)
      · rw [if_neg none] at read ⊢
        exact exponent_append read ends
    · have other : ∀ b ∈ (c :: cs).head?, b ≠ '.' := by
        intro b mem
        cases mem
        exact point
      rw [fractional_of_ne other] at read
      have other' : ∀ b ∈ (c :: cs ++ rest).head?, b ≠ '.' := other
      rw [fractional_of_ne other']
      exact exponent_append read ends

theorem unsigned_append (read : unsigned negative cs = (d, some [])) (ends : Ends rest) :
    unsigned negative (cs ++ rest) = (d, some rest) := by
  simp only [unsigned] at read ⊢
  rw [takeWhile_append ends, dropWhile_append ends]
  split at read
  · exact absurd read (badNumber_ne _)
  · cases read
  · exact fractional_append read ends

theorem number_cons (dash : c ≠ '-') (cs : List Char) :
    number (c :: cs) = unsigned false (c :: cs) := by
  unfold number
  split
  · rename_i eq
    exact absurd (List.cons.inj eq).1 dash
  · rfl

/-- **A number that takes all of a text** is read there whatever comes behind it. -/
theorem number_append (read : number cs = (d, some [])) (ends : Ends rest) :
    number (cs ++ rest) = (d, some rest) := by
  cases cs with
  | nil => exact absurd read (badNumber_ne [])
  | cons c cs =>
    by_cases dash : c = '-'
    · subst dash
      exact unsigned_append read ends
    · rw [number_cons dash] at read
      rw [List.cons_append, number_cons dash]
      exact unsigned_append read ends

/-! ## Numbers read to their end -/

/-- Digits in front of the point, as they may be written: no zero stands in front of others. -/
structure Leading (ws : List Char) : Prop where
  nonempty : ws ≠ []
  digits : ∀ c ∈ ws, c.isDigit = true
  zero : ws.head? = some '0' → ws = ['0']

theorem leading_zero : Leading ['0'] :=
  ⟨nofun, List.forall_mem_singleton.mpr rfl, fun _ => rfl⟩

theorem leading_toDigits (n : Nat) : Leading (Nat.toDigits 10 n) := by
  refine ⟨Nat.toDigits_ne_nil, fun _ => isDigit_toDigits, fun zero => ?_⟩
  by_cases positive : n = 0
  · rw [positive]
    rfl
  · exact absurd zero (head_toDigits_ne positive)

/-- Digits are taken up to what follows them. -/
theorem unsigned_digits {ws : List Char} (leading : Leading ws) (stop : NoDigit rest) :
    unsigned negative (ws ++ rest) = fractional negative ws rest := by
  rw [unsigned, takeWhile_digits leading.digits stop, dropWhile_digits leading.digits stop]
  split
  · exact absurd rfl leading.nonempty
  · have := leading.zero rfl
    simp at this
  · rfl

/-- A number of digits alone. -/
theorem unsigned_toDigits (n : Nat) : unsigned negative (Nat.toDigits 10 n) =
    (integer negative (Nat.toDigits 10 n), some []) := by
  have read : unsigned negative (Nat.toDigits 10 n ++ []) = _ :=
    unsigned_digits (leading_toDigits n) noDigit_nil
  rw [List.append_nil] at read
  exact read

/-- A reader has taken all of a text. -/
def Ended (read : Draft × Option (List Char)) : Prop := read.2 = some []

/-- What is read to its end without a sign has none. -/
theorem number_of_ended (ended : Ended (unsigned false cs)) : number cs = unsigned false cs := by
  unfold number
  split
  · cases ended
  · rfl

/-- A number is read behind its sign. -/
theorem number_signed (ended : ∀ negative, Ended (unsigned negative cs)) :
    number (if negative then '-' :: cs else cs) = unsigned negative cs := by
  cases negative with
  | true => rfl
  | false => exact number_of_ended (ended false)

/-- What an integer becomes in a text: what its digits are read as. -/
def intDraft : Int → Draft
  | .ofNat n => integer false (Nat.toDigits 10 n)
  | .negSucc n => integer true (Nat.toDigits 10 (n + 1))

theorem number_int (n : Int) : number (Json.writeOn (.int n) []) = (intDraft n, some []) := by
  cases n with
  | ofNat n =>
    rw [Json.writeOn, List.append_nil, number_of_ended, unsigned_toDigits]
    · rfl
    · rw [unsigned_toDigits]
      rfl
  | negSucc n =>
    rw [Json.writeOn, List.append_nil]
    exact unsigned_toDigits (n + 1)

theorem integer_of_isExact {i : Int} (sign : negative = true → numberOf ds ≠ 0)
    (value : (if negative then -(numberOf ds : Int) else numberOf ds) = i)
    (exact : Json.isExact i = true) : integer negative ds = .int i := by
  have kept : (negative && decide (numberOf ds = 0)) = false := by
    cases negative
    · rfl
    · simpa using sign rfl
  rw [integer]
  simp only [value, kept, exact]
  rfl

/-- **An integer that is kept exact is read back.** -/
theorem intDraft_of_isExact {n : Int} (exact : Json.isExact n = true) : intDraft n = .int n := by
  cases n with
  | ofNat n =>
    refine integer_of_isExact nofun ?_ exact
    rw [numberOf_toDigits]
    rfl
  | negSucc n =>
    refine integer_of_isExact (fun _ => ?_) ?_ exact
    · rw [numberOf_toDigits]
      exact Nat.succ_ne_zero n
    · rw [numberOf_toDigits]
      rfl

/-! ## Numbers of double precision -/

/-- Digits that fit into 64 bits are all taken. -/
theorem gather_eq {n : Nat} (fits : numberFrom n ds < UInt64.size) :
    gather n ds = (numberFrom n ds, []) := by
  induction ds generalizing n with
  | nil => rfl
  | cons c ds ih =>
    have first : n * 10 + (c.toNat - '0'.toNat) < UInt64.size :=
      Nat.lt_of_le_of_lt (le_numberFrom _ ds) fits
    rw [gather]
    simp only [if_pos first]
    exact ih fits

/-- **Digits that fit into 64 bits are scaled as they are.** -/
theorem double_eq {x : Int} {units : Nat} (fits : numberOf (whole ++ fraction) < UInt64.size)
    (scaled : Double.scaled? (numberOf (whole ++ fraction)) (x - fraction.length) = some units) :
    double negative whole fraction x = .double ⟨negative, units⟩ := by
  rw [numberOf_append] at fits scaled
  have front : gather 0 whole = (numberOf whole, []) :=
    gather_eq (Nat.lt_of_le_of_lt (le_numberFrom _ fraction) fits)
  have power : x + (0 : Nat) + (0 : Nat) - fraction.length = x - fraction.length := by omega
  rw [double, front]
  simp only [gather_eq fits, List.length_nil, power, scaled]

/-- Digits on both sides of the point. -/
theorem unsigned_fraction (leading : Leading whole) (digits : ∀ c ∈ ds, c.isDigit = true)
    (some : ds ≠ []) (stop : NoDigit rest) :
    unsigned negative (whole ++ '.' :: (ds ++ rest)) = exponent negative whole (.some ds) rest := by
  have read : (ds ++ rest).takeWhile Char.isDigit = ds := takeWhile_digits digits stop
  have behind : (ds ++ rest).dropWhile Char.isDigit = rest := dropWhile_digits digits stop
  have there : ds.isEmpty = false := by simpa using some
  rw [unsigned_digits leading (noDigit_cons rfl), fractional]
  simp only [read, behind, there]
  rfl

/-- A fraction without an exponent. -/
theorem unsigned_point (leading : Leading whole) (digits : ∀ c ∈ ds, c.isDigit = true)
    (some : ds ≠ []) :
    unsigned negative (whole ++ '.' :: ds) = (double negative whole ds 0, .some []) := by
  have read : unsigned negative (whole ++ '.' :: (ds ++ [])) = _ :=
    unsigned_fraction leading digits some noDigit_nil
  rw [List.append_nil] at read
  exact read

/-- An exponent in digits, perhaps behind a sign. -/
theorem scientific_digits (digits : ∀ c ∈ ds, c.isDigit = true) (there : ds ≠ []) :
    scientific negative whole fraction minus ds =
      (double negative whole fraction (if minus then -numberOf ds else numberOf ds), some []) := by
  have read : ds.takeWhile Char.isDigit = ds := List.takeWhile_eq_self_iff.mpr digits
  have behind : ds.dropWhile Char.isDigit = [] := List.dropWhile_eq_nil_iff.mpr digits
  have some : ds.isEmpty = false := by simpa using there
  simp only [scientific, read, behind, some]
  rfl

theorem toList_toString_ofNat (n : Nat) : (toString (Int.ofNat n)).toList = Nat.toDigits 10 n := by
  simp [toString, Int.repr]

theorem toList_toString_negSucc (n : Nat) :
    (toString (Int.negSucc n)).toList = '-' :: Nat.toDigits 10 (n + 1) := by
  simp [toString, Int.repr]

/-- An exponent as it is written, where the point is behind the `p`-th digit. -/
theorem power_written (p : Int) :
    power negative whole fraction ((if 0 < p then ['+'] else []) ++ (toString (p - 1)).toList) =
      (double negative whole fraction (p - 1), some []) := by
  have digits (n : Nat) (minus : Bool) :
      scientific negative whole fraction minus (Nat.toDigits 10 n) =
        (double negative whole fraction (if minus then -n else n), some []) := by
    rw [scientific_digits (fun _ => isDigit_toDigits) Nat.toDigits_ne_nil, numberOf_toDigits]
  split_ifs with positive
  · obtain ⟨n, same⟩ : ∃ n : Nat, p - 1 = Int.ofNat n := ⟨(p - 1).toNat, by
      show p - 1 = ((p - 1).toNat : Int)
      omega⟩
    rw [same, toList_toString_ofNat]
    exact digits n false
  · obtain ⟨n, same⟩ : ∃ n : Nat, p - 1 = Int.negSucc n := ⟨(-p).toNat, by
      rw [Int.negSucc_eq]
      omega⟩
    rw [same, toList_toString_negSucc]
    exact digits (n + 1) true

theorem leading_of_head (nonempty : ds ≠ []) (digits : ∀ c ∈ ds, c.isDigit = true)
    (head : ds.head? ≠ some '0') : Leading ds :=
  ⟨nonempty, digits, fun zero => absurd zero head⟩

/-- A text that is read to its end, as digits of a decimal and a power of ten that belongs to
them. -/
def Spelled (negative : Bool) (d : Decimal) (read : Draft × Option (List Char)) : Prop :=
  ∃ whole fraction exponent, read = (double negative whole fraction exponent, some []) ∧
    d.Spells (numberOf (whole ++ fraction)) (exponent - fraction.length)

theorem Spelled.ended {d : Decimal} {read : Draft × Option (List Char)}
    (spelled : Spelled negative d read) : Ended read := by
  obtain ⟨whole, fraction, exponent, rfl, -⟩ := spelled
  rfl

/-- **The text of a decimal spells it.** -/
theorem spelled_text {d : Decimal} (positive : d.digits ≠ 0) :
    Spelled negative d (unsigned negative d.text) := by
  have head := head_toDigits_ne positive
  have digits : ∀ c ∈ Nat.toDigits 10 d.digits, c.isDigit = true := fun _ => isDigit_toDigits
  have nonempty : Nat.toDigits 10 d.digits ≠ [] := Nat.toDigits_ne_nil
  have value : numberOf (Nat.toDigits 10 d.digits) = d.digits := numberOf_toDigits d.digits
  simp only [Decimal.text]
  generalize Nat.toDigits 10 d.digits = ds at head digits nonempty value ⊢
  obtain ⟨c, cs, rfl⟩ := List.exists_cons_of_ne_nil nonempty
  have zeros (k : Nat) : ∀ c ∈ List.replicate k '0', c.isDigit = true := fun _ => isDigit_zeros
  split
  · -- All digits are in front of the point.
    rename_i whole
    refine ⟨c :: cs ++ List.replicate d.exponent.toNat '0', ['0'], 0, ?_, .inr ⟨whole.1, ?_, rfl⟩⟩
    · refine unsigned_point ?_ leading_zero.digits nofun
      exact leading_of_head nofun (List.forall_mem_append.mpr ⟨digits, zeros _⟩) head
    · have behind := numberOf_append_zeros (c :: cs) (d.exponent.toNat + 1)
      rwa [List.replicate_succ', ← List.append_assoc, value] at behind
  · rename_i whole
    split
    · -- The point is between two digits.
      rename_i inside
      generalize point : ((c :: cs).length + d.exponent).toNat = p
      obtain ⟨k, rfl⟩ : ∃ k : Nat, p = k + 1 := ⟨p - 1, by omega⟩
      refine ⟨(c :: cs).take (k + 1), (c :: cs).drop (k + 1), 0, ?_, .inl ⟨?_, ?_⟩⟩
      · rw [← List.append_cons]
        refine unsigned_point ?_ (fun b mem => digits b (List.mem_of_mem_drop mem)) ?_
        · exact leading_of_head nofun (fun b mem => digits b (List.mem_of_mem_take mem)) head
        · rw [ne_eq, List.drop_eq_nil_iff]
          omega
      · rw [List.take_append_drop, value]
      · rw [List.length_drop]
        omega
    · split
      · -- The point is in front of all digits.
        rename_i front
        generalize gap : (-((c :: cs).length + d.exponent)).toNat = k
        refine ⟨['0'], List.replicate k '0' ++ c :: cs, 0, ?_, .inl ⟨?_, ?_⟩⟩
        · rw [List.append_assoc]
          show unsigned negative (['0'] ++ '.' :: (List.replicate k '0' ++ c :: cs)) = _
          exact unsigned_point leading_zero (List.forall_mem_append.mpr ⟨zeros k, digits⟩) (by simp)
        · have behind := numberOf_zeros_append (k + 1) (c :: cs)
          rwa [value] at behind
        · rw [List.length_append, List.length_replicate]
          omega
      · -- One digit is in front of the point, and the exponent says where it belongs.
        have single : Leading [c] :=
          leading_of_head nofun (List.forall_mem_singleton.mpr (digits c (.head _))) head
        cases cs with
        | nil =>
          refine ⟨[c], [], ([c].length : Int) + d.exponent - 1, ?_, .inl ⟨value, ?_⟩⟩
          · show unsigned negative ([c] ++ 'e' :: _) = _
            rw [unsigned_digits single (noDigit_cons rfl), fractional_of_ne (by simp)]
            exact power_written _
          · simp only [List.length_cons, List.length_nil]
            omega
        | cons b cs =>
          refine ⟨[c], b :: cs, ((c :: b :: cs).length : Int) + d.exponent - 1, ?_,
            .inl ⟨value, ?_⟩⟩
          · have behind : ∀ a ∈ b :: cs, a.isDigit = true := fun a mem => digits a (.tail _ mem)
            show unsigned negative ([c] ++ '.' :: (b :: cs ++ 'e' :: _)) = _
            rw [unsigned_fraction single behind nofun (noDigit_cons rfl)]
            exact power_written _
          · simp only [List.length_cons]
            omega

end Reader

namespace Double

open Reader

/-! ## The text of a number -/

theorem digits_onGrid {units n : Nat} (positive : units ≠ 0) {e : Int}
    (found : onGrid? units e = some n) : n ≠ 0 := by
  intro zero
  have back := readsBack_of_onGrid? found
  rw [zero, Nat.zero_mul, not_readsBack_zero positive (grid_pos e)] at back
  cases back

theorem digits_shortest {units : Nat} (positive : units ≠ 0) : (shortest units).digits ≠ 0 := by
  have power (k : Nat) : Nat.pow 5 k ≠ 0 := (Nat.pow_pos (by decide)).ne'
  rw [shortest]
  cases search_eq : search (onGrid? units) 24 (powerAbove units) with
  | none =>
    simp only [exactly, Option.getD_none, ne_eq, Nat.mul_eq_zero, positive, power, or_self,
      not_false_eq_true]
  | some d => exact digits_onGrid positive (found_of_search search_eq)

/-- The text of zero is read to its end, as zero. -/
theorem unsigned_zero (negative : Bool) :
    unsigned negative ['0', '.', '0'] = (.double ⟨negative, 0⟩, some []) := by
  have zero : scaled? (Text.numberOf (['0'] ++ ['0'])) (0 - ['0'].length) = some 0 := by
    decide +kernel
  have fits : Text.numberOf (['0'] ++ ['0']) < UInt64.size := by decide
  have value : double negative ['0'] ['0'] 0 = .double ⟨negative, 0⟩ := double_eq fits zero
  have read : unsigned negative (['0'] ++ '.' :: ['0']) =
      (double negative ['0'] ['0'] 0, some []) :=
    unsigned_point leading_zero leading_zero.digits nofun
  exact read.trans (congrArg (·, some []) value)

/-- The text of a number that is not zero spells its shortest decimal. -/
theorem spelled_number {d : Double} (positive : d.units ≠ 0) :
    Spelled d.negative (shortest d.units) (number d.text) := by
  have spelled (negative : Bool) :
      Spelled negative (shortest d.units) (unsigned negative (shortest d.units).text) :=
    spelled_text (digits_shortest positive)
  rw [text]
  simp only [if_neg positive]
  rw [number_signed fun negative => (spelled negative).ended]
  exact spelled d.negative

theorem number_zero {d : Double} (zero : d.units = 0) : number d.text = (.double d, some []) := by
  obtain ⟨negative, units⟩ := d
  cases zero
  show number (if negative then '-' :: ['0', '.', '0'] else ['0', '.', '0']) = _
  rw [number_signed fun negative => congrArg Prod.snd (unsigned_zero negative)]
  exact unsigned_zero negative

/-- **The text of a number is read to its end.** -/
theorem number_text (d : Double) : Ended (number d.text) := by
  by_cases zero : d.units = 0
  · rw [number_zero zero]
    rfl
  · exact (spelled_number zero).ended

/-- A number is read as what its digits are scaled to, if they fit into 64 bits. -/
theorem number_eq {d : Double} {units : Nat} (positive : d.units ≠ 0)
    (scaled : ∀ n e, (shortest d.units).Spells n e →
      n < UInt64.size ∧ scaled? n e = some units) :
    number d.text = (.double ⟨d.negative, units⟩, some []) := by
  obtain ⟨whole, fraction, exponent, read, spells⟩ := spelled_number positive
  obtain ⟨fits, same⟩ := scaled _ _ spells
  rw [read, double_eq fits same]

/-! ## Short numbers -/

/-- A number that is written in few digits. -/
def Short (d : Double) : Prop :=
  d.units = 0 ∨ IsNumber d.units ∧ (shortest d.units).Short

/-- A short decimal is not written in all digits. -/
theorem found_of_short {units : Nat} (short : (shortest units).Short) :
    onGrid? units (shortest units).exponent = some (shortest units).digits := by
  rw [shortest] at short ⊢
  cases found : search (onGrid? units) 24 (powerAbove units) with
  | none =>
    rw [found] at short
    have low : (-22 : Int) ≤ -1074 := short.1
    exact absurd low (by decide)
  | some d => exact found_of_search found

/-- **A short number is read back from its text.** -/
theorem number_of_short {d : Double} (short : d.Short) : number d.text = (.double d, some []) := by
  by_cases zero : d.units = 0
  · exact number_zero zero
  obtain ⟨isNumber, few⟩ := short.resolve_left zero
  have back := readsBack_of_onGrid? (found_of_short few)
  refine number_eq zero fun n e spells => ⟨?_, ?_⟩
  · exact Nat.lt_trans (Decimal.lt_of_spells few spells) (by decide)
  · rw [Decimal.scaled?_of_spells (digits_shortest zero) few spells,
      nearest_of_readsBack (grid_pos _) isNumber back]

end Double

end TaskWorker
