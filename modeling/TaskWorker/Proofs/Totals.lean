import TaskWorker.Proofs.Allocations
/-!
# Totals of allocations

The slots of all types together are added up one type after the other, in 64 bits. The slots of a
type are bounded and the number of types is not: eight types can never have too many slots together,
nine can.

* `sumOf`, the sum of some numbers of slots; `foldlM_add?_eq_some_iff`: additions fit one after the
  other exactly if the sum fits;
* **`total?_eq_some_iff`**, **`total?_eq_none_iff`**: a total is the sum, and there is none exactly
  if the sum is too large;
* `sum_le`, `sum_split_le`: bounds on the sum; `plan_crowded`, with `sum_crowded`: a plan with the
  largest number of slots for every type;
* **`total_of_plan`**: when a plan has a total; **`nine_full_types`**: one that has none.
-/

namespace TaskWorker

namespace Allocation

variable {types : List String} {given : List (String × UInt64)} {shared : Option UInt64}
  {a : Allocation} {n s : UInt64} {ns : List UInt64}

/-! ## Sums and totals -/

/-- The sum of some numbers of slots. -/
def sumOf (ns : List UInt64) : Nat := ns.foldr (fun n sum => n.toNat + sum) 0

theorem sum_eq (a : Allocation) : a.sum = sumOf a.counts.values := rfl

theorem sumOf_nil : sumOf [] = 0 := rfl

theorem sumOf_cons (n : UInt64) (ns : List UInt64) : sumOf (n :: ns) = n.toNat + sumOf ns := rfl

theorem sumOf_le {bound : Nat} (le : ∀ n ∈ ns, n.toNat ≤ bound) : sumOf ns ≤ ns.length * bound := by
  induction ns with
  | nil => exact Nat.zero_le _
  | cons n ns ih =>
    obtain ⟨first, rest⟩ := List.forall_mem_cons.mp le
    have := ih rest
    rw [sumOf_cons, List.length_cons, Nat.succ_mul]
    omega

theorem sumOf_eq {each : Nat} (eq : ∀ n ∈ ns, n.toNat = each) : sumOf ns = ns.length * each := by
  induction ns with
  | nil => exact (Nat.zero_mul _).symm
  | cons n ns ih =>
    obtain ⟨first, rest⟩ := List.forall_mem_cons.mp eq
    rw [sumOf_cons, List.length_cons, Nat.succ_mul, ih rest, first, Nat.add_comm]

/-! ## Additions that fit -/

theorem add?_eq_some_iff {m : UInt64} :
    add? m n = some s ↔ s.toNat = m.toNat + n.toNat := by
  have whole (fits : m.toNat + n.toNat < UInt64.size) : (m + n).toNat = m.toNat + n.toNat := by
    rw [UInt64.toNat_add]
    exact Nat.mod_eq_of_lt fits
  rw [add?]
  constructor
  · intro added
    split_ifs at added with fits
    cases added
    exact whole fits
  · intro sum
    have fits : m.toNat + n.toNat < UInt64.size := sum ▸ s.toNat_lt_size
    rw [if_pos fits, Option.some.injEq, ← UInt64.toNat_inj, whole fits, sum]

/-- **Numbers that are added up one after the other come to their sum, or not at all:** a sum on the
way is never larger than the last one. -/
theorem foldlM_add?_eq_some_iff (start : UInt64) (ns : List UInt64) :
    ns.foldlM add? start = some s ↔ s.toNat = start.toNat + sumOf ns := by
  induction ns generalizing start with
  | nil =>
    rw [List.foldlM_nil, sumOf_nil, Nat.add_zero, UInt64.toNat_inj, eq_comm]
    exact Option.some_inj
  | cons n ns ih =>
    rw [List.foldlM_cons, sumOf_cons, ← Nat.add_assoc]
    simp only [Option.bind_eq_bind, Option.bind_eq_some_iff, add?_eq_some_iff, ih]
    constructor
    · rintro ⟨m, first, rest⟩
      rw [rest, first]
    · intro sum
      have fits : start.toNat + n.toNat < UInt64.size := by
        have := s.toNat_lt_size
        omega
      have first : (UInt64.ofNat (start.toNat + n.toNat)).toNat = start.toNat + n.toNat :=
        UInt64.toNat_ofNat_of_lt' fits
      exact ⟨_, first, by rw [first]; exact sum⟩

/-- **A total is the sum of the slots.** -/
theorem total?_eq_some_iff : a.total? = some s ↔ s.toNat = a.sum := by
  rw [total?, foldlM_add?_eq_some_iff, UInt64.toNat_zero, Nat.zero_add, sum_eq]

/-- **There is no total exactly if the sum does not fit.** -/
theorem total?_eq_none_iff : a.total? = none ↔ UInt64.size ≤ a.sum := by
  constructor
  · intro none
    by_contra less
    have fits : a.sum < UInt64.size := by omega
    have some := total?_eq_some_iff.mpr (UInt64.toNat_ofNat_of_lt' fits)
    rw [none] at some
    cases some
  · intro large
    by_contra some
    obtain ⟨s, total⟩ := Option.ne_none_iff_exists'.mp some
    have fits := s.toNat_lt_size
    rw [total?_eq_some_iff.mp total] at fits
    omega

/-! ## Bounds on the sum -/

theorem length_values (a : Allocation) : a.counts.values.length = a.counts.keys.length := by
  rw [Table.values, Table.keys, List.length_map, List.length_map]

/-- A planned allocation has the slots of each of the different types. -/
theorem length_of_plan (planned : plan types given shared = .ok a) :
    a.counts.values.length = types.dedup.length := by
  have perm : a.counts.keys.Perm (distinct types) :=
    (List.perm_ext_iff_of_nodup (Table.nodup_keys _) nodup_distinct).mpr fun t => by
      rw [mem_keys_of_plan planned, mem_distinct]
  rw [length_values, perm.length_eq, length_distinct]

theorem exists_get?_of_mem_values (mem : n ∈ a.counts.values) : ∃ t, a.counts.get? t = some n := by
  obtain ⟨⟨t, n⟩, entry, rfl⟩ := List.mem_map.mp mem
  exact ⟨t, Table.mem_entries_iff.mp entry⟩

/-- The sum is bounded by the number of types alone. -/
theorem sum_le (planned : plan types given shared = .ok a) :
    a.sum ≤ types.dedup.length * maxSlots.toNat := by
  rw [sum_eq, ← length_of_plan planned]
  refine sumOf_le fun n mem => ?_
  obtain ⟨t, counted⟩ := exists_get?_of_mem_values mem
  exact UInt64.le_iff_toNat_le.mp (le_maxSlots_of_plan planned counted)

/-- Slots that are split are no more than there were. -/
theorem sum_split_le (planned : plan types [] shared = .ok a)
    (fits : types.dedup.length < UInt64.size) : a.sum ≤ toSplit types shared := by
  have meets := (plan_eq_ok_iff.mp planned).meets List.nodup_nil fits
  have equal : ∀ n ∈ a.counts.values, n.toNat = toSplit types shared / types.dedup.length := by
    intro n mem
    obtain ⟨t, counted⟩ := exists_get?_of_mem_values mem
    have known : t ∈ types := (meets.keys t).mp (Table.mem_keys_iff.mpr (by simp [counted]))
    obtain ⟨n', counted', share⟩ := meets.evenly t known rfl
    rw [counted] at counted'
    cases counted'
    exact share
  rw [sum_eq, sumOf_eq equal, length_of_plan planned]
  exact Nat.mul_div_le _ _

/-! ## Too many slots -/

/-- The largest number of slots for each of some types. -/
def crowd (types : List String) : List (String × UInt64) := types.map fun t => (t, maxSlots)

theorem plan_crowded (nonempty : types ≠ []) :
    plan types (crowd types) none = .ok (named (distinct types) (crowd types)) := by
  refine plan_eq_ok_iff.mpr (.named (by simpa [crowd] using nonempty) fun e mem => ?_)
  obtain ⟨t, -, rfl⟩ := List.mem_map.mp mem
  show Fits maxSlots
  exact ⟨by decide, by decide⟩

theorem sum_crowded (planned : plan types (crowd types) none = .ok a) (nonempty : types ≠ []) :
    a.sum = types.dedup.length * maxSlots.toNat := by
  rw [sum_eq, ← length_of_plan planned]
  refine sumOf_eq fun n mem => ?_
  obtain ⟨t, counted⟩ := exists_get?_of_mem_values mem
  rw [plan_crowded nonempty] at planned
  cases planned
  rw [get?_named] at counted
  split at counted
  · rename_i known
    cases counted
    cases entry : valueOf? t (crowd types) with
    | none =>
      have absent := valueOf?_eq_none_iff.mp entry
      simp [crowd, mem_distinct.mp known] at absent
    | some n =>
      obtain ⟨_, -, same⟩ := List.mem_map.mp (mem_of_valueOf? entry)
      cases same
      rfl
  · cases counted

/-- **When a plan has a total.** Whenever it has one, it is the sum of the slots. It has none, and
the addition panics, exactly if the sum does not fit into 64 bits. Slots that are split always have
a total, and so have all plans of some types exactly if they are eight at most. -/
theorem total_of_plan (planned : plan types given shared = .ok a) :
    (∀ s, a.total? = some s ↔ s.toNat = a.sum) ∧
      (a.total? = none ↔ UInt64.size ≤ a.sum) ∧
      (given = [] → types.dedup.length < UInt64.size → a.total? ≠ none) ∧
      ((∀ given shared a, plan types given shared = .ok a → a.total? ≠ none) ↔
        types.dedup.length ≤ 8) := by
  refine ⟨fun s => total?_eq_some_iff, total?_eq_none_iff, ?_, ?_, ?_⟩
  · rintro rfl fits
    have bound := sum_split_le planned fits
    have most : toSplit types shared < UInt64.size := by
      cases shared with
      | none => exact fits
      | some n => exact n.toNat_lt_size
    rw [ne_eq, total?_eq_none_iff]
    omega
  · intro always
    by_contra many
    have nonempty : types ≠ [] := by
      rintro rfl
      exact many (Nat.zero_le _)
    have sum := sum_crowded (plan_crowded nonempty) nonempty
    have fits := always _ _ _ (plan_crowded nonempty)
    rw [ne_eq, total?_eq_none_iff, sum, maxSlots_toNat] at fits
    have nine : 9 * (UInt64.size / 8 - 1) ≤ types.dedup.length * (UInt64.size / 8 - 1) :=
      Nat.mul_le_mul_right _ (by omega)
    exact fits (Nat.le_trans (by decide) nine)
  · intro few given shared a planned
    have sum := sum_le planned
    rw [maxSlots_toNat] at sum
    have eight : types.dedup.length * (UInt64.size / 8 - 1) ≤ 8 * (UInt64.size / 8 - 1) :=
      Nat.mul_le_mul_right _ few
    have fits : a.sum < UInt64.size := Nat.lt_of_le_of_lt (Nat.le_trans sum eight) (by decide)
    rw [ne_eq, total?_eq_none_iff]
    omega

/-- Eight types with the largest number of slots each. -/
def sampleEight : List String := ["t0", "t1", "t2", "t3", "t4", "t5", "t6", "t7"]

/-- The slots of eight types are added up, however many they are. -/
theorem sample_total_of_plan :
    plan sampleEight (crowd sampleEight) none =
        .ok (named (distinct sampleEight) (crowd sampleEight)) ∧
      (named (distinct sampleEight) (crowd sampleEight)).total? = some 18446744073709551608 := by
  have planned := plan_crowded (by decide : sampleEight ≠ [])
  have sum := sum_crowded planned (by decide)
  refine ⟨planned, ((total_of_plan planned).1 _).mpr ?_⟩
  rw [sum]
  decide

/-- Nine types with the largest number of slots each. -/
def sampleNine : List String := "t8" :: sampleEight

/-- **The slots of nine types can be too many to be added up.** Each of them may have the largest
number of slots; then one of the additions does not fit, and there is no total. -/
theorem nine_full_types :
    ∃ a, plan sampleNine (crowd sampleNine) none = .ok a ∧ a.sum = 20752587082923245559 ∧
      a.total? = none := by
  have planned := plan_crowded (by decide : sampleNine ≠ [])
  have sum := (sum_crowded planned (by decide)).trans
    (by decide : _ = 20752587082923245559)
  refine ⟨_, planned, sum, total?_eq_none_iff.mpr ?_⟩
  rw [sum]
  decide

end Allocation

end TaskWorker
