import Mathlib.Data.List.Dedup
import TaskWorker.Allocation
import TaskWorker.Proofs.Tables
/-!
# What is allocated

An allocation is planned from task types, the slots given by name and the slots given for all. The
types are a list that may repeat itself, and the slots given by name are the entries of a map, in
any order, so that only the set of the types and the set of the entries can count.

* `Fits`, `Acceptable`: which slots may be given; `Planned`: the allocation they lead to; `Blames`:
  the errors that the others lead to;
* `mem_distinct`, `length_distinct`, `distinct_congr`: the types, each once;
* `checkCounts_eq_ok_iff`, `mem_of_checkCounts`, `blames_of_checkCounts`: the check of the entries;
* `planned_named`, `planned_split`: the two kinds of allocation are as they are to be;
* `PlanCase`, with **`plan_eq_ok_iff`**: the three ways to a plan; `exists_plan_iff`,
  `PlanCase.meets`, `PlanCase.congr`, `blames_of_plan`: when there is one, what it is, what it does
  not depend on, and what is wrong otherwise;
* **`plan_meets`**: all of it together; **`le_maxSlots_of_plan`**: no type is ever given more slots
  than there can be.
-/

namespace TaskWorker

namespace Allocation

variable {types types' : List String} {given given' : List (String × UInt64)}
  {shared : Option UInt64} {t : String} {n total : UInt64} {a : Allocation} {e : SettingsError}

/-- Whether a task type, or all of them together, can be given so many slots. -/
def Fits (n : UInt64) : Prop := 1 ≤ n ∧ n ≤ maxSlots

/-- The slots that may be given: by name or for all, but not both, and each number between one and
the largest one, also under names that no type has. -/
structure Acceptable (given : List (String × UInt64)) (shared : Option UInt64) : Prop where
  oneKind : given = [] ∨ shared = none
  named : ∀ e ∈ given, Fits e.2
  forAll : ∀ n ∈ shared, Fits n

/-- The slots to be split evenly: those given for all, or else one for each type. -/
def toSplit (types : List String) (shared : Option UInt64) : Nat :=
  match shared with
  | some n => n.toNat
  | none => types.dedup.length

/-- The allocation that acceptable slots lead to. -/
structure Planned (types : List String) (given : List (String × UInt64)) (shared : Option UInt64)
    (a : Allocation) : Prop where
  /-- The types have slots, each type once, and nothing else has. -/
  keys : ∀ t, t ∈ a.counts.keys ↔ t ∈ types
  nodup : a.counts.keys.Nodup
  /-- A type that is named has the slots of its own entry. -/
  named : ∀ t n, t ∈ types → (t, n) ∈ given → a.counts.get? t = some n
  /-- A type that is not named, while others are, has one slot. -/
  unnamed : ∀ t, t ∈ types → given ≠ [] → t ∉ given.map Prod.fst → a.counts.get? t = some 1
  defaulted : ∀ t, t ∈ a.defaulted ↔ t ∈ types ∧ given ≠ [] ∧ t ∉ given.map Prod.fst
  sorted : a.defaulted.Pairwise (· < ·)
  /-- With no type named, all have the same number of slots, rounded down. -/
  evenly : ∀ t, t ∈ types → given = [] →
    ∃ n, a.counts.get? t = some n ∧ n.toNat = toSplit types shared / types.dedup.length
  starved : given = [] → a.starved = [] ∨ a.starved = a.counts.keys
  mode : match a.mode with
    | .perType => given ≠ []
    | .shared total => given = [] ∧ total.toNat = toSplit types shared

/-- The errors that slots which are not acceptable can lead to. -/
inductive Blames (given : List (String × UInt64)) (shared : Option UInt64) : SettingsError → Prop
  | conflict : given ≠ [] → shared ≠ none → Blames given shared .conflictingSlots
  | none (t : String) (n : UInt64) : shared = none → (t, n) ∈ given → n < 1 →
      Blames given shared (.noSlots t n)
  | tooMany (t : String) (n : UInt64) : shared = none → (t, n) ∈ given → maxSlots < n →
      Blames given shared (.tooManySlots n)
  | noneForAll : given = [] → shared = some 0 → Blames given shared (.noSharedSlots 0)
  | tooManyForAll (n : UInt64) : given = [] → shared = some n → maxSlots < n →
      Blames given shared (.tooManySlots n)

/-! ## The types, each once -/

theorem mem_distinct : t ∈ distinct types ↔ t ∈ types :=
  Table.mem_keys_ofList_map

theorem nodup_distinct : (distinct types).Nodup :=
  Table.nodup_keys _

theorem sorted_distinct : (distinct types).Pairwise (· < ·) :=
  (Table.ofList (types.map fun t => (t, ()))).increasing

theorem length_distinct : (distinct types).length = types.dedup.length := by
  refine ((List.perm_ext_iff_of_nodup nodup_distinct types.nodup_dedup).mpr fun t => ?_).length_eq
  rw [mem_distinct, List.mem_dedup]

/-- Neither the order of the types nor a repetition matters. -/
theorem distinct_congr (same : ∀ t, t ∈ types' ↔ t ∈ types) : distinct types' = distinct types :=
  Table.keys_congr fun t => by
    rw [Table.mem_keys_ofList_map, Table.mem_keys_ofList_map]
    exact same t

/-! ## The check of the entries -/

theorem one_le_iff : 1 ≤ n ↔ n ≠ 0 := by
  rw [UInt64.le_iff_toNat_le, ne_eq, ← UInt64.toNat_inj]
  exact Nat.one_le_iff_ne_zero

theorem checkUpper_of_le (le : n ≤ maxSlots) : checkUpper n = .ok n :=
  if_neg (UInt64.not_lt.mpr le)

theorem checkUpper_eq_ok {n' : UInt64} (ok : checkUpper n = .ok n') : n' = n ∧ n ≤ maxSlots := by
  unfold checkUpper at ok
  split at ok
  · cases ok
  · rename_i high
    exact ⟨by simpa using ok.symm, UInt64.not_lt.mp high⟩

theorem checkCount_of_fits (fits : Fits n) : checkCount t n = .ok n := by
  rw [checkCount, if_neg (UInt64.not_lt.mpr fits.1), checkUpper_of_le fits.2]

theorem checkUpper_eq_error (bad : checkUpper n = .error e) :
    maxSlots < n ∧ e = .tooManySlots n := by
  unfold checkUpper at bad
  split at bad
  · rename_i high
    exact ⟨high, by simpa using bad.symm⟩
  · cases bad

theorem checkCount_eq_error (bad : checkCount t n = .error e) :
    n < 1 ∧ e = .noSlots t n ∨ maxSlots < n ∧ e = .tooManySlots n := by
  unfold checkCount at bad
  split at bad
  · rename_i low
    exact .inl ⟨low, by simpa using bad.symm⟩
  · exact .inr (checkUpper_eq_error bad)

theorem fits_of_checkCount {n' : UInt64} (ok : checkCount t n = .ok n') : Fits n := by
  unfold checkCount at ok
  split at ok
  · cases ok
  · rename_i low
    exact ⟨UInt64.not_lt.mp low, (checkUpper_eq_ok ok).2⟩

/-- The check passes if every entry fits. -/
theorem checkCounts_eq_ok_iff : checkCounts given = .ok () ↔ ∀ e ∈ given, Fits e.2 := by
  induction given with
  | nil => simp [checkCounts]
  | cons e given ih =>
    obtain ⟨t, n⟩ := e
    rw [checkCounts, List.forall_mem_cons]
    cases checked : checkCount t n with
    | error e =>
      simp only [reduceCtorEq, false_iff, not_and]
      intro fits
      rw [checkCount_of_fits fits] at checked
      cases checked
    | ok n' => simp [ih, fits_of_checkCount checked]

/-- The check ends with the error of an entry. -/
theorem mem_of_checkCounts (bad : checkCounts given = .error e) :
    ∃ t n, (t, n) ∈ given ∧ checkCount t n = .error e := by
  induction given with
  | nil => cases bad
  | cons f given ih =>
    obtain ⟨t, n⟩ := f
    rw [checkCounts] at bad
    cases checked : checkCount t n with
    | error e' =>
      rw [checked] at bad
      cases bad
      exact ⟨t, n, List.mem_cons_self, checked⟩
    | ok n' =>
      rw [checked] at bad
      obtain ⟨t', n', mem, blamed⟩ := ih bad
      exact ⟨t', n', List.mem_cons_of_mem _ mem, blamed⟩

/-- An entry that is blamed is in the map and does not fit. -/
theorem blames_of_checkCounts (bad : checkCounts given = .error e) :
    ∃ t n, (t, n) ∈ given ∧
      (n < 1 ∧ e = .noSlots t n ∨ maxSlots < n ∧ e = .tooManySlots n) := by
  obtain ⟨t, n, mem, blamed⟩ := mem_of_checkCounts bad
  exact ⟨t, n, mem, checkCount_eq_error blamed⟩

/-! ## Slots by name -/

theorem get?_named : (named types given).counts.get? t =
    if t ∈ types then some ((valueOf? t given).getD 1) else none :=
  Table.get?_ofList_map (fun t => (valueOf? t given).getD 1) types t

theorem planned_named (unique : (given.map Prod.fst).Nodup) (some : given ≠ []) :
    Planned types given none (named (distinct types) given) where
  keys t := by rw [Table.mem_keys_iff, get?_named]; simp [mem_distinct]
  nodup := Table.nodup_keys _
  named t n mem entry := by
    rw [get?_named, if_pos (mem_distinct.mpr mem), (valueOf?_eq_some_iff unique).mpr entry]
    rfl
  unnamed t mem _ absent := by
    rw [get?_named, if_pos (mem_distinct.mpr mem), valueOf?_eq_none_iff.mpr absent]
    rfl
  defaulted t := by
    simp only [Allocation.named, List.mem_filter, mem_distinct, Option.isNone_iff_eq_none,
      valueOf?_eq_none_iff]
    exact and_congr_right fun _ => (and_iff_right some).symm
  sorted := sorted_distinct.filter _
  evenly _ _ empty := absurd empty some
  starved empty := absurd empty some
  mode := some

theorem named_congr (unique : (given.map Prod.fst).Nodup) (perm : given'.Perm given) :
    named types given' = named types given := by
  have unique' : (given'.map Prod.fst).Nodup := (perm.map Prod.fst).nodup_iff.mpr unique
  simp only [named, valueOf?_perm unique' perm]

/-! ## Slots for all -/

/-- The slots of each type when `total` slots are split. -/
def share (types : List String) (total : UInt64) : UInt64 :=
  if types.isEmpty then 0 else total / UInt64.ofNat types.length

theorem get?_split : (split types total).counts.get? t =
    if t ∈ types then some (share types total) else none :=
  Table.get?_ofList_map (fun _ => share types total) types t

theorem share_le : share types total ≤ total := by
  rw [share, UInt64.le_iff_toNat_le]
  split
  · exact Nat.zero_le _
  · rw [UInt64.toNat_div]
    exact Nat.div_le_self _ _

/-- One slot for each type, split, is one slot at most. -/
theorem share_length_le : share types (.ofNat types.length) ≤ 1 := by
  rw [share, UInt64.le_iff_toNat_le]
  split
  · exact Nat.zero_le _
  · rw [UInt64.toNat_div]
    exact Nat.div_le_of_le_mul (Nat.le_of_eq (Nat.mul_one _).symm)

theorem toNat_share (fits : types.length < UInt64.size) (mem : t ∈ types) :
    (share types total).toNat = total.toNat / types.length := by
  have full : types.isEmpty = false := by
    rw [List.isEmpty_eq_false_iff]
    exact List.ne_nil_of_mem mem
  rw [share, full, if_neg Bool.false_ne_true, UInt64.toNat_div, UInt64.toNat_ofNat_of_lt' fits]

/-- Types with equal slots are all without one or all with one. -/
theorem starved_split :
    (split types total).starved = [] ∨ (split types total).starved = (split types total).counts.keys
    := by
  have equal : ∀ e ∈ (split types total).counts.entries, e.2 = share types total := by
    rintro ⟨t, n⟩ mem
    have found := Table.mem_entries_iff.mp mem
    rw [get?_split] at found
    split at found
    · exact (Option.some.inj found).symm
    · cases found
  by_cases none : share types total = 0
  · right
    rw [starved, List.filter_eq_self.mpr fun e mem => by rw [equal e mem, none, beq_self_eq_true],
      Table.keys]
  · left
    rw [starved, List.filter_eq_nil_iff.mpr fun e mem => by rw [equal e mem, beq_iff_eq]; exact none,
      List.map_nil]

theorem planned_split (fits : types.dedup.length < UInt64.size)
    (all : total.toNat = toSplit types shared) :
    Planned types [] shared (split (distinct types) total) where
  keys t := by rw [Table.mem_keys_iff, get?_split]; simp [mem_distinct]
  nodup := Table.nodup_keys _
  named _ _ _ entry := absurd entry List.not_mem_nil
  unnamed _ _ some := absurd rfl some
  defaulted t := by simp [split]
  sorted := List.Pairwise.nil
  evenly t mem _ := by
    have mem := mem_distinct.mpr mem
    refine ⟨_, by rw [get?_split, if_pos mem], ?_⟩
    rw [toNat_share (length_distinct ▸ fits) mem, all, length_distinct]
  starved _ := starved_split
  mode := ⟨rfl, all⟩

/-! ## Plans -/

/-- How an allocation is planned, case by case. -/
inductive PlanCase (types : List String) :
    List (String × UInt64) → Option UInt64 → Allocation → Prop
  | named {given : List (String × UInt64)} : given ≠ [] → (∀ e ∈ given, Fits e.2) →
      PlanCase types given none (named (distinct types) given)
  | equally : PlanCase types [] none (split (distinct types) (.ofNat (distinct types).length))
  | shared {n : UInt64} : Fits n → PlanCase types [] (some n) (split (distinct types) n)

/-- **A plan is made in one of three ways.** -/
theorem plan_eq_ok_iff : plan types given shared = .ok a ↔ PlanCase types given shared a := by
  constructor
  · intro ok
    match given, shared with
    | [], none =>
      cases ok
      exact .equally
    | [], some n =>
      simp only [plan] at ok
      split at ok
      · cases ok
      · rename_i pos
        cases checked : checkUpper n with
        | error e =>
          rw [checked] at ok
          cases ok
        | ok n' =>
          rw [checked] at ok
          obtain ⟨rfl, high⟩ := checkUpper_eq_ok checked
          cases ok
          exact .shared ⟨one_le_iff.mpr pos, high⟩
    | f :: fs, none =>
      cases checked : checkCounts (f :: fs) with
      | error e =>
        simp only [plan, checked] at ok
        cases ok
      | ok u =>
        simp only [plan, checked] at ok
        cases ok
        exact .named (List.cons_ne_nil _ _) (checkCounts_eq_ok_iff.mp checked)
    | _ :: _, some _ => cases ok
  · intro planned
    cases planned with
    | named some fit =>
      obtain ⟨f, fs, rfl⟩ := List.exists_cons_of_ne_nil some
      simp only [plan, checkCounts_eq_ok_iff.mpr fit]
    | equally => rfl
    | @shared n fits =>
      simp only [plan, if_neg (one_le_iff.mp fits.1), checkUpper_of_le fits.2]

/-- There is a plan exactly for acceptable slots. -/
theorem exists_plan_iff : (∃ a, plan types given shared = .ok a) ↔ Acceptable given shared := by
  constructor
  · rintro ⟨a, ok⟩
    cases plan_eq_ok_iff.mp ok with
    | named some fit => exact ⟨.inr rfl, fit, fun _ h => by cases h⟩
    | equally => exact ⟨.inl rfl, fun _ h => absurd h List.not_mem_nil, fun _ h => by cases h⟩
    | shared fits =>
      exact ⟨.inl rfl, fun _ h => absurd h List.not_mem_nil, fun _ h => by cases h; exact fits⟩
  · rintro ⟨oneKind, fit, forAll⟩
    match given, shared with
    | [], none => exact ⟨_, plan_eq_ok_iff.mpr .equally⟩
    | [], some n => exact ⟨_, plan_eq_ok_iff.mpr (.shared (forAll n rfl))⟩
    | f :: fs, none => exact ⟨_, plan_eq_ok_iff.mpr (.named (List.cons_ne_nil _ _) fit)⟩
    | _ :: _, some _ => simp at oneKind

theorem PlanCase.meets (planned : PlanCase types given shared a)
    (unique : (given.map Prod.fst).Nodup) (fits : types.dedup.length < UInt64.size) :
    Planned types given shared a := by
  cases planned with
  | named some _ => exact planned_named unique some
  | equally =>
    refine planned_split fits ?_
    rw [length_distinct, UInt64.toNat_ofNat_of_lt' fits]
    rfl
  | shared _ => exact planned_split fits rfl

/-- A plan depends on the set of the types and the set of the entries only. -/
theorem PlanCase.congr (planned : PlanCase types given shared a) (unique : (given.map Prod.fst).Nodup)
    (same : ∀ t, t ∈ types' ↔ t ∈ types) (perm : given'.Perm given) :
    PlanCase types' given' shared a := by
  cases planned with
  | named some fit =>
    rw [← distinct_congr same, ← named_congr unique perm]
    refine .named ?_ fun e mem => fit e (perm.mem_iff.mp mem)
    rintro rfl
    exact some perm.symm.eq_nil
  | equally =>
    rw [perm.eq_nil, ← distinct_congr same]
    exact .equally
  | shared fits =>
    rw [perm.eq_nil, ← distinct_congr same]
    exact .shared fits

theorem blames_of_plan (bad : plan types given shared = .error e) : Blames given shared e := by
  match given, shared with
  | [], none => cases bad
  | [], some n =>
    simp only [plan] at bad
    split at bad
    · rename_i zero
      cases bad
      exact .noneForAll rfl (by rw [zero])
    · cases checked : checkUpper n with
      | error e' =>
        rw [checked] at bad
        cases bad
        obtain ⟨high, rfl⟩ := checkUpper_eq_error checked
        exact .tooManyForAll n rfl rfl high
      | ok n' =>
        rw [checked] at bad
        cases bad
  | f :: fs, none =>
    cases checked : checkCounts (f :: fs) with
    | error e' =>
      simp only [plan, checked] at bad
      cases bad
      obtain ⟨t, n, mem, ⟨low, rfl⟩ | ⟨high, rfl⟩⟩ := blames_of_checkCounts checked
      · exact .none t n rfl mem low
      · exact .tooMany t n rfl mem high
    | ok u =>
      simp only [plan, checked] at bad
      cases bad
  | _ :: _, some n =>
    cases bad
    exact .conflict (List.cons_ne_nil _ _) (Option.some_ne_none n)

theorem mem_keys_of_plan (ok : plan types given shared = .ok a) :
    t ∈ a.counts.keys ↔ t ∈ types := by
  rw [Table.mem_keys_iff]
  cases plan_eq_ok_iff.mp ok with
  | named _ _ => simp [get?_named, mem_distinct]
  | equally | shared _ => simp [get?_split, mem_distinct]

/-- No type is given more slots than there can be, whatever is given. -/
theorem le_maxSlots_of_plan (ok : plan types given shared = .ok a)
    (counted : a.counts.get? t = some n) : n ≤ maxSlots := by
  cases plan_eq_ok_iff.mp ok with
  | named some fit =>
    rw [get?_named] at counted
    split at counted
    · cases counted
      cases entry : valueOf? t given with
      | none => decide
      | some n => exact (fit _ (mem_of_valueOf? entry)).2
    · cases counted
  | equally =>
    rw [get?_split] at counted
    split at counted
    · cases counted
      exact UInt64.le_trans share_length_le (by decide)
    · cases counted
  | shared fits =>
    rw [get?_split] at counted
    split at counted
    · cases counted
      exact UInt64.le_trans share_le fits.2
    · cases counted

/-- **Planning meets what is said of it.** There is a plan exactly for acceptable slots. It is the
allocation that they are to lead to, and it is the same for any list of the same types and any order
of the same entries. Where there is none, what is blamed is at fault. The different types are no
more than a word can count. -/
theorem plan_meets (types : List String) (given : List (String × UInt64)) (shared : Option UInt64)
    (unique : (given.map Prod.fst).Nodup) (fits : types.dedup.length < UInt64.size) :
    ((∃ a, plan types given shared = .ok a) ↔ Acceptable given shared) ∧
    (∀ a, plan types given shared = .ok a → Planned types given shared a ∧
      ∀ types' given', (∀ t, t ∈ types' ↔ t ∈ types) → given'.Perm given →
        plan types' given' shared = .ok a) ∧
    ∀ e, plan types given shared = .error e → Blames given shared e := by
  refine ⟨exists_plan_iff, fun a ok => ?_, fun e bad => blames_of_plan bad⟩
  have planned := plan_eq_ok_iff.mp ok
  exact ⟨planned.meets unique fits, fun _ _ same perm =>
    plan_eq_ok_iff.mpr (planned.congr unique same perm)⟩

theorem sample_plan_meets :
    (([("b", 3), ("z", 2)] : List (String × UInt64)).map Prod.fst).Nodup ∧
    ["b", "a", "b"].dedup.length < UInt64.size ∧
    plan ["b", "a", "b"] [("b", 3), ("z", 2)] none =
      .ok ⟨.perType, .ofList [("a", 1), ("b", 3)], ["a"]⟩ ∧
    plan ["a", "b"] [("z", 2), ("b", 3)] none =
      .ok ⟨.perType, .ofList [("a", 1), ("b", 3)], ["a"]⟩ := by
  have ok : plan ["b", "a", "b"] [("b", 3), ("z", 2)] none =
      .ok ⟨.perType, .ofList [("a", 1), ("b", 3)], ["a"]⟩ := by decide +kernel
  have meets := plan_meets ["b", "a", "b"] [("b", 3), ("z", 2)] none (by decide) (by decide)
  exact ⟨by decide, by decide, ok,
    (meets.2.1 _ ok).2 ["a", "b"] _ (fun t => by grind) (List.Perm.swap _ _ _)⟩

/-- Three types that share two slots are all left without. -/
example : (plan ["a", "b", "c"] [] (some 2)).map starved = .ok ["a", "b", "c"] := by decide +kernel

end Allocation

end TaskWorker
