import TaskWorker.Proofs.Merging
/-!
# Slots for all types together

Settings that have a number of slots for all types leave no room for the number of a single type.
Such a number can come from many places, and it is looked at only after all of them have been
merged; so it is the merged settings that decide, and they have an entry exactly if some place has
one.

* `Properties.Reads`, with `Properties.number?_ne_none_iff`: where a number in properties comes
  from;
* `Allocation.plan_shared_eq_error_iff`, `Allocation.share_of_shared`: plans with slots for all
  types;
* `Registry.NamesSlots`, the places that a number for a single type can come from;
  `Registry.entries_settings_eq_nil_iff`: no place has one if the merged settings have none;
* **`Registry.toHost_of_shared`**: when a registry makes a host of settings with slots for all
  types, which error ends it otherwise, and what each type gets.
-/

namespace TaskWorker

variable {α : Type}

theorem map_eq_error_iff {ε β γ : Type} {f : β → γ} {x : Except ε β} {e : ε} :
    x.map f = .error e ↔ x = .error e := by
  cases x <;> simp [Except.map]

/-! ## Numbers in properties -/

namespace Properties

variable {p : Properties} {t property : String}

/-- Whether a number of 64 bits stands under a full name. -/
def Reads (p : Properties) (k : String) : Prop :=
  ∃ v n, p.value? k = some v ∧ Text.readNumeral (UInt64.size - 1) v = .ok n

/-- A number comes from the type's own entry, or else, if that is missing or blank, from the one for
every type. -/
theorem number?_ne_none_iff : p.number? t property ≠ none ↔ p.Reads (key t property) ∨
    p.value? (key t property) = none ∧ p.Reads (key everyType property) := by
  have reads : ∀ v : List Char,
      (Text.readNumeral (UInt64.size - 1) v).toOption.map UInt64.ofNat ≠ none ↔
        ∃ n, Text.readNumeral (UInt64.size - 1) v = .ok n := by
    intro v
    cases Text.readNumeral (UInt64.size - 1) v <;> simp [Except.toOption]
  unfold number? property? Reads
  cases own : p.value? (key t property) with
  | some v => simpa using reads v
  | none =>
    rw [Option.none_or]
    cases p.value? (key everyType property) with
    | some v => simpa using reads v
    | none => simp

end Properties

/-! ## Plans with slots for all types -/

namespace Allocation

variable {types : List String} {n : UInt64} {e : SettingsError}

theorem plan_shared_eq_error_iff : plan types [] (some n) = .error e ↔
    n = 0 ∧ e = .noSharedSlots 0 ∨ maxSlots < n ∧ e = .tooManySlots n := by
  unfold plan
  by_cases zero : n = 0
  · subst zero
    have low : ¬ maxSlots < 0 := by decide
    simp [low, eq_comm]
  · by_cases high : maxSlots < n
    · simp [zero, high, checkUpper, eq_comm]
    · simp [zero, high, checkUpper]

/-- Each of the types gets its share, rounded down. -/
theorem share_of_shared (fits : Fits n) (nodup : types.Nodup) :
    ∃ a, plan types [] (some n) = .ok a ∧ (types.length < UInt64.size →
      ∀ t ∈ types, ∃ m, a.counts.get? t = some m ∧ m.toNat = n.toNat / types.length) := by
  have length : (distinct types).length = types.length := by rw [length_distinct, nodup.dedup]
  refine ⟨_, plan_eq_ok_iff.mpr (.shared fits), ?_⟩
  intro few t mem
  have mem : t ∈ distinct types := mem_distinct.mpr mem
  refine ⟨_, by rw [get?_split, if_pos mem], ?_⟩
  rw [toNat_share (length ▸ few) mem, length]

end Allocation

/-! ## Registries with slots for all types -/

namespace Registry

variable {rs : List (Registration α)} {base : Settings} {external : Option (String → Overrides)}
  {n : UInt64}

/-- Whether a number of slots is named for a single type: in the settings, for any type, or outside
or at the latest registration, for a registered type. -/
def NamesSlots (base : Settings) (external : Option (String → Overrides))
    (rs : List (Registration α)) : Prop :=
  base.slotsPerType ≠ ∅ ∨ ∃ t ∈ rs.map Registration.taskType, (outside external t).slots ≠ none ∨
    ∃ r, latest? Registration.taskType t rs = some r ∧ r.overrides.slots ≠ none

/-- **The merged settings have slots for single types exactly if some place names them.** -/
theorem entries_settings_eq_nil_iff (shared : base.sharedSlots = some n) :
    ((ofRegistrations external rs).settings base).slotsPerType.entries = [] ↔
      ¬ NamesSlots base external rs := by
  have merged : ∀ t, ((ofRegistrations external rs).settings base).slotsPerType.get? t =
      (base.slotsPerType.get? t).or ((latest? Registration.taskType t rs).bind fun r =>
        (outside external r.taskType).slots.or r.overrides.slots) := by
    intro t
    rw [get?_slots_settings (nodup_taskTypes external rs), find?_registrations, shared]
    congr 2
    funext r
    rw [resolve_eq, ofRegistrations_eq]
    exact Option.or_none
  rw [Table.entries_eq_nil_iff, NamesSlots, not_or, not_not]
  constructor
  · intro none
    refine ⟨Table.ext_get? fun t => ?_, ?_⟩
    · have absent := none t
      rw [merged, Option.or_eq_none_iff] at absent
      exact absent.1
    · rintro ⟨t, mem, named⟩
      obtain ⟨r, latest, rfl⟩ := exists_latest? mem
      have absent := none r.taskType
      rw [merged, latest, Option.or_eq_none_iff, Option.bind_some, Option.or_eq_none_iff] at absent
      rcases named with outside | ⟨r', latest', registered⟩
      · exact outside absent.2.1
      · rw [latest] at latest'
        cases latest'
        exact registered absent.2.2
  · rintro ⟨empty, unnamed⟩ t
    rw [merged, empty, Table.get?_empty, Option.none_or]
    cases latest : latest? Registration.taskType t rs with
    | none => rfl
    | some r =>
      obtain ⟨mem, rfl⟩ := mem_of_latest? latest
      rw [Option.bind_some, Option.or_eq_none_iff]
      constructor
      · by_contra named
        exact unnamed ⟨_, List.mem_map_of_mem mem, .inl named⟩
      · by_contra named
        exact unnamed ⟨_, List.mem_map_of_mem mem, .inr ⟨r, latest, named⟩⟩

/-- **Slots for all types and slots for a single one exclude each other,** wherever the latter are
named and however many they are. Otherwise a registry makes a host exactly if the number for all
types is in its bounds, and every type gets the same share of it. The types are no more than a word
can count. -/
theorem toHost_of_shared (shared : base.sharedSlots = some n)
    (grace : 1_000_000_000 ≤ base.gracePeriod.nanos)
    (intervals : ∀ k ∈ (ofRegistrations external rs).handlers, k.interval.isZero = false) :
    ((ofRegistrations external rs).toHost base = .error .conflictingSlots ↔
      NamesSlots base external rs) ∧
    (¬ NamesSlots base external rs → ∀ e, (ofRegistrations external rs).toHost base = .error e ↔
      n = 0 ∧ e = .noSharedSlots 0 ∨ maxSlots < n ∧ e = .tooManySlots n) ∧
    (¬ NamesSlots base external rs → Allocation.Fits n →
      ∃ h, (ofRegistrations external rs).toHost base = .ok h ∧
        ((ofRegistrations external rs).size < UInt64.size → ∀ t ∈ rs.map Registration.taskType,
          ∃ m, h.allocation.counts.get? t = some m ∧
            m.toNat = n.toNat / (ofRegistrations external rs).size)) ∧
    ∀ p : Properties, external = some p.overridesFor → ∀ t, (outside external t).slots ≠ none ↔
      p.Reads (Properties.key t "thread_count") ∨
        p.value? (Properties.key t "thread_count") = none ∧
          p.Reads (Properties.key Properties.everyType "thread_count") := by
  rw [toHost_eq (nodup_taskTypes external rs) grace intervals, shared]
  refine ⟨?_, ?_, ?_, ?_⟩
  · rw [map_eq_error_iff]
    by_cases named : NamesSlots base external rs
    · have entries := mt (entries_settings_eq_nil_iff shared).mp (not_not_intro named)
      exact iff_of_true (Allocation.plan_conflict entries) named
    · rw [(entries_settings_eq_nil_iff shared).mpr named, Allocation.plan_shared_eq_error_iff]
      simp [named]
  · intro unnamed e
    rw [map_eq_error_iff, (entries_settings_eq_nil_iff shared).mpr unnamed]
    exact Allocation.plan_shared_eq_error_iff
  · intro unnamed fits
    have length : (ofRegistrations external rs).taskTypes.length =
        (ofRegistrations external rs).size := List.length_map _
    obtain ⟨a, planned, shares⟩ :=
      Allocation.share_of_shared fits (nodup_taskTypes external rs)
    rw [(entries_settings_eq_nil_iff shared).mpr unnamed, planned]
    refine ⟨_, rfl, ?_⟩
    intro few t mem
    obtain ⟨m, counted, share⟩ := shares (length ▸ few) t (mem_taskTypes.mpr mem)
    exact ⟨m, counted, by rw [share, length]⟩
  · rintro p rfl t
    exact Properties.number?_ne_none_iff

/-- Two types, one of them registered twice, without a word about slots. -/
def samplePlain : List (Registration Nat) :=
  [⟨⟨"pack", .ofMillis 1000, 1⟩, .none⟩, ⟨⟨"parcel", .ofMillis 2000, 2⟩, .none⟩,
    ⟨⟨"pack", .ofMillis 3000, 3⟩, .none⟩]

def sampleShared : Settings := { Settings.standard "0" with sharedSlots := some 7 }

/-- No slots, for every type. -/
def sampleNothing : Properties := .ofList [("worker.all.thread_count", "0")]

theorem sample_toHost_of_shared : sampleShared.sharedSlots = some 7 ∧
    1_000_000_000 ≤ sampleShared.gracePeriod.nanos ∧
    (∀ k ∈ (ofRegistrations (some sampleNothing.overridesFor) samplePlain).handlers,
      k.interval.isZero = false) ∧
    (ofRegistrations (some sampleNothing.overridesFor) samplePlain).toHost sampleShared =
      .error .conflictingSlots ∧
    ∃ h, (ofRegistrations none samplePlain).toHost sampleShared = .ok h ∧
      ∃ m, h.allocation.counts.get? "pack" = some m ∧ m.toNat = 3 := by
  have intervals : ∀ k ∈ (ofRegistrations (some sampleNothing.overridesFor) samplePlain).handlers,
      k.interval.isZero = false := by decide +kernel
  have named := toHost_of_shared (n := 7) (show sampleShared.sharedSlots = _ from rfl) (by decide)
    intervals
  have plain := toHost_of_shared (n := 7) (show sampleShared.sharedSlots = _ from rfl) (by decide)
    (show ∀ k ∈ (ofRegistrations none samplePlain).handlers, _ by decide)
  have slots : (outside (some sampleNothing.overridesFor) "pack").slots ≠ none := by decide +kernel
  have unnamed : ¬ NamesSlots sampleShared none samplePlain := by
    rintro (some | ⟨t, mem, outside | ⟨r, latest, registered⟩⟩)
    · exact some rfl
    · exact outside rfl
    · obtain ⟨mem, -⟩ := mem_of_latest? latest
      exact registered ((by decide : ∀ r ∈ samplePlain, r.overrides.slots = none) r mem)
  obtain ⟨h, made, shares⟩ := plain.2.2.1 unnamed ⟨by decide, by decide⟩
  have conflict := named.1.mpr (.inr ⟨"pack", by decide, .inl slots⟩)
  exact ⟨rfl, by decide, intervals, conflict, h, made, shares (by decide) "pack" (by decide)⟩

end Registry

end TaskWorker
