import TaskWorker.Proofs.Merging
/-!
# Two ways to a host

A host is built of a list of handlers, or it is made of a registry in which the same handlers are
registered one after the other, without a word about them. On the second way every type gets its
slot by name, on the first way by default or as a share of as many slots as there are types; it
comes to the same. The slots by name are the entries of a map, and an error is the one that is met
first; so the errors are the same, whatever the order of the entries, if there is at most one to be
met.

* `SameEnd`, two computations that end alike;
* `Allocation.checkCounts_congr`, **`Allocation.sameEnd_plan`**: plans from entries to which some
  with one slot have been added;
* `Registry.plain`, handlers registered without overrides; `Registry.handlers_plain`,
  `Registry.get?_slots_plain`: what they are merged to;
* `Host.Alike`, hosts that do the same with the same handlers; **`Registry.sameEnd_build`**: both
  ways end alike.
-/

namespace TaskWorker

/-- Two computations that fail with the same error or end with what is alike. -/
inductive SameEnd {ε α : Type} (alike : α → α → Prop) : Except ε α → Except ε α → Prop
  | failed (e : ε) : SameEnd alike (.error e) (.error e)
  | ended {a b : α} : alike a b → SameEnd alike (.ok a) (.ok b)

theorem SameEnd.map {ε α β : Type} {alike : α → α → Prop} {alike' : β → β → Prop}
    {x y : Except ε α} {f g : α → β} (same : SameEnd alike x y)
    (keeps : ∀ a b, alike a b → alike' (f a) (g b)) : SameEnd alike' (x.map f) (y.map g) := by
  cases same with
  | failed e => exact .failed e
  | ended pair => exact .ended (keeps _ _ pair)

variable {α : Type}

/-! ## Plans -/

namespace Allocation

variable {types : List String} {given given' : List (String × UInt64)} {shared : Option UInt64}
  {t : String} {n : UInt64} {e : SettingsError}

/-- At most one entry has a number of slots that is out of bounds. -/
def OneAtFault (given : List (String × UInt64)) : Prop :=
  ∀ e ∈ given, ∀ f ∈ given, ¬ Fits e.2 → ¬ Fits f.2 → e = f

theorem not_fits_of_checkCount (bad : checkCount t n = .error e) : ¬ Fits n := by
  intro fits
  rw [checkCount_of_fits fits] at bad
  cases bad

/-- The check depends on the entries that are at fault only, if there is at most one of them. -/
theorem checkCounts_congr (one : OneAtFault given)
    (faults : ∀ t n, ¬ Fits n → ((t, n) ∈ given' ↔ (t, n) ∈ given)) :
    checkCounts given' = checkCounts given := by
  cases checked : checkCounts given with
  | ok _ =>
    rw [checkCounts_eq_ok_iff] at checked ⊢
    rintro ⟨t, n⟩ mem
    by_contra bad
    exact bad (checked _ ((faults t n bad).mp mem))
  | error e =>
    obtain ⟨t, n, mem, blamed⟩ := mem_of_checkCounts checked
    have bad := not_fits_of_checkCount blamed
    -- The other check stops too, and there is only one entry at which it can.
    cases checked' : checkCounts given' with
    | ok _ => exact absurd (checkCounts_eq_ok_iff.mp checked' _ ((faults t n bad).mpr mem)) bad
    | error e' =>
      obtain ⟨t', n', mem', blamed'⟩ := mem_of_checkCounts checked'
      have bad' := not_fits_of_checkCount blamed'
      cases one _ ((faults t' n' bad').mp mem') _ mem bad' bad
      rw [Except.error.inj (blamed'.symm.trans blamed)]

/-- Without slots for all types, it is the check of the entries that decides; a type without an
entry gets one slot. -/
theorem plan_own_error (checked : checkCounts given = .error e) :
    plan types given none = .error e := by
  cases given with
  | nil => cases checked
  | cons f fs => simp only [plan, checked]

theorem plan_own_ok (few : types.length < UInt64.size) (nodup : types.Nodup)
    (checked : checkCounts given = .ok ()) : ∃ a, plan types given none = .ok a ∧
      ∀ t, a.get t = if t ∈ types then (valueOf? t given).getD 1 else 0 := by
  cases given with
  | nil =>
    refine ⟨_, plan_eq_ok_iff.mpr .equally, fun t => ?_⟩
    have length : (distinct types).length = types.length := by rw [length_distinct, nodup.dedup]
    rw [get, get?_split]
    by_cases mem : t ∈ types
    · rw [if_pos (mem_distinct.mpr mem), if_pos mem]
      apply UInt64.toNat_inj.mp
      have full : 0 < types.length := List.length_pos_of_mem mem
      show (share _ _).toNat = 1
      rw [toNat_share (length ▸ few) (mem_distinct.mpr mem), length,
        UInt64.toNat_ofNat_of_lt' few, Nat.div_self full]
    · rw [if_neg (mt mem_distinct.mp mem), if_neg mem]
      rfl
  | cons f fs =>
    refine ⟨_, plan_eq_ok_iff.mpr (.named (List.cons_ne_nil f fs)
      (checkCounts_eq_ok_iff.mp checked)), fun t => ?_⟩
    rw [get, get?_named]
    by_cases mem : t ∈ types
    · rw [if_pos (mem_distinct.mpr mem), if_pos mem]
      rfl
    · rw [if_neg (mt mem_distinct.mp mem), if_neg mem]
      rfl

/-- **Naming one slot for some of the types changes nothing,** as long as there are no slots for all
types. -/
theorem sameEnd_plan (few : types.length < UInt64.size) (nodup : types.Nodup)
    (one : OneAtFault given) (unique : (given.map Prod.fst).Nodup)
    (unique' : (given'.map Prod.fst).Nodup)
    (added : ∀ t, valueOf? t given' = (valueOf? t given).or (if t ∈ types then some 1 else none)) :
    SameEnd (fun a b => ∀ t, a.get t = b.get t) (plan types given none)
      (plan types given' none) := by
  have faults : ∀ t n, ¬ Fits n → ((t, n) ∈ given' ↔ (t, n) ∈ given) := by
    intro t n bad
    rw [← valueOf?_eq_some_iff unique', ← valueOf?_eq_some_iff unique, added]
    cases valueOf? t given with
    | some m => rfl
    | none =>
      -- One slot is within the bounds, so no entry that was added is at fault.
      have added : (if t ∈ types then some (1 : UInt64) else none) ≠ some n := by
        by_cases mem : t ∈ types
        · rw [if_pos mem]
          rintro ⟨⟩
          exact bad ⟨by decide, by decide⟩
        · rw [if_neg mem]
          exact Option.some_ne_none n |>.symm
      simpa using added
  have same := checkCounts_congr one faults
  cases checked : checkCounts given with
  | error e =>
    rw [plan_own_error checked, plan_own_error (same.trans checked)]
    exact .failed e
  | ok _ =>
    obtain ⟨a, planned, slots⟩ := plan_own_ok few nodup checked
    obtain ⟨a', planned', slots'⟩ := plan_own_ok few nodup (same.trans checked)
    rw [planned, planned']
    refine .ended fun t => ?_
    rw [slots, slots', added]
    by_cases mem : t ∈ types
    · rw [if_pos mem, if_pos mem, if_pos mem]
      cases valueOf? t given <;> rfl
    · rw [if_neg mem, if_neg mem]

end Allocation

/-! ## Handlers without a word -/

namespace Registry

variable {gs : List (Handler α)} {base : Settings} {t : String}

/-- A registry of some handlers, registered one after the other without overrides. -/
def plain (gs : List (Handler α)) : Registry α := ofRegistrations none (gs.map fun g => ⟨g, .none⟩)

theorem registrations_plain (gs : List (Handler α)) :
    (plain gs).registrations = (putAll Handler.taskType gs).map fun g => ⟨g, .none⟩ := by
  rw [plain, ofRegistrations_eq]
  exact (map_putAll (fun _ => rfl) gs).symm

theorem resolve_plain (gs : List (Handler α)) (g : Handler α) :
    (plain gs).resolve ⟨g, .none⟩ = .none := by
  rw [plain, ofRegistrations_eq]
  rfl

theorem handlers_plain (gs : List (Handler α)) :
    (plain gs).handlers = putAll Handler.taskType gs := by
  rw [handlers, registrations_plain, List.map_map]
  conv_rhs => rw [← List.map_id (putAll Handler.taskType gs)]
  refine List.map_congr_left fun g _ => ?_
  rw [Function.comp_apply, handlerOf_eq, resolve_plain]
  rfl

/-- Every registered type is named, with one slot, unless there are slots for all types. -/
theorem get?_slots_plain (gs : List (Handler α)) (base : Settings) (t : String) :
    ((plain gs).settings base).slotsPerType.get? t = (base.slotsPerType.get? t).or
      (if t ∈ gs.map Handler.taskType then slotsOf .none base.sharedSlots.isSome else none) := by
  have found : (plain gs).registrations.find? (fun r => r.taskType = t) =
      (latest? Handler.taskType t gs).map fun g => ⟨g, .none⟩ := by
    rw [registrations_plain, List.find?_map, ← find?_putAll]
    rfl
  rw [get?_slots_settings (g := plain gs) (nodup_taskTypes _ _), found]
  congr 1
  by_cases mem : t ∈ gs.map Handler.taskType
  · obtain ⟨g, latest, -⟩ := exists_latest? mem
    rw [if_pos mem, latest, Option.map_some, Option.bind_some, resolve_plain]
  · rw [if_neg mem, latest?_eq_none_iff.mpr mem]
    rfl

end Registry

/-! ## Both ways -/

/-- Two hosts that do the same with the same handlers: of each type the last one, in the order in
which the types first occur. -/
structure Host.Alike (gs : List (Handler α)) (h h' : Host α) : Prop where
  types : h.taskTypes = (gs.map Handler.taskType).eraseDups
  types' : h'.taskTypes = h.taskTypes
  latest : ∀ t, h.handlers.find? (fun k => k.taskType = t) = latest? Handler.taskType t gs
  handlers : h'.handlers = h.handlers
  slots : ∀ t, h'.allocation.get t = h.allocation.get t

namespace Registry

variable {gs : List (Handler α)} {base : Settings} {given given' : List (String × UInt64)}

/-- Plans from the settings and from those that the registry makes of them, in any order. -/
theorem sameEnd_plan_plain (one : Allocation.OneAtFault base.slotsPerType.entries)
    (few : (gs.map Handler.taskType).eraseDups.length < UInt64.size)
    (perm : given.Perm base.slotsPerType.entries)
    (perm' : given'.Perm ((plain gs).settings base).slotsPerType.entries) :
    SameEnd (fun a b => ∀ t, a.get t = b.get t)
      (Allocation.plan ((putAll Handler.taskType gs).map Handler.taskType) given base.sharedSlots)
      (Allocation.plan ((putAll Handler.taskType gs).map Handler.taskType) given'
        base.sharedSlots) := by
  have merged := get?_slots_plain gs base
  cases shared : base.sharedSlots with
  | none =>
    refine Allocation.sameEnd_plan ?_ (nodup_putAll _ gs) ?_ (Table.nodup_of_perm perm)
      (Table.nodup_of_perm perm') ?_
    · rw [keys_putAll]
      exact few
    · exact fun e mem f mem' => one e (perm.mem_iff.mp mem) f (perm.mem_iff.mp mem')
    · intro t
      rw [Table.valueOf?_of_perm perm, Table.valueOf?_of_perm perm', merged, shared]
      simp only [mem_keys_putAll]
      rfl
  | some n =>
    -- The registry names nothing then, and an entry of the settings is in conflict on both ways.
    have same : ((plain gs).settings base).slotsPerType = base.slotsPerType := by
      apply Table.ext_get?
      intro t
      rw [merged, shared]
      show (base.slotsPerType.get? t).or (if t ∈ gs.map Handler.taskType then none else none) = _
      rw [ite_self, Option.or_none]
    rw [same] at perm'
    have perm : given'.Perm given := perm'.trans perm.symm
    by_cases empty : given = []
    · rw [empty] at perm ⊢
      rw [perm.eq_nil]
      cases Allocation.plan ((putAll Handler.taskType gs).map Handler.taskType) [] (some n) with
      | error e => exact .failed e
      | ok a => exact .ended fun t => rfl
    · have full : given' ≠ [] := fun empty' => empty (empty' ▸ perm).symm.eq_nil
      rw [Allocation.plan_conflict empty, Allocation.plan_conflict full]
      exact .failed _

theorem sameEnd_buildIn (intervals : ∀ g ∈ gs, g.interval.isZero = false)
    (one : Allocation.OneAtFault base.slotsPerType.entries)
    (few : (gs.map Handler.taskType).eraseDups.length < UInt64.size)
    (perm : given.Perm base.slotsPerType.entries)
    (perm' : given'.Perm ((plain gs).settings base).slotsPerType.entries) :
    SameEnd (Host.Alike gs) (Host.buildIn given gs base)
      (Host.buildIn given' (plain gs).handlers ((plain gs).settings base)) := by
  have period := gracePeriod_settings (plain gs) base
  by_cases short : base.gracePeriod.nanos < 1_000_000_000
  · rw [Host.buildIn_of_short short, Host.buildIn_of_short (period ▸ short), period]
    exact .failed _
  · have intervals' : ∀ g ∈ putAll Handler.taskType gs, g.interval.isZero = false :=
      fun g mem => intervals g (mem_of_mem_putAll mem)
    have grace := Nat.not_lt.mp short
    rw [Host.buildIn_eq grace intervals, handlers_plain,
      Host.buildIn_eq (period ▸ grace) intervals', putAll_of_nodup (nodup_putAll _ gs),
      sharedSlots_settings]
    refine (sameEnd_plan_plain one few perm perm').map fun a b slots => ?_
    exact ⟨keys_putAll _ gs, rfl, find?_putAll _ gs, rfl, fun t => (slots t).symm⟩

/-- **Both ways to a host end alike,** if the handlers have intervals and at most one number of
slots is out of bounds: for the settings as they are, and whatever the orders in which the two ways
meet the slots by name. The types are no more than a word can count. -/
theorem sameEnd_build (gs : List (Handler α)) (base : Settings)
    (intervals : ∀ g ∈ gs, g.interval.isZero = false)
    (one : Allocation.OneAtFault base.slotsPerType.entries)
    (few : (gs.map Handler.taskType).eraseDups.length < UInt64.size) :
    SameEnd (Host.Alike gs) (Host.build gs base) ((plain gs).toHost base) ∧
    ∀ given given', given.Perm base.slotsPerType.entries →
      given'.Perm ((plain gs).settings base).slotsPerType.entries →
      SameEnd (Host.Alike gs) (Host.buildIn given gs base)
        (Host.buildIn given' (plain gs).handlers ((plain gs).settings base)) :=
  ⟨sameEnd_buildIn intervals one few (.refl _) (.refl _),
    fun _ _ perm perm' => sameEnd_buildIn intervals one few perm perm'⟩

/-- Two types, one of them with two handlers. -/
def sampleHandlers : List (Handler Nat) :=
  [⟨"pack", .ofMillis 1000, 1⟩, ⟨"parcel", .ofMillis 2000, 2⟩, ⟨"pack", .ofMillis 3000, 3⟩]

/-- Slots for one of the types, and none for a type that has no handler. -/
def sampleFault : Settings :=
  { Settings.standard "0" with slotsPerType := .ofList [("parcel", 6), ("post", 0)] }

theorem sample_sameEnd_build : (∀ g ∈ sampleHandlers, g.interval.isZero = false) ∧
    Allocation.OneAtFault sampleFault.slotsPerType.entries ∧
    (sampleHandlers.map Handler.taskType).eraseDups.length < UInt64.size ∧
    SameEnd (Host.Alike sampleHandlers) (.error (.noSlots "post" 0))
      ((plain sampleHandlers).toHost sampleFault) ∧
    ∃ h h', Host.build sampleHandlers (.standard "0") = .ok h ∧
      (plain sampleHandlers).toHost (.standard "0") = .ok h' ∧ Host.Alike sampleHandlers h h' := by
  have intervals : ∀ g ∈ sampleHandlers, g.interval.isZero = false := by decide
  have one : Allocation.OneAtFault sampleFault.slotsPerType.entries := by
    have entries : sampleFault.slotsPerType.entries = [("parcel", 6), ("post", 0)] := by decide
    have fits : Allocation.Fits 6 := ⟨by decide, by decide⟩
    rw [entries]
    intro e mem f mem' bad bad'
    simp only [List.mem_cons, List.not_mem_nil, or_false] at mem mem'
    rcases mem with rfl | rfl
    · exact absurd fits bad
    · rcases mem' with rfl | rfl
      · exact absurd fits bad'
      · rfl
  have few : (sampleHandlers.map Handler.taskType).eraseDups.length < UInt64.size := by decide
  have fault := (sameEnd_build sampleHandlers sampleFault intervals one few).1
  have usual := (sameEnd_build sampleHandlers (.standard "0") intervals
    (fun e mem => absurd mem List.not_mem_nil) few).1
  refine ⟨intervals, one, few, fault, ?_⟩
  have ok : (Host.build sampleHandlers (.standard "0")).toOption.isSome := by decide
  generalize Host.build sampleHandlers (.standard "0") = built at usual ok
  generalize (plain sampleHandlers).toHost (.standard "0") = made at usual
  cases usual with
  | failed e => cases ok
  | ended alike => exact ⟨_, _, rfl, rfl, alike⟩

end Registry

end TaskWorker
