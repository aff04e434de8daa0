import TaskWorker.Proofs.Assembly
import TaskWorker.Proofs.Stopping
/-!
# Where a host's settings come from

What a host does with a task type is said in several places: in the settings that it is made with,
by an external source, at the registration of the handler, by the handler itself. A host that is
made of a registry has, for each registered type, what these places come to.

* `Table.insertNew?`, with **`Table.get?_foldl_insertNew?`**: the entries that a list adds to a
  table;
* `Registry.resolve_eq`, `Registry.handlerOf_eq`: what is said about a registration;
  `Registry.settings_eq`, `Registry.get?_slots_settings`, `Registry.get?_domains_settings`: the
  merged settings;
* `Allocation.plan_conflict`, `Allocation.get?_of_plan`: plans for named types;
* `Dispatcher.Move.polls_eq`, **`Host.Run.polled_domain`**: every poll of a run names the domain of
  its type;
* `Registry.toHost_eq`, `Registry.slots_of_latest`, `Registry.domain_of_latest`,
  `Registry.handler_of_latest`: what a host is made of, and what that comes from;
* `Registry.Merged`, what a host has of a type; **`Registry.merged_of_toHost`**: a host made of a
  registry has it of every registered type, and nothing else changes.
-/

namespace TaskWorker

/-! ## Entries that spare what is there -/

namespace Table

universe u v

variable {α : Type u} {β : Type v} {t : Table α} {k k' : String}

/-- Sets the value of a name that has none yet, if there is a value to set. -/
def insertNew? (t : Table α) (k : String) : Option α → Table α
  | some v => t.insertNew k v
  | none => t

theorem get?_insertNew? (t : Table α) (k : String) (v : Option α) (k' : String) :
    (t.insertNew? k v).get? k' = (t.get? k').or (if k = k' then v else none) := by
  cases v with
  | none => simp [insertNew?]
  | some v =>
    rw [insertNew?, get?_insertNew]
    by_cases here : k = k'
    · subst here
      cases t.get? k <;> simp
    · simp [here]

/-- **The first item of a name adds its value**, unless the name has one. -/
theorem get?_foldl_insertNew? {key : β → String} (f : β → Option α) {xs : List β}
    (nodup : (xs.map key).Nodup) (t : Table α) (k : String) :
    (xs.foldl (fun t x => t.insertNew? (key x) (f x)) t).get? k =
      (t.get? k).or ((xs.find? fun x => key x = k).bind f) := by
  induction xs generalizing t with
  | nil => simp
  | cons x xs ih =>
    rw [List.map_cons, List.nodup_cons] at nodup
    rw [List.foldl_cons, ih nodup.2, get?_insertNew?, Option.or_assoc]
    congr 1
    by_cases here : key x = k
    · -- No later item has the name.
      have later : xs.find? (fun x => key x = k) = none := by
        rw [List.find?_eq_none]
        intro y mem same
        apply nodup.1
        rw [here, ← of_decide_eq_true same]
        exact List.mem_map_of_mem mem
      rw [if_pos here, later, List.find?_cons_of_pos (by simpa using here)]
      simp
    · rw [if_neg here, List.find?_cons_of_neg (by simpa using here), Option.none_or]

end Table

variable {α : Type}

namespace Registry

variable {g : Registry α} {r : Registration α} {rs : List (Registration α)} {base : Settings}
  {external : Option (String → Overrides)} {t : String} {h : Host α}

/-! ## What is merged -/

/-- What the external source says about a type, if there is one. -/
def outside (external : Option (String → Overrides)) (t : String) : Overrides :=
  external.elim .none fun say => say t

theorem resolve_eq (g : Registry α) (r : Registration α) :
    g.resolve r = (outside g.external r.taskType).or r.overrides := by
  unfold resolve outside
  cases g.external with
  | none => exact (Overrides.none_or _).symm
  | some say => rfl

/-- The registrations add slots and domains to the settings and leave the rest as it is. -/
theorem settings_eq (g : Registry α) (base : Settings) :
    g.settings base = { base with
      slotsPerType := g.registrations.foldl (fun t r =>
        t.insertNew? r.taskType (slotsOf (g.resolve r) base.sharedSlots.isSome)) base.slotsPerType
      domains := g.registrations.foldl (fun t r =>
        t.insertNew? r.taskType ((g.resolve r).domain.filter fun d => !d.isEmpty))
        base.domains } := by
  unfold settings
  induction g.registrations generalizing base with
  | nil => rfl
  | cons r rs ih =>
    have first : extend base r.taskType (g.resolve r) = { base with
        slotsPerType := base.slotsPerType.insertNew? r.taskType
          (slotsOf (g.resolve r) base.sharedSlots.isSome)
        domains := base.domains.insertNew? r.taskType
          ((g.resolve r).domain.filter fun d => !d.isEmpty) } := by
      unfold extend
      cases slotsOf (g.resolve r) base.sharedSlots.isSome <;>
        cases (g.resolve r).domain.filter fun d => !d.isEmpty <;> rfl
    rw [List.foldl_cons, ih, first]
    rfl

theorem get?_slots_settings (nodup : g.taskTypes.Nodup) (base : Settings) (t : String) :
    (g.settings base).slotsPerType.get? t = (base.slotsPerType.get? t).or
      ((g.registrations.find? fun r => r.taskType = t).bind fun r =>
        slotsOf (g.resolve r) base.sharedSlots.isSome) := by
  rw [settings_eq]
  exact Table.get?_foldl_insertNew? _ nodup _ _

theorem get?_domains_settings (nodup : g.taskTypes.Nodup) (base : Settings) (t : String) :
    (g.settings base).domains.get? t = (base.domains.get? t).or
      ((g.registrations.find? fun r => r.taskType = t).bind fun r =>
        (g.resolve r).domain.filter fun d => !d.isEmpty) := by
  rw [settings_eq]
  exact Table.get?_foldl_insertNew? _ nodup _ _

theorem handlerOf_eq (g : Registry α) (r : Registration α) : g.handlerOf r =
    ⟨r.taskType, (g.resolve r).interval.getD r.handler.interval, r.handler.logic⟩ := by
  unfold handlerOf
  cases (g.resolve r).interval <;> rfl

end Registry

/-! ## What is planned for named types -/

namespace Allocation

variable {types : List String} {given : List (String × UInt64)} {a : Allocation} {t : String}
  {n : UInt64}

theorem plan_conflict (named : given ≠ []) :
    plan types given (some n) = .error .conflictingSlots := by
  obtain ⟨f, fs, rfl⟩ := List.exists_cons_of_ne_nil named
  rfl

/-- A type that is named has the slots that it is given. -/
theorem get?_of_plan (ok : plan types given none = .ok a) (mem : t ∈ types)
    (entry : valueOf? t given = some n) : a.counts.get? t = some n := by
  cases plan_eq_ok_iff.mp ok with
  | named _ _ =>
    rw [get?_named, if_pos (mem_distinct.mpr mem), entry]
    rfl
  | equally => cases entry

theorem defaulted_of_plan (ok : plan types given none = .ok a)
    (entries : ∀ t ∈ types, valueOf? t given ≠ none) : a.defaulted = [] := by
  cases plan_eq_ok_iff.mp ok with
  | named _ _ =>
    refine List.filter_eq_nil_iff.mpr fun t mem missing => ?_
    apply entries t (mem_distinct.mp mem)
    simpa using missing
  | equally => rfl

end Allocation

/-! ## What is polled -/

/-- A move sends no poll, or one for the domain of its type. -/
theorem Dispatcher.Move.polls_eq {d d' : Dispatcher α} {e : Host.Event} (move : d.Move e d') :
    d'.polls = d.polls ∨
      ∃ time t w, d'.polls = .polled time t w (d.settings.domainFor t) :: d.polls := by
  cases move with
  | aside _ same => exact .inl (by rw [polls, same.journal, polls])
  | @poll t _ g _ type _ _ taken =>
    obtain ⟨_, _, _, _, rfl⟩ := acquire?_eq_some taken
    exact .inr ⟨_, g.taskType, _, rfl⟩
  | handled _ _ concluded | lostConcluding _ _ concluded =>
    obtain ⟨_, rfl⟩ := conclude_eq concluded
    exact .inl rfl
  | delivered _ _ finished | lostTelling _ _ finished _ =>
    obtain ⟨_, _, rfl, undelivered⟩ := afterReport_over finished
    exact .inl (filter_news rfl undelivered)
  | _ => exact .inl rfl

/-- **Every poll of a run names the domain of its type.** -/
theorem Host.Run.polled_domain {h₀ h : Host α} {es : List Event} (run : Run h₀ es h)
    (start : h₀.dispatcher.polls = []) {time : Nat} {t w : String} {d : Option String}
    (polled : .polled time t w d ∈ h.dispatcher.polls) :
    d = h₀.dispatcher.settings.domainFor t := by
  have kept : h.dispatcher.settings = h₀.dispatcher.settings ∧ ∀ time t w d,
      .polled time t w d ∈ h.dispatcher.polls → d = h₀.dispatcher.settings.domainFor t := by
    refine run.keeps (P := fun h => h.dispatcher.settings = h₀.dispatcher.settings ∧
      ∀ time t w d, .polled time t w d ∈ h.dispatcher.polls →
        d = h₀.dispatcher.settings.domainFor t) ?_ ⟨rfl, ?_⟩
    · rintro h h' e ⟨settings, domains⟩ step
      have move := step?_move step
      rw [move.settings_eq]
      obtain quiet | ⟨time, t, w, sent⟩ := move.polls_eq
      · rw [quiet]
        exact ⟨settings, domains⟩
      · rw [sent, settings]
        refine ⟨rfl, fun time' t' w' d' mem => ?_⟩
        rcases List.mem_cons.mp mem with new | old
        · cases new
          rfl
        · exact domains time' t' w' d' old
    · intro time t w d mem
      rw [start] at mem
      cases mem
  exact kept.2 time t w d polled

namespace Registry

variable {g : Registry α} {r : Registration α} {rs : List (Registration α)} {base : Settings}
  {external : Option (String → Overrides)} {t : String} {h : Host α}

/-! ## What a host has of a type -/

/-- What a host has of a type whose latest registration is `r`. The settings that it was made with
come first, then what is said outside, then the registration; an empty domain is none. -/
structure Merged (base : Settings) (said : Overrides) (r : Registration α) (h : Host α) : Prop where
  slots : h.allocation.counts.get? r.taskType =
    some (((base.slotsPerType.get? r.taskType).or (said.slots.or r.overrides.slots)).getD 1)
  capacity : h.dispatcher.slots.get? r.taskType =
    (h.allocation.counts.get? r.taskType).map Slots.ofCapacity
  domain : h.dispatcher.settings.domainFor r.taskType =
    ((base.domains.get? r.taskType).or (said.domain.or r.overrides.domain)).filter fun d => d ≠ ""
  /-- All polls of the type are for its domain, whatever the host does. -/
  polls : ∀ es h', Host.Run h es h' → ∀ time w d,
    .polled time r.taskType w d ∈ h'.dispatcher.journal →
      d = h.dispatcher.settings.domainFor r.taskType
  /-- The type has one handler: the registered one, under the interval that counts. -/
  handler : ∀ k, k ∈ h.handlers ∧ k.taskType = r.taskType ↔
    k = ⟨r.taskType, (said.interval.or r.overrides.interval).getD r.handler.interval,
      r.handler.logic⟩

theorem find?_registrations (external : Option (String → Overrides)) (rs : List (Registration α))
    (t : String) :
    (ofRegistrations external rs).registrations.find? (fun r => r.taskType = t) =
      latest? Registration.taskType t rs := by
  rw [ofRegistrations_eq]
  exact find?_putAll _ rs t

theorem nodup_taskTypes (external : Option (String → Overrides)) (rs : List (Registration α)) :
    (ofRegistrations external rs).taskTypes.Nodup := by
  rw [ofRegistrations_eq]
  exact nodup_putAll _ rs

theorem slots_of_latest (own : base.sharedSlots = none)
    (latest : latest? Registration.taskType t rs = some r) (type : r.taskType = t) :
    ((ofRegistrations external rs).settings base).slotsPerType.get? t = some
      (((base.slotsPerType.get? t).or ((outside external t).slots.or r.overrides.slots)).getD 1) := by
  have resolved : ((ofRegistrations external rs).resolve r).slots =
      (outside external t).slots.or r.overrides.slots := by
    rw [resolve_eq, ofRegistrations_eq, type]
    rfl
  rw [get?_slots_settings (nodup_taskTypes external rs), find?_registrations, latest, own]
  show (base.slotsPerType.get? t).or (slotsOf _ false) = _
  rw [slotsOf, resolved]
  cases base.slotsPerType.get? t <;>
    cases (outside external t).slots.or r.overrides.slots <;> rfl

theorem domain_of_latest (latest : latest? Registration.taskType t rs = some r)
    (type : r.taskType = t) :
    ((ofRegistrations external rs).settings base).domainFor t =
      ((base.domains.get? t).or ((outside external t).domain.or r.overrides.domain)).filter
        fun d => d ≠ "" := by
  have resolved : ((ofRegistrations external rs).resolve r).domain =
      (outside external t).domain.or r.overrides.domain := by
    rw [resolve_eq, ofRegistrations_eq, type]
    rfl
  have named : (fun d : String => !d.isEmpty) = fun d => decide (d ≠ "") := by
    funext d
    by_cases empty : d = "" <;> simp [empty]
  rw [Settings.domainFor, get?_domains_settings (nodup_taskTypes external rs), find?_registrations,
    latest, Option.bind_some, resolved, named]
  cases base.domains.get? t with
  | some d =>
    -- An entry of the settings counts even if it is empty.
    rfl
  | none => rw [Option.none_or, Option.none_or, Option.filter_filter]; simp

theorem putAll_handlers (nodup : g.taskTypes.Nodup) :
    putAll Handler.taskType g.handlers = g.handlers := by
  apply putAll_of_nodup
  rw [types_handlers]
  exact nodup

theorem sharedSlots_settings (g : Registry α) (base : Settings) :
    (g.settings base).sharedSlots = base.sharedSlots := by
  rw [settings_eq]

theorem gracePeriod_settings (g : Registry α) (base : Settings) :
    (g.settings base).gracePeriod = base.gracePeriod := by
  rw [settings_eq]

/-- What a host is made of: a plan for the registered types, their handlers, the merged settings. -/
theorem toHost_eq_ok (nodup : g.taskTypes.Nodup) (made : g.toHost base = .ok h) :
    ∃ a, Allocation.plan g.taskTypes (g.settings base).slotsPerType.entries base.sharedSlots =
        .ok a ∧ Host.assemble g.handlers a (g.settings base) = h := by
  obtain ⟨-, -, a, planned, rfl⟩ := Host.build_eq_ok_iff.mp made
  rw [putAll_handlers nodup, types_handlers, sharedSlots_settings] at planned
  exact ⟨a, planned, by rw [putAll_handlers nodup]⟩

/-- With a grace period and with intervals, a registry makes a host of each plan for its types. -/
theorem toHost_eq (nodup : g.taskTypes.Nodup) (grace : 1_000_000_000 ≤ base.gracePeriod.nanos)
    (intervals : ∀ k ∈ g.handlers, k.interval.isZero = false) :
    g.toHost base =
      (Allocation.plan g.taskTypes (g.settings base).slotsPerType.entries base.sharedSlots).map
        fun a => Host.assemble g.handlers a (g.settings base) := by
  rw [← gracePeriod_settings g base] at grace
  rw [toHost, ← Host.buildIn_entries, Host.buildIn_eq grace intervals, putAll_handlers nodup,
    types_handlers, sharedSlots_settings]

theorem handler_of_latest (latest : latest? Registration.taskType t rs = some r)
    (type : r.taskType = t) (k : Handler α) :
    k ∈ (ofRegistrations external rs).handlers ∧ k.taskType = t ↔
      k = ⟨t, ((outside external t).interval.or r.overrides.interval).getD r.handler.interval,
        r.handler.logic⟩ := by
  have resolved : (ofRegistrations external rs).handlerOf r =
      ⟨t, ((outside external t).interval.or r.overrides.interval).getD r.handler.interval,
        r.handler.logic⟩ := by
    rw [handlerOf_eq, resolve_eq, ofRegistrations_eq, type]
    rfl
  rw [handlers, List.mem_map, ← resolved]
  constructor
  · rintro ⟨⟨s, mem, rfl⟩, same⟩
    rw [handlerOf_eq] at same
    have found := find?_key Registration.taskType (nodup_taskTypes external rs) mem
    rw [show s.taskType = t from same, find?_registrations, latest] at found
    rw [Option.some.inj found]
  · rintro rfl
    refine ⟨⟨r, ?_, rfl⟩, by rw [handlerOf_eq]; exact type⟩
    rw [← find?_registrations external] at latest
    exact List.mem_of_find?_eq_some latest

/-- **A host made of a registry has what the places come to**, of every registered type, if there
are no slots for all types. No type has its slots by default, and of the settings only the slots and
the domains of registered types can change. -/
theorem merged_of_toHost (own : base.sharedSlots = none)
    (made : (ofRegistrations external rs).toHost base = .ok h) :
    (∀ t ∈ rs.map Registration.taskType, ∃ r, latest? Registration.taskType t rs = some r ∧
      r.taskType = t ∧ Merged base (outside external t) r h) ∧
    h.allocation.defaulted = [] ∧
    (∀ t, t ∉ rs.map Registration.taskType →
      h.dispatcher.settings.slotsPerType.get? t = base.slotsPerType.get? t ∧
      h.dispatcher.settings.domains.get? t = base.domains.get? t) ∧
    ∃ slotsPerType domains, h.dispatcher.settings = { base with slotsPerType, domains } := by
  obtain ⟨a, planned, rfl⟩ := toHost_eq_ok (nodup_taskTypes external rs) made
  have slots : ∀ t ∈ rs.map Registration.taskType, ∃ r,
      latest? Registration.taskType t rs = some r ∧ r.taskType = t ∧
      ((ofRegistrations external rs).settings base).slotsPerType.get? t =
        some (((base.slotsPerType.get? t).or
          ((outside external t).slots.or r.overrides.slots)).getD 1) := by
    intro t mem
    obtain ⟨r, latest, type⟩ := exists_latest? mem
    exact ⟨r, latest, type, slots_of_latest own latest type⟩
  rw [own] at planned
  refine ⟨?_, ?_, ?_, ?_⟩
  · intro t mem
    obtain ⟨r, latest, rfl, named⟩ := slots t mem
    refine ⟨r, latest, rfl, ?_⟩
    have counted := Allocation.get?_of_plan planned (mem_taskTypes.mpr mem) named
    refine ⟨counted, Host.start_slots, domain_of_latest latest rfl, ?_,
      handler_of_latest latest rfl⟩
    intro es h' run time w d polled
    exact run.polled_domain rfl (List.mem_filter.mpr ⟨polled, rfl⟩)
  · refine Allocation.defaulted_of_plan planned fun t mem => ?_
    obtain ⟨r, -, -, named⟩ := slots t (mem_taskTypes.mp mem)
    show Table.get? _ t ≠ none
    rw [named]
    exact Option.some_ne_none _
  · intro t new
    have unknown : latest? Registration.taskType t rs = none := latest?_eq_none_iff.mpr new
    constructor
    · show ((ofRegistrations external rs).settings base).slotsPerType.get? t = _
      rw [get?_slots_settings (nodup_taskTypes external rs), find?_registrations, unknown]
      exact Option.or_none
    · show ((ofRegistrations external rs).settings base).domains.get? t = _
      rw [get?_domains_settings (nodup_taskTypes external rs), find?_registrations, unknown]
      exact Option.or_none
  · show ∃ slotsPerType domains, (ofRegistrations external rs).settings base =
      { base with slotsPerType, domains }
    exact ⟨_, _, settings_eq _ base⟩

/-- One type is registered twice, the second time for no domain; the other one is spoken of in all
places. -/
def sampleTwice : List (Registration Nat) :=
  [⟨⟨"pack", .ofMillis 1000, 1⟩, ⟨some 3, none, some "north"⟩⟩,
    ⟨⟨"parcel", .ofMillis 2000, 2⟩, ⟨some 5, some (.ofMillis 70), some "south"⟩⟩,
    ⟨⟨"pack", .ofMillis 3000, 3⟩, ⟨none, none, some ""⟩⟩]

def sampleOutside : Properties :=
  .ofList [("worker.parcel.thread_count", "4"), ("worker.parcel.polling_interval", "40")]

def sampleBase : Settings :=
  { Settings.standard "0" with slotsPerType := .ofList [("parcel", 6), ("post", 7)] }

theorem sample_merged_of_toHost : sampleBase.sharedSlots = none ∧
    ∃ h, (ofRegistrations (some sampleOutside.overridesFor) sampleTwice).toHost sampleBase = .ok h ∧
      h.allocation.counts.get? "pack" = some 1 ∧ h.allocation.counts.get? "parcel" = some 6 ∧
      h.dispatcher.settings.domainFor "pack" = none ∧
      (∀ k, k ∈ h.handlers ∧ k.taskType = "pack" ↔ k = ⟨"pack", .ofMillis 3000, 3⟩) ∧
      (∀ k, k ∈ h.handlers ∧ k.taskType = "parcel" ↔ k = ⟨"parcel", .ofMillis 40, 2⟩) ∧
      h.dispatcher.settings.slotsPerType.get? "post" = some 7 := by
  have ok : ((ofRegistrations (some sampleOutside.overridesFor) sampleTwice).toHost
      sampleBase).toOption.isSome := by decide +kernel
  cases made :
    (ofRegistrations (some sampleOutside.overridesFor) sampleTwice).toHost sampleBase with
  | error e =>
    rw [made] at ok
    cases ok
  | ok h =>
    obtain ⟨types, -, others, -⟩ := merged_of_toHost rfl made
    obtain ⟨r, latest, -, pack⟩ := types "pack" (by decide)
    obtain ⟨r', latest', -, parcel⟩ := types "parcel" (by decide)
    cases latest
    cases latest'
    have interval : (outside (some sampleOutside.overridesFor) "parcel").interval =
        some (.ofMillis 40) := by decide +kernel
    have handler := parcel.handler
    rw [interval] at handler
    exact ⟨rfl, h, rfl, pack.slots, parcel.slots, pack.domain, pack.handler, handler,
      (others "post" (by decide)).1⟩

end Registry

end TaskWorker
