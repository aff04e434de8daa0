import TaskWorker.Overrides.Properties
import TaskWorker.Proofs.Allocations
import TaskWorker.Proofs.Lifecycle
import TaskWorker.Registry
import TaskWorker.Settings.Environment
/-!
# The way to a host

Numbers of slots, polling intervals and the grace period come from the environment, from whoever
changes the settings after that, from an external source of overrides, from the registrations and
from the handlers themselves. They are merged first and checked once, when the host is built. Here
the whole way is one function, and what comes out at its end is fit to run.

* `Registry.ofRegistrations`, **`Registry.hostOf`**: the way to a host;
  `Registry.ofRegistrations_eq`: what is registered; `Registry.mem_taskTypes`: a type is registered
  if a registration is for it;
* `Host.Fit`, what a host needs to run; **`Host.fit_of_build`**: a built host has it;
* `Host.Run.intervals`: no loop ever has an empty interval;
* **`Registry.fit_of_hostOf`**: whatever is given, no unfit host comes of it.
-/

namespace TaskWorker

variable {α : Type}

namespace Registry

/-- A registry of some registrations, made one after the other. -/
def ofRegistrations (external : Option (String → Overrides)) (rs : List (Registration α)) :
    Registry α :=
  rs.foldl (fun g r => g.register r.handler r.overrides) (.new external)

/-- The whole way to a host. The settings are read from the environment and then adjusted, in any
way; handlers are registered; and a host is made of the registry and the settings. -/
def hostOf (env : Environment) (freshId : String) (adjust : Settings → Settings)
    (external : Option (String → Overrides)) (rs : List (Registration α)) :
    Except SettingsError (Host α) :=
  match Settings.ofEnvironment env freshId with
  | .error e => .error e
  | .ok read => (ofRegistrations external rs).toHost (adjust read)

variable {rs : List (Registration α)} {t : String} {external : Option (String → Overrides)}

theorem addRegistration_eq (r : Registration α) (rs : List (Registration α)) :
    addRegistration r rs = putLatest Registration.taskType r rs := by
  induction rs with
  | nil => rfl
  | cons s rs ih => rw [addRegistration, putLatest, ih]

/-- The registrations that are kept are the latest of each type. -/
theorem ofRegistrations_eq (external : Option (String → Overrides)) (rs : List (Registration α)) :
    ofRegistrations external rs = ⟨putAll Registration.taskType rs, external⟩ := by
  induction rs using List.reverseRecOn with
  | nil => rfl
  | append_singleton rs r ih =>
    unfold ofRegistrations at ih ⊢
    rw [List.foldl_append, ih, List.foldl_cons, List.foldl_nil, register, addRegistration_eq,
      putAll_concat]

/-- The registered types are those of the registrations. -/
theorem mem_taskTypes :
    t ∈ (ofRegistrations external rs).taskTypes ↔ t ∈ rs.map Registration.taskType := by
  rw [ofRegistrations_eq]
  exact mem_keys_putAll

theorem types_handlers (g : Registry α) : g.handlers.map Handler.taskType = g.taskTypes := by
  rw [handlers, taskTypes, List.map_map]
  refine List.map_congr_left fun r _ => ?_
  simp only [Function.comp_apply, handlerOf]
  split <;> rfl

end Registry

namespace Host

variable {gs : List (Handler α)} {t : String} {settings : Settings} {h₀ h h' : Host α}
  {es : List Event}

/-! ## Hosts that are fit to run -/

/-- What a host for some task types needs to run. -/
structure Fit (types : List String) (h : Host α) : Prop where
  /-- The types have slots, and no others. -/
  slotTypes : ∀ t, t ∈ h.dispatcher.slots.keys ↔ t ∈ types
  allocated : ∀ t, t ∈ h.allocation.counts.keys ↔ t ∈ types
  /-- Every count of the allocation is one that slots can be made of, and they are. -/
  slots : ∀ t n, h.allocation.counts.get? t = some n →
    n ≤ maxSlots ∧ ∃ s, Slots.new? n = some s ∧ s.capacity = n ∧ h.dispatcher.slots.get? t = some s
  /-- No loop will ever spin. -/
  intervals : ∀ es h', Run h es h' → ∀ l ∈ h'.loops, l.handler.interval.isZero = false
  /-- The grace period is a second at least. -/
  grace : 1_000_000_000 ≤ h.dispatcher.settings.gracePeriod.nanos

/-- The intervals of the loops are those of the handlers, at all times. -/
theorem Run.intervals (run : Run h₀ es h)
    (handlers : ∀ k ∈ h₀.handlers, k.interval.isZero = false)
    (loops : ∀ k ∈ h₀.loops.map PollLoop.handler, k.interval.isZero = false) :
    ∀ k ∈ h.loops.map PollLoop.handler, k.interval.isZero = false := by
  refine (run.keeps (P := fun h => (∀ k ∈ h.handlers, k.interval.isZero = false) ∧
    ∀ k ∈ h.loops.map PollLoop.handler, k.interval.isZero = false) ?_ ⟨handlers, loops⟩).2
  rintro h h' e ⟨handlers, loops⟩ step
  refine ⟨by rw [(step?_lifeTurn step).1.handlers]; exact handlers, ?_⟩
  cases step?_loopTurn step with
  | stays _ same _ => rw [same]; exact loops
  | starts _ _ _ _ begun _ =>
    rw [begun, List.map_map]
    simpa [Function.comp_def] using handlers
  | sleeper _ _ _ _ _ _ _ _ turned _ | polls _ _ _ _ _ _ _ _ turned _ =>
    rw [turned, handlers_setLoop]
    exact loops
  | wakes _ _ _ _ _ woken _ =>
    rw [woken, handlers_wakeLoop]
    exact loops

theorem start_slots {a : Allocation} :
    (Dispatcher.start settings a : Dispatcher α).slots.get? t =
      (a.counts.get? t).map Slots.ofCapacity :=
  Table.get?_map _ _ _

/-- **A built host is fit to run.** -/
theorem fit_of_build (built : build gs settings = .ok h) :
    h.Fit (gs.map Handler.taskType) := by
  obtain ⟨grace, intervals, a, planned, rfl⟩ := build_eq_ok_iff.mp built
  have allocated : ∀ t, t ∈ a.counts.keys ↔ t ∈ gs.map Handler.taskType := by
    intro t
    rw [Allocation.mem_keys_of_plan planned]
    exact mem_keys_putAll
  refine ⟨fun t => ?_, allocated, fun t n counted => ?_, fun es h' run l mem => ?_, grace⟩
  · rw [Table.mem_keys_iff, assemble, start_slots, ne_eq, Option.map_eq_none_iff, ← ne_eq,
      ← Table.mem_keys_iff, allocated]
  · have le := Allocation.le_maxSlots_of_plan planned counted
    refine ⟨le, _, if_neg (UInt64.not_lt.mpr le), rfl, ?_⟩
    rw [assemble] at counted ⊢
    rw [start_slots, counted, Option.map_some]
  · have kept : ∀ k ∈ putAll Handler.taskType gs, k.interval.isZero = false :=
      fun k mem => intervals k (mem_of_mem_putAll mem)
    exact run.intervals kept (by simp [assemble]) _ (List.mem_map_of_mem mem)

end Host

namespace Registry

variable {env : Environment} {freshId : String} {adjust : Settings → Settings}
  {external : Option (String → Overrides)} {rs : List (Registration α)} {h : Host α}

/-- **The whole way to a host ends with an error or with a host that is fit to run** for the types
that were registered. -/
theorem fit_of_hostOf (made : hostOf env freshId adjust external rs = .ok h) :
    h.Fit (rs.map Registration.taskType) := by
  simp only [hostOf] at made
  split at made
  · cases made
  obtain ⟨types, allocated, slots, intervals, grace⟩ := Host.fit_of_build made
  rw [types_handlers] at types allocated
  exact ⟨fun t => (types t).trans mem_taskTypes, fun t => (allocated t).trans mem_taskTypes, slots,
    intervals, grace⟩

/-- Two registrations, one of which is said more about in the environment and the other one in
properties. -/
def sampleRegistrations : List (Registration Unit) :=
  [⟨⟨"pack", .ofMillis 1000, ()⟩, ⟨some 3, none, none⟩⟩, ⟨Host.sampleHandler, .none⟩]

def sampleVariables : Environment := .ofList [("WORKER_TASK_THREAD_COUNT", "parcel=2")]

def sampleProperties : Properties := .ofList [("worker.all.polling_interval", "50")]

theorem sample_fit_of_hostOf :
    ∃ h, hostOf sampleVariables "0" id (some sampleProperties.overridesFor) sampleRegistrations =
        .ok h ∧
      h.allocation.counts.entries = [("pack", 3), ("parcel", 2)] ∧ h.Fit ["pack", "parcel"] := by
  have counts : (hostOf sampleVariables "0" id (some sampleProperties.overridesFor)
      sampleRegistrations).map (fun h => h.allocation.counts.entries) =
        .ok [("pack", 3), ("parcel", 2)] := by decide +kernel
  cases made : hostOf sampleVariables "0" id (some sampleProperties.overridesFor)
    sampleRegistrations with
  | error e =>
    rw [made] at counts
    cases counts
  | ok h =>
    rw [made] at counts
    exact ⟨h, rfl, Except.ok.inj counts, fit_of_hostOf made⟩

end Registry

end TaskWorker
