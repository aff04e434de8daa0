import TaskWorker.Host.Basic
import TaskWorker.Proofs.Latest
/-!
# How a host is built

A host is built in three checks, and each of them ends the building with its own error: the grace
period, the polling intervals, the slots. What the first two let through is said here once, so that
all that is left of building a host is to plan its slots. The slots by name are the entries of a map
and come in any order; `buildIn` takes them in the order that is given.

* `addHandler_eq`, `uniqueHandlers_eq_ok_iff`: the handlers that are kept are the latest of each
  type;
* `buildIn`, with `buildIn_entries`: building with the slots by name in a given order;
* `buildIn_of_short`, **`buildIn_eq`**: how building ends before and after the first two checks;
  **`build_eq_ok_iff`**: what a host was built from.
-/

namespace TaskWorker.Host

variable {α : Type} {known gs hs : List (Handler α)} {given : List (String × UInt64)}
  {settings : Settings} {h : Host α}

/-! ## Handlers -/

theorem addHandler_eq (g : Handler α) (hs : List (Handler α)) :
    addHandler g hs = putLatest Handler.taskType g hs := by
  induction hs with
  | nil => rfl
  | cons h hs ih => rw [addHandler, putLatest, ih]

/-- Handlers are kept if all of them have intervals. -/
theorem uniqueHandlers_eq_ok_iff : uniqueHandlers known gs = .ok hs ↔
    (∀ g ∈ gs, g.interval.isZero = false) ∧
      gs.foldl (fun hs g => putLatest Handler.taskType g hs) known = hs := by
  induction gs generalizing known with
  | nil => simp [uniqueHandlers]
  | cons g gs ih =>
    rw [uniqueHandlers, List.foldl_cons, List.forall_mem_cons]
    by_cases zero : g.interval.isZero = true
    · simp [zero]
    · rw [if_neg zero, ih, addHandler_eq]
      simp [zero]

/-! ## Slots in some order -/

/-- A host for some handlers, with the slots by name in the order of `given`. -/
def buildIn (given : List (String × UInt64)) (handlers : List (Handler α)) (settings : Settings) :
    Except SettingsError (Host α) :=
  match settings.validate with
  | .error e => .error e
  | .ok () =>
    match uniqueHandlers [] handlers with
    | .error e => .error e
    | .ok handlers =>
      match Allocation.plan (handlers.map Handler.taskType) given settings.sharedSlots with
      | .error e => .error e
      | .ok allocation => .ok (assemble handlers allocation settings)

theorem buildIn_entries (handlers : List (Handler α)) (settings : Settings) :
    buildIn settings.slotsPerType.entries handlers settings = build handlers settings :=
  rfl

/-- A short grace period is found before anything else. -/
theorem buildIn_of_short (short : settings.gracePeriod.nanos < 1_000_000_000) :
    buildIn given hs settings = .error (.shortGracePeriod settings.gracePeriod) := by
  unfold buildIn Settings.validate
  rw [if_pos short]

/-- **With a grace period and with intervals, all that is left is to plan the slots.** -/
theorem buildIn_eq (grace : 1_000_000_000 ≤ settings.gracePeriod.nanos)
    (intervals : ∀ g ∈ gs, g.interval.isZero = false) :
    buildIn given gs settings =
      (Allocation.plan ((putAll Handler.taskType gs).map Handler.taskType) given
        settings.sharedSlots).map fun a => assemble (putAll Handler.taskType gs) a settings := by
  have kept : uniqueHandlers [] gs = .ok (putAll Handler.taskType gs) :=
    uniqueHandlers_eq_ok_iff.mpr ⟨intervals, rfl⟩
  unfold buildIn
  rw [Settings.validate_eq_ok_iff.mpr grace, kept]
  dsimp only
  cases Allocation.plan ((putAll Handler.taskType gs).map Handler.taskType) given
    settings.sharedSlots <;> rfl

/-- **What a host was built from.** -/
theorem build_eq_ok_iff : build gs settings = .ok h ↔
    1_000_000_000 ≤ settings.gracePeriod.nanos ∧ (∀ g ∈ gs, g.interval.isZero = false) ∧
      ∃ a, Allocation.plan ((putAll Handler.taskType gs).map Handler.taskType)
          settings.slotsPerType.entries settings.sharedSlots = .ok a ∧
        assemble (putAll Handler.taskType gs) a settings = h := by
  constructor
  · intro built
    have grace : 1_000_000_000 ≤ settings.gracePeriod.nanos := by
      by_contra short
      rw [← buildIn_entries, buildIn_of_short (Nat.not_le.mp short)] at built
      cases built
    have intervals : ∀ g ∈ gs, g.interval.isZero = false := by
      unfold build at built
      rw [Settings.validate_eq_ok_iff.mpr grace] at built
      cases kept : uniqueHandlers [] gs with
      | error e =>
        rw [kept] at built
        cases built
      | ok hs => exact (uniqueHandlers_eq_ok_iff.mp kept).1
    rw [← buildIn_entries, buildIn_eq grace intervals] at built
    cases planned : Allocation.plan ((putAll Handler.taskType gs).map Handler.taskType)
        settings.slotsPerType.entries settings.sharedSlots with
    | error e =>
      rw [planned] at built
      cases built
    | ok a =>
      rw [planned] at built
      exact ⟨grace, intervals, a, rfl, Except.ok.inj built⟩
  · rintro ⟨grace, intervals, a, planned, rfl⟩
    rw [← buildIn_entries, buildIn_eq grace intervals, planned]
    rfl

end TaskWorker.Host
