import Mathlib.Data.List.Induction
import TaskWorker.Host.Event
import TaskWorker.Proofs.Building
/-!
# What runs keep, and what they show

What holds at first and is kept by every event holds after every run. Some facts are about the
course of a run and not about its last state alone; for them, a run is taken apart from its end, and
`along` lists what can be seen in its events.

* `foldlM_induction`: what single steps keep, whatever they are steps of;
* `Run.keeps`, **`Run.snocInduction`**: what a run keeps, by its events from either end;
* `along`, what is seen in the events of a run; `along_snoc`, one event more;
* **`build_eq_ok`**: a built host is assembled from handlers of different types;
* `sample`, a host with one handler and one slot, and `sampleWork`, a run of it.
-/

namespace TaskWorker

/-- **Induction on single steps from the last one**, where `P` may look at the steps so far. -/
theorem foldlM_induction {σ ε : Type} {step? : σ → ε → Option σ} {P : List ε → σ → Prop} {s₀ s : σ}
    {es : List ε} (nil : P [] s₀)
    (snoc : ∀ {es : List ε} {s s' : σ} {e : ε},
      es.foldlM step? s₀ = some s → P es s → step? s e = some s' → P (es ++ [e]) s')
    (run : es.foldlM step? s₀ = some s) : P es s := by
  induction es using List.reverseRecOn generalizing s with
  | nil =>
    cases run
    exact nil
  | append_singleton es e ih =>
    rw [List.foldlM_append, Option.bind_eq_bind, Option.bind_eq_some_iff] at run
    obtain ⟨s', run, last⟩ := run
    simp only [List.foldlM_cons, List.foldlM_nil, bind_pure] at last
    exact snoc run (ih run) last

namespace Host

variable {α : Type} {h₀ h h' : Host α} {e : Event} {es fs : List Event}

/-! ## Induction on runs -/

/-- **What every event keeps, a run keeps.** -/
theorem Run.keeps {P : Host α → Prop}
    (step : ∀ {h h' : Host α} {e : Event}, P h → h.step? e = some h' → P h')
    (run : Run h₀ es h) (start : P h₀) : P h := by
  induction run with
  | nil => exact start
  | cons first _ ih => exact ih (step start first)

/-- A run of some events and then others stops between them. -/
theorem run_append_iff : Run h₀ (es ++ fs) h' ↔ ∃ h, Run h₀ es h ∧ Run h fs h' := by
  constructor
  · intro run
    induction es generalizing h₀ with
    | nil => exact ⟨h₀, .nil h₀, run⟩
    | cons e es ih =>
      obtain _ | ⟨first, rest⟩ := run
      obtain ⟨h, run, rest⟩ := ih rest
      exact ⟨h, .cons first run, rest⟩
  · rintro ⟨h, run, rest⟩
    exact run.trans rest

/-- A run of one event more, from its end. -/
theorem run_snoc_iff : Run h₀ (es ++ [e]) h' ↔ ∃ h, Run h₀ es h ∧ h.step? e = some h' := by
  rw [run_append_iff]
  constructor
  · rintro ⟨h, run, rest⟩
    obtain _ | ⟨last, rest⟩ := rest
    obtain _ | _ := rest
    exact ⟨h, run, last⟩
  · rintro ⟨h, run, last⟩
    exact ⟨h, run, .cons last (.nil h')⟩

/-- **Induction on a run from its end**, where `P` may look at the events so far. -/
theorem Run.snocInduction {P : List Event → Host α → Prop} (nil : P [] h₀)
    (snoc : ∀ {es : List Event} {h h' : Host α} {e : Event},
      Run h₀ es h → P es h → h.step? e = some h' → P (es ++ [e]) h')
    (run : Run h₀ es h) : P es h := by
  induction es using List.reverseRecOn generalizing h with
  | nil =>
    obtain _ | _ := run
    exact nil
  | append_singleton es e ih =>
    obtain ⟨g, run, last⟩ := run_snoc_iff.mp run
    exact snoc run (ih run) last

/-! ## What is seen in a run -/

section Along

variable {β : Type} (f : Host α → Event → Option β)

/-- What `f` sees in the events of a run, in their order. -/
def along (h : Host α) : List Event → List β
  | [] => []
  | e :: es =>
    (f h e).toList ++
      match h.step? e with
      | some h' => along h' es
      | none => []

theorem along_cons_of_step (first : h.step? e = some h') :
    h.along f (e :: es) = (f h e).toList ++ h'.along f es := by
  simp only [along, first]

theorem along_snoc (run : Run h₀ es h) :
    h₀.along f (es ++ [e]) = h₀.along f es ++ (f h e).toList := by
  induction run with
  | nil h =>
    simp only [List.nil_append, along]
    cases h.step? e <;> simp
  | cons first _ ih =>
    rw [List.cons_append, along_cons_of_step f first, along_cons_of_step f first, ih,
      List.append_assoc]

end Along

/-! ## Built hosts -/

/-- **A built host is assembled from handlers of different types and the slots planned for them.**
-/
theorem build_eq_ok {handlers : List (Handler α)} {settings : Settings}
    (built : build handlers settings = .ok h₀) :
    ∃ hs a, h₀ = assemble hs a settings ∧ (hs.map Handler.taskType).Nodup ∧
      Allocation.plan (hs.map Handler.taskType) settings.slotsPerType.entries
        settings.sharedSlots = .ok a := by
  obtain ⟨-, -, a, planned, rfl⟩ := build_eq_ok_iff.mp built
  exact ⟨_, a, rfl, nodup_putAll _ handlers, planned⟩

/-! ## A small host -/

/-- A handler that polls every second. -/
def sampleHandler : Handler Unit := ⟨"parcel", .ofMillis 1000, ()⟩

def sampleTask : Task := .new "p1" "parcel" "w1" .null

/-- A host with that handler and one slot. -/
def sample : Host Unit :=
  assemble [sampleHandler] (.split ["parcel"] 1) (.standard "0")

theorem build_sample : build [sampleHandler] (.standard "0") = .ok sample := rfl

/-- A run that can be replayed leads to the state that the replay gives. -/
theorem run_get (possible : (h₀.replay es).isSome = true) :
    Run h₀ es ((h₀.replay es).get possible) :=
  run_iff_replay.mpr (Option.some_get possible).symm

/-- The sample gets its task, works on it and sends its result. -/
def sampleWork : List Event :=
  [.init true, .elapse 1000, .loopTicks "parcel" false none,
    .pollAnswered 0 (.ok (some sampleTask)),
    .handlerDone 1 (.returned (.completed sampleTask .null)) (.returned none) .epoch]

def sampleAtWork : Host Unit := (sample.replay sampleWork).get (by decide)

theorem run_sampleWork : Run sample sampleWork sampleAtWork := run_get _

end Host

end TaskWorker
