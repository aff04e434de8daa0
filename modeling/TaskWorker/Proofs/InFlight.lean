import TaskWorker.Proofs.Turns
/-!
# The count of executions under way

A dispatcher counts the executions under way as they begin and end. An execution that panics outside
the work of its handler ends without being taken out of the count, and stays in it for good; all
others are taken out when they end.

* `Dispatcher.lostCount`, the executions that ended in such a panic;
* **`Host.Run.running_eq`**: the count is that of the executions under way and the lost ones;
* **`Host.Run.running_eq_length_iff`**: it is right exactly as long as no execution is lost;
* `Host.Run.not_lost_of_calm`: where only the work of handlers panics, none is;
* `Host.Run.forced_eq`: what a forced shutdown says about the executions that it abandons.
-/

namespace TaskWorker

variable {α : Type}

namespace Dispatcher

variable {d d' : Dispatcher α} {e : Host.Event}

/-- The executions that ended in a panic outside the work of their handlers. -/
def lostCount (d : Dispatcher α) : Nat := d.endings.countP fun ending => ending.2 = .lost

/-- The executions under way are counted, and with them the lost ones. -/
def Counted (d : Dispatcher α) : Prop :=
  d.running = (d.executions.length + d.lostCount : Nat)

theorem Turn.counted (turn : d.Turn e d') (o : d.Orderly) (counted : d.Counted) : d'.Counted := by
  unfold Counted lostCount at counted ⊢
  cases turn with
  | stays _ _ executions _ running endings =>
    rw [running, executions, endings]
    exact counted
  | begins x _ _ _ _ executions _ running endings =>
    rw [running, executions, endings, counted, List.length_append, List.length_singleton]
    omega
  | goesOn x phase _ _ _ _ executions _ running endings =>
    have same : (d.setPhase x.number phase).executions.length = d.executions.length :=
      List.length_map _
    rw [running, executions, endings, same]
    exact counted
  | ends x fate mem _ _ _ _ _ executions _ running endings =>
    have one : d.executions.length = (d.others x).length + 1 := (perm_others o mem).length_eq
    rw [running, executions, endings, counted, List.countP_cons, one]
    by_cases lost : fate = .lost
    · rw [if_pos lost, if_pos (by simpa using lost)]
      omega
    · rw [if_neg lost, if_neg (by simpa using lost)]
      omega

theorem lostCount_eq_zero_iff : d.lostCount = 0 ↔ ∀ n, (n, Fate.lost) ∉ d.endings := by
  simp only [lostCount, List.countP_eq_zero, decide_eq_true_eq]
  constructor
  · intro none n mem
    exact none _ mem rfl
  · rintro none ⟨n, fate⟩ mem rfl
    exact none n mem

theorem Turn.not_lost (turn : d.Turn e d') (calm : e.isCalm = true)
    (none : ∀ n, (n, Fate.lost) ∉ d.endings) : ∀ n, (n, Fate.lost) ∉ d'.endings := by
  cases turn with
  | stays _ _ _ _ _ endings | begins _ _ _ _ _ _ _ _ endings
  | goesOn _ _ _ _ _ _ _ _ _ endings =>
    rw [endings]
    exact none
  | ends x fate _ _ _ _ _ panic _ _ _ endings =>
    intro n mem
    rw [endings] at mem
    rcases List.mem_cons.mp mem with same | mem
    · rw [panic (Prod.ext_iff.mp same).2.symm] at calm
      cases calm
    · exact none n mem

end Dispatcher

namespace Host

variable {h₀ h h' : Host α} {es : List Event} {handlers : List (Handler α)} {settings : Settings}

/-- **The count after a run is that of the executions under way and of those that were lost.** -/
theorem Run.running_eq (built : build handlers settings = .ok h₀) (run : Run h₀ es h) :
    h.dispatcher.running = (h.dispatcher.executions.length + h.dispatcher.lostCount : Nat) := by
  refine run.snocInduction (P := fun _ h => h.dispatcher.Counted) ?_ ?_
  · obtain ⟨hs, a, rfl, _⟩ := build_eq_ok built
    rfl
  · intro es h h' e run counted step
    exact (step?_turn step).counted (run.orderly built) counted

/-- **The count is right exactly as long as no execution is lost.** -/
theorem Run.running_eq_length_iff (built : build handlers settings = .ok h₀)
    (run : Run h₀ es h) :
    h.dispatcher.running = h.dispatcher.executions.length ↔
      ∀ n, (n, Fate.lost) ∉ h.dispatcher.endings := by
  rw [← Dispatcher.lostCount_eq_zero_iff, run.running_eq built]
  omega

/-- Where only the work of handlers panics, no execution is lost. -/
theorem Run.not_lost_of_calm (built : build handlers settings = .ok h₀) (run : Run h₀ es h)
    (calm : ∀ e ∈ es, e.isCalm = true) : ∀ n, (n, Fate.lost) ∉ h.dispatcher.endings := by
  refine run.snocInduction
    (P := fun es h => (∀ e ∈ es, e.isCalm = true) → ∀ n, (n, Fate.lost) ∉ h.dispatcher.endings)
    ?_ ?_ calm
  · intro _ n mem
    obtain ⟨hs, a, rfl, _⟩ := build_eq_ok built
    cases mem
  · intro es h h' e run none step calm
    have before : ∀ f ∈ es, f.isCalm = true := fun f hf => calm f (List.mem_append_left _ hf)
    exact (step?_turn step).not_lost (calm e (by simp)) (none before)

/-- What a forced shutdown says about the executions that it abandons: with those under way, it
names the lost ones. -/
theorem Run.forced_eq (built : build handlers settings = .ok h₀) (run : Run h₀ es h)
    (force : h.step? .graceOver = some h') :
    h'.drain = .over (.forced (h.dispatcher.executions.length + h.dispatcher.lostCount : Nat)) ∧
      h'.dispatcher.executions = h.dispatcher.executions := by
  simp only [step?] at force
  split at force
  · split_ifs at force
    cases force
    rw [← run.running_eq built]
    exact ⟨rfl, rfl⟩
  · cases force

/-- A panic at the news of a result that the server refused: nothing is under way any longer, and
yet one execution is counted, also after a shutdown that found everything done. -/
example :
    (sampleAtWork.replay [.reportAnswered 1 (.error (.permanent "no")) .panicked, .shutdown,
        .loopStops "parcel", .drained]).map
      (fun h => (h.drain, h.dispatcher.executions.length, h.dispatcher.running)) =
    some (.over .drained, 0, 1) := by
  decide

end Host

end TaskWorker
