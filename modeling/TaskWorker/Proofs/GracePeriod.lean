import TaskWorker.Proofs.Drain
import TaskWorker.Proofs.ExactClock
/-!
# The grace period

A shutdown waits for all loops and executions, those that come of polls which are still out
included, but not beyond its grace period. On an exact clock it returns at the time when the last of
them ends, or else when the grace period is over, and then it abandons what is left.

* `Host.alive`, what a shutdown waits for; `Host.ended?`, when some of it ends, and
  `Host.returned?`, when the shutdown returns and with what;
* `Host.lastEnd`, the time of the last end; `Host.SettledBy`: everything has ended by itself;
* `Host.Draining`, how far a shutdown has come; `Host.Draining.step`: an event leaves it so;
* `Host.Told.mem_of_pollAnswered`: no task comes of a poll that was sent later;
* **`Host.shutdown_in_time`**.
-/

namespace TaskWorker.Host

variable {α : Type} {h₀ h h₁ h' k k' : Host α} {e : Event} {es fs : List Event}
  {handlers : List (Handler α)} {settings : Settings} {start deadline : Nat}

/-! ## What a shutdown waits for -/

/-- The number of the loops and executions that have not ended. -/
def alive (h : Host α) : Nat :=
  h.loops.countP (fun l => l.state ≠ .ended) + h.dispatcher.executions.length

/-- When a loop or an execution ends, if one ends with an event. -/
def ended? (h : Host α) (e : Event) : Option Nat :=
  (h.step? e).bind fun h' => if h'.alive < h.alive then some h.now else none

/-- When a shutdown returns, and with what, if it returns with an event. -/
def returned? (h : Host α) (e : Event) : Option (Nat × ShutdownOutcome) :=
  match h.drain, (h.step? e).map Host.drain with
  | .waiting _, some (.over outcome) => some (h.now, outcome)
  | _, _ => none

/-- When the last loop or execution ended in a run that starts at some time, or else that time. -/
def lastEnd (start : Nat) (h₁ : Host α) (fs : List Event) : Nat :=
  (h₁.along ended? fs).getLast?.getD start

/-- Everything has ended by itself by a time. -/
def SettledBy (time : Nat) (h₁ : Host α) (fs : List Event) : Prop :=
  ∃ as bs m, fs = as ++ bs ∧ Run h₁ as m ∧ m.now ≤ time ∧ m.isQuiet = true ∧
    m.dispatcher.forced = false

theorem isQuiet_iff_alive : h.isQuiet = true ↔ h.alive = 0 := by
  simp only [isQuiet, alive, Bool.and_eq_true, List.all_eq_true, decide_eq_true_eq,
    List.isEmpty_iff, Nat.add_eq_zero_iff, List.countP_eq_zero, ne_eq, not_not,
    List.length_eq_zero_iff]

theorem AtRest.isQuiet (rest : h.AtRest) : h.isQuiet = true := by
  simp only [Host.isQuiet, rest.executions, Bool.and_eq_true, List.all_eq_true, decide_eq_true_eq]
  exact ⟨rest.loops, rfl⟩

theorem SettledBy.append (settled : SettledBy deadline h₁ fs) (gs : List Event) :
    SettledBy deadline h₁ (fs ++ gs) := by
  obtain ⟨as, bs, m, rfl, run, rest⟩ := settled
  exact ⟨as, bs ++ gs, m, List.append_assoc _ _ _, run, rest⟩

theorem lastEnd_snoc (start : Nat) (run : Run h₁ fs k) (step : k.step? e = some k') :
    lastEnd start h₁ (fs ++ [e]) = if k'.alive < k.alive then k.now else lastEnd start h₁ fs := by
  rw [lastEnd, along_snoc _ run, ended?, step, Option.bind_some]
  split_ifs
  · simp
  · rw [Option.toList_none, List.append_nil, lastEnd]

/-- The end of something takes no time. -/
theorem now_of_alive_lt (step : k.step? e = some k') (less : k'.alive < k.alive) :
    k'.now = k.now := by
  cases e with
  | elapse _ =>
    cases step
    exact absurd less (Nat.lt_irrefl _)
  | _ => exact step?_now step

/-- Nothing ends where nothing is left. -/
theorem lastEnd_of_quiet (start : Nat) (run : Run h₁ fs k) (step : k.step? e = some k')
    (quiet : k.isQuiet = true) : lastEnd start h₁ (fs ++ [e]) = lastEnd start h₁ fs := by
  rw [lastEnd_snoc start run step, isQuiet_iff_alive.mp quiet, if_neg (Nat.not_lt_zero _)]

/-- The end of all that is left is the last one. -/
theorem lastEnd_of_ends (start : Nat) (run : Run h₁ fs k) (step : k.step? e = some k')
    (busy : k.isQuiet = false) (quiet : k'.isQuiet = true) :
    k'.now = k.now ∧ lastEnd start h₁ (fs ++ [e]) = k.now := by
  have less : k'.alive < k.alive := by
    rw [isQuiet_iff_alive.mp quiet]
    refine Nat.pos_of_ne_zero fun none => ?_
    rw [isQuiet_iff_alive.mpr none] at busy
    cases busy
  exact ⟨now_of_alive_lt step less, by rw [lastEnd_snoc start run step, if_pos less]⟩

theorem returned?_of_waits {deadline : Nat} (step : k.step? e = some k')
    (waits : k'.drain = .waiting deadline) : k.returned? e = none := by
  simp only [returned?, step, Option.map_some, waits]
  cases k.drain <;> rfl

theorem returned?_of_over {outcome : ShutdownOutcome} (finished : k.drain = .over outcome) :
    k.returned? e = none := by
  simp only [returned?, finished]

theorem returned?_of_returns {deadline : Nat} {outcome : ShutdownOutcome}
    (waiting : k.drain = .waiting deadline) (step : k.step? e = some k')
    (finished : k'.drain = .over outcome) : k.returned? e = some (k.now, outcome) := by
  simp only [returned?, waiting, step, Option.map_some, finished]

/-! ## How far a shutdown has come -/

/-- A shutdown began at some time, and its grace period is over at another: how far it has come. -/
inductive Draining (start deadline : Nat) (h₁ : Host α) (fs : List Event) (k : Host α) : Prop where
  | waits (waiting : k.drain = .waiting deadline) (pending : h₁.along returned? fs = [])
      (early : k.now ≤ deadline) (quiet : k.isQuiet = true → k.now = lastEnd start h₁ fs)
  | drained (rest : k.AtRest) (done : k.drain = .over .drained)
      (returned : h₁.along returned? fs = [(lastEnd start h₁ fs, .drained)])
      (early : lastEnd start h₁ fs ≤ deadline) (settled : SettledBy deadline h₁ fs)
  | forced (n : Int) (stopped : k.status = .stopped) (forced : k.dispatcher.forced = true)
      (done : k.drain = .over (.forced n))
      (returned : h₁.along returned? fs = [(deadline, .forced n)])
      (late : deadline ≤ k.now) (quiet : k.isQuiet = true → deadline ≤ lastEnd start h₁ fs)

/-- What is stopped and has returned stays so. -/
theorem stays_of_over {outcome : ShutdownOutcome} (stopped : k.status = .stopped)
    (finished : k.drain = .over outcome) (step : k.step? e = some k') :
    k'.status = .stopped ∧ k'.drain = .over outcome := by
  cases (step?_lifeTurn step).2 with
  | stays _ _ _ status drain _ => exact ⟨status.trans stopped, drain.trans finished⟩
  | starts _ other _ _ _ | shuts _ other _ _ _ =>
    rw [stopped] at other
    cases other
  | drains _ waiting _ | forces _ waiting _ _ _ _ =>
    rw [finished] at waiting
    cases waiting

section Waits

variable (waiting : k.drain = .waiting deadline) (pending : h₁.along returned? fs = [])
  (early : k.now ≤ deadline) (run : Run h₁ fs k)

include waiting pending early run

/-- A shutdown about which nothing is decided waits further. -/
theorem Draining.goesOn (quiet : k.isQuiet = true → k.now = lastEnd start h₁ fs)
    (step : k.step? e = some k') (permitted : k.permits e = true) (same : k'.drain = k.drain) :
    Draining start deadline h₁ (fs ++ [e]) k' := by
  have news := along_snoc returned? (e := e) run
  have waits := same.trans waiting
  rw [pending, returned?_of_waits step waits] at news
  refine .waits waits news
    (now_le_of_permits step permitted (timer_of_drain waiting) early) fun quiet' => ?_
  cases busy : k.isQuiet with
  | true =>
    have pressed : k.isPressed = true := by
      simp only [isPressed, waiting, Drain.due?, Option.isSome_some, busy, Bool.and_self,
        Bool.or_true]
    rw [now_of_isPressed pressed step permitted, lastEnd_of_quiet start run step busy, quiet busy]
  | false =>
    obtain ⟨now, time⟩ := lastEnd_of_ends start run step busy quiet'
    rw [now, time]

/-- A shutdown that finds everything done returns. -/
theorem Draining.drains (quiet : k.isQuiet = true → k.now = lastEnd start h₁ fs)
    (reached : k.Reachable) (step : k.step? .drained = some k') :
    Draining start deadline h₁ (fs ++ [.drained]) k' := by
  have news := along_snoc returned? (e := .drained) run
  obtain ⟨_, _, _, _, built, run'⟩ := reached
  obtain ⟨-, ended, executions, finished⟩ := step?_drained step
  have drain : k'.drain = .over .drained := by rw [finished, finishDrain]
  have done : k.isQuiet = true := by
    simp only [isQuiet, executions, Bool.and_eq_true, List.all_eq_true, decide_eq_true_eq]
    exact ⟨ended, rfl⟩
  have last := lastEnd_of_quiet start run step done
  rw [pending, returned?_of_returns waiting step drain, quiet done, ← last] at news
  refine .drained (atRest_of_drained built run' step) drain news ?_
    ⟨fs, [.drained], k, rfl, run, early, done, run'.unforced_of_waiting built waiting⟩
  rw [last, ← quiet done]
  exact early

/-- A shutdown that finds its grace period over gives up what is left. -/
theorem Draining.forces (step : k.step? .graceOver = some k') (stopped : k'.status = .stopped)
    (forced : k'.dispatcher.forced = true) :
    Draining start deadline h₁ (fs ++ [.graceOver]) k' := by
  have news := along_snoc returned? (e := .graceOver) run
  have stands := step?_now step
  have force := step
  simp only [step?, waiting] at force
  split_ifs at force with left
  obtain ⟨late, busy⟩ := left
  have now : k.now = deadline := Nat.le_antisymm early late
  have drain : k'.drain = .over (.forced k.dispatcher.running) := by
    cases force
    rfl
  rw [pending, returned?_of_returns waiting step drain, now] at news
  refine .forced _ stopped forced drain news (by omega) fun quiet' => ?_
  cases force
  rw [show k.force.isQuiet = k.isQuiet from rfl] at quiet'
  rw [quiet'] at busy
  cases busy

end Waits

/-- **An event on an exact clock takes a shutdown further,** unless it is given up. -/
theorem Draining.step (draining : Draining start deadline h₁ fs k) (reached : k.Reachable)
    (run : Run h₁ fs k) (step : k.step? e = some k') (permitted : k.permits e = true)
    (kept : e ≠ .shutdownGivenUp) : Draining start deadline h₁ (fs ++ [e]) k' := by
  have news := along_snoc returned? (e := e) run
  cases draining with
  | waits waiting pending early quiet =>
    have shutting := reached.lawful.waiting _ waiting
    cases (step?_lifeTurn step).2 with
    | starts _ other _ _ _ | shuts _ other _ _ _ =>
      rw [shutting] at other
      cases other
    | stays _ _ _ _ same _ => exact .goesOn waiting pending early run quiet step permitted same
    | drains call _ _ =>
      subst call
      exact .drains waiting pending early run quiet reached step
    | forces finishes _ stopped forced _ undrained =>
      have grace : e = .graceOver := by
        cases e with
        | graceOver => rfl
        | shutdownGivenUp => exact absurd rfl kept
        | drained =>
          obtain ⟨-, -, -, rfl⟩ := step?_drained step
          exact absurd rfl undrained
        | _ => cases finishes
      subst grace
      exact .forces waiting pending early run step stopped forced
  | drained rest done returned early settled =>
    obtain ⟨-, drain⟩ := stays_of_over rest.stopped done step
    have last := lastEnd_of_quiet start run step rest.isQuiet
    rw [returned, returned?_of_over done, Option.toList_none, List.append_nil, ← last] at news
    exact .drained (rest.step step).1 drain news (last ▸ early) (settled.append _)
  | forced n stopped forced done returned late quiet =>
    obtain ⟨stopped', drain⟩ := stays_of_over stopped done step
    rw [returned, returned?_of_over done, Option.toList_none, List.append_nil] at news
    have later := step?_now step
    refine .forced n stopped' (step?_forced step forced) drain news (by omega) fun quiet' => ?_
    cases busy : k.isQuiet with
    | true =>
      rw [lastEnd_of_quiet start run step busy]
      exact quiet busy
    | false =>
      rw [(lastEnd_of_ends start run step busy quiet').2]
      exact late

/-! ## Polls that are out -/

/-- The polls that are out at the word to stop are the only ones to be answered later. -/
theorem Told.mem_of_pollAnswered (told : h.Told) (run : Run h fs k) {id : Nat}
    {answer : Except ServerError (Option Task)} (mem : Event.pollAnswered id answer ∈ fs) :
    ∃ tick ∈ h.dispatcher.ticks, tick.id = id := by
  induction run with
  | nil => cases mem
  | @cons h h' _ e _ first _ ih =>
    rcases List.mem_cons.mp mem with rfl | mem
    · simp only [step?, Option.map_eq_some_iff] at first
      obtain ⟨tick, found, -⟩ := first
      exact ⟨tick, Dispatcher.mem_of_tick? found⟩
    · obtain ⟨tick, out, same⟩ := ih (told.step first) mem
      refine ⟨tick, ?_, same⟩
      cases step?_loopTurn first with
      | stays _ _ ticks | starts _ _ _ _ _ ticks | sleeper _ _ _ _ _ _ _ _ _ ticks =>
        rwa [ticks] at out
      | polls _ _ _ _ _ _ running _ _ _ =>
        rw [told.stopping] at running
        cases running
      | wakes _ _ _ _ _ _ ticks =>
        rw [ticks] at out
        exact List.mem_of_mem_filter out

/-! ## Shutdowns in time -/

theorem drain_of_shutdown (running : h.status = .running) (shut : h.step? .shutdown = some h₁) :
    h₁.drain = .waiting (h.now + h.dispatcher.settings.gracePeriod.ticks) ∧
      h₁.dispatcher.ticks = h.dispatcher.ticks := by
  simp only [step?] at shut
  split_ifs at shut
  cases shut
  rw [beginShutdown, running]
  exact ⟨rfl, rfl⟩

/-- **How far a shutdown has come** in any run on an exact clock in which it is not given up. -/
theorem draining_of_shutdown (reached : h.Reachable) (running : h.status = .running)
    (shut : h.step? .shutdown = some h₁) (later : Run h₁ fs k) (exact : h₁.isExact fs = true)
    (kept : .shutdownGivenUp ∉ fs) :
    Draining h.now (h.now + h.dispatcher.settings.gracePeriod.ticks) h₁ fs k := by
  have now : h₁.now = h.now := step?_now shut
  refine (later.exactInduction (P := fun fs k => .shutdownGivenUp ∉ fs → k.Reachable ∧
    Draining h.now (h.now + h.dispatcher.settings.gracePeriod.ticks) h₁ fs k) ?_ ?_ exact kept).2
  · intro _
    refine ⟨reached.step shut, .waits (drain_of_shutdown running shut).1 rfl ?_ fun _ => now⟩
    rw [now]
    exact Nat.le_add_right _ _
  · intro fs k k' e run ih step permitted kept
    rw [List.mem_append, List.mem_singleton, not_or] at kept
    obtain ⟨reached, draining⟩ := ih kept.1
    exact ⟨reached.step step, draining.step reached run step permitted (Ne.symm kept.2)⟩

/-- **A shutdown returns in time.** It begins at some time, and its grace period is so many whole
milliseconds long. On an exact clock, and if it is not given up, it returns once, when the grace
period is over at the latest. If everything under way has ended before, it returns at the time of
the last end, and everything is done then. If not everything has ended by itself when the grace
period is over, it returns right then, and what is left is abandoned. No poll that was sent later
brings a task. -/
theorem shutdown_in_time (built : build handlers settings = .ok h₀) (run : Run h₀ es h)
    (running : h.status = .running) (shut : h.step? .shutdown = some h₁) {grace : Nat}
    (whole : h.dispatcher.settings.gracePeriod.nanos = grace * 1_000_000) (later : Run h₁ fs k)
    (exact : h₁.isExact fs = true) (kept : .shutdownGivenUp ∉ fs) :
    let deadline := h.now + grace
    let last := lastEnd h.now h₁ fs
    let returned := h₁.along returned? fs
    ((∃ time outcome, returned = [(time, outcome)] ∧ time ≤ deadline) ∨
      returned = [] ∧ k.now ≤ deadline ∧
        (k.now = deadline →
          (k.step? .drained).isSome = true ∨ (k.step? .graceOver).isSome = true)) ∧
      (k.isQuiet = true → last < deadline →
        returned = [(last, .drained)] ∧ k.status = .stopped ∨
          returned = [] ∧ k.now = last ∧ (k.step? .drained).isSome = true) ∧
      (returned ≠ [] → ¬ SettledBy deadline h₁ fs →
        ∃ n, returned = [(deadline, .forced n)] ∧ k.dispatcher.forced = true ∧
          k.status = .stopped) ∧
      ∀ id answer, .pollAnswered id answer ∈ fs → ∃ tick ∈ h.dispatcher.ticks, tick.id = id := by
  intro deadline last returned
  have reached : h.Reachable := ⟨_, _, _, _, built, run⟩
  have ticks : h.dispatcher.settings.gracePeriod.ticks = grace := by
    have := h.dispatcher.settings.gracePeriod.ticks_bounds
    omega
  have draining := draining_of_shutdown reached running shut later exact kept
  rw [ticks] at draining
  have answered : ∀ id answer, .pollAnswered id answer ∈ fs →
      ∃ tick ∈ h.dispatcher.ticks, tick.id = id := by
    intro id answer mem
    rw [← (drain_of_shutdown running shut).2]
    exact (told_of_stop (.inl ⟨running, shut⟩)).mem_of_pollAnswered later mem
  cases draining with
  | waits waiting pending early quiet =>
    have drains : k.isQuiet = true → (k.step? .drained).isSome = true := by
      intro done
      simp only [step?, waiting, if_pos done]
      rfl
    refine ⟨.inr ⟨pending, early, fun now => ?_⟩,
      fun done _ => .inr ⟨pending, quiet done, drains done⟩, fun some => absurd pending some,
      answered⟩
    cases busy : k.isQuiet with
    | true => exact .inl (drains busy)
    | false =>
      have late : h.now + grace ≤ k.now := now.ge
      refine .inr ?_
      simp only [step?, waiting, busy, late]
      rfl
  | drained rest done returned early settled =>
    exact ⟨.inl ⟨_, _, returned, early⟩, fun _ _ => .inl ⟨returned, rest.stopped⟩,
      fun _ unsettled => absurd settled unsettled, answered⟩
  | forced n stopped forced done returned late quiet =>
    refine ⟨.inl ⟨_, _, returned, Nat.le_refl _⟩, fun done soon => ?_,
      fun _ _ => ⟨n, returned, forced, stopped⟩, answered⟩
    exact absurd (quiet done) (Nat.not_le_of_lt soon)

/-- A shutdown of the sample while its poll is out, which brings a task. -/
def sampleWait : List Event :=
  [.elapse 200, .pollAnswered 0 (.ok (some sampleTask)), .loopStops "parcel", .elapse 300,
    .handlerDone 1 (.returned (.completed sampleTask .null)) (.returned none) .epoch,
    .reportAnswered 1 (.ok ()) (.returned ()), .drained]

def sampleWaited : Host Unit := (samplePolling.beginShutdown.replay sampleWait).get (by decide)

/-- The shutdown begins after a second and returns when the task's report was taken. -/
theorem sample_shutdown_in_time :
    samplePolling.now = 1000 ∧
      samplePolling.beginShutdown.along returned? sampleWait = [(1500, .drained)] := by
  have run : Run sample _ samplePolling := run_get _
  have shut : samplePolling.step? .shutdown = some samplePolling.beginShutdown := rfl
  have whole : samplePolling.dispatcher.settings.gracePeriod.nanos = 10_000 * 1_000_000 := rfl
  have later : Run samplePolling.beginShutdown sampleWait sampleWaited := run_get _
  have last : lastEnd samplePolling.now samplePolling.beginShutdown sampleWait = 1500 := by decide
  have inTime := (shutdown_in_time build_sample run rfl shut whole later (by decide)
    (by simp [sampleWait])).2.1 (by decide) (by decide)
  rw [last] at inTime
  exact ⟨by decide, inTime.elim And.left fun waits => absurd waits.1 (by decide)⟩

end TaskWorker.Host
