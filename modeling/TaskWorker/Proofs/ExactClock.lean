import TaskWorker.Proofs.Sites
import TaskWorker.Proofs.Stopping
import TaskWorker.Proofs.Views
import TaskWorker.Timers
/-!
# The exact clock

The clock goes on only when it is told to, and on an exact clock it is never held up in vain:
whatever it waits for can happen. The simulated clock is such a clock.

* `Host.step?_now`: what an event does to the clock; `Host.isExact_snoc`: one event more;
* `Host.due_of_mayElapse`, `Host.exists_held`: what the clock waits for;
  **`Host.exists_step_of_held`**: it can happen;
* **`World.exact_runFor`**: the course of things in a simulated world is a run on an exact clock.
-/

namespace TaskWorker

variable {α : Type}

namespace Host

variable {h₀ h h' : Host α} {e : Event} {es fs : List Event}

/-! ## The clock -/

/-- How long an event takes. -/
def Event.elapsed : Event → Nat
  | .elapse millis => millis
  | _ => 0

end Host

namespace Dispatcher

variable {d d' : Dispatcher α} {e : Host.Event}

/-- Only an event that leaves all tasks where they are can have to do with the clock. -/
theorem Move.now (move : d.Move e d') (busy : e.isAside = false) : d'.now = d.now := by
  cases move with
  | aside kind _ =>
    rw [busy] at kind
    cases kind
  | poll _ _ _ taken =>
    obtain ⟨_, _, _, _, rfl⟩ := acquire?_eq_some taken
    rfl
  | handled _ _ concluded | lostConcluding _ _ concluded =>
    obtain ⟨_, rfl⟩ := conclude_eq concluded
    rfl
  | delivered _ _ finished | lostTelling _ _ finished _ =>
    obtain ⟨_, _, rfl, _⟩ := afterReport_over finished
    rfl
  | _ => rfl

end Dispatcher

namespace Host

variable {h₀ h h' : Host α} {e : Event} {es fs : List Event}

/-- **The clock goes on when it is told to,** and never otherwise. -/
theorem step?_now (step : h.step? e = some h') : h'.now = h.now + e.elapsed := by
  cases kind : e.isAside with
  | false =>
    have same : h'.now = h.now := (step?_move step).now kind
    cases e <;> first | (cases kind; done) | exact same
  | true =>
    cases e with
    | elapse _ | gate _ =>
      cases step
      rfl
    | init inRuntime =>
      simp only [step?] at step
      split_ifs at step
      cases step
      exact congrArg Dispatcher.now (dispatcher_init h inRuntime)
    | shutdown =>
      simp only [step?] at step
      split_ifs at step
      cases step
      simp only [beginShutdown]
      split <;> rfl
    | drained | graceOver =>
      simp only [step?] at step
      split at step
      · split_ifs at step
        cases step
        rfl
      · cases step
    | shutdownGivenUp =>
      simp only [step?] at step
      split at step
      · rename_i waiting
        cases step
        rw [giveUpShutdown_eq waiting]
        rfl
      · cases step
    | dropped =>
      simp only [step?] at step
      split at step
      · cases step
      · cases step
        rfl
    | loopStops t | loopPanics t =>
      simp only [step?] at step
      split at step
      · split_ifs at step
        cases step
        rfl
      · cases step
    | _ => cases kind

/-! ## Exact runs -/

theorem isExact_cons_of_step (first : h.step? e = some h') :
    h.isExact (e :: es) = (h.permits e && h'.isExact es) := by
  simp only [isExact, first]

theorem isExact_append (run : Run h₀ es h) :
    h₀.isExact (es ++ fs) = (h₀.isExact es && h.isExact fs) := by
  induction run with
  | nil => rfl
  | cons first _ ih =>
    rw [List.cons_append, isExact_cons_of_step first, isExact_cons_of_step first, ih,
      Bool.and_assoc]

theorem isExact_snoc (run : Run h₀ es h) (step : h.step? e = some h') :
    h₀.isExact (es ++ [e]) = (h₀.isExact es && h.permits e) := by
  rw [isExact_append run, isExact_cons_of_step step, isExact, Bool.and_true]

/-- **Induction on a run on an exact clock,** from its end. -/
theorem Run.exactInduction {P : List Event → Host α → Prop} (nil : P [] h₀)
    (snoc : ∀ {es : List Event} {h h' : Host α} {e : Event},
      Run h₀ es h → P es h → h.step? e = some h' → h.permits e = true → P (es ++ [e]) h')
    (run : Run h₀ es h) (exact : h₀.isExact es = true) : P es h := by
  refine run.snocInduction (P := fun es h => h₀.isExact es = true → P es h) (fun _ => nil) ?_ exact
  intro es h h' e run ih step exact
  rw [isExact_snoc run step, Bool.and_eq_true] at exact
  exact snoc run (ih exact.1) step exact.2

/-! ## What the clock waits for -/

theorem due_of_mayElapse {millis due : Nat} (goesOn : h.mayElapse millis = true)
    (timer : due ∈ h.timers) : h.now + millis ≤ due := by
  simp only [mayElapse, Bool.and_eq_true, List.all_eq_true, decide_eq_true_eq] at goesOn
  exact goesOn.2 due timer

/-- On an exact clock no event goes past a timer. -/
theorem now_le_of_permits {due : Nat} (step : h.step? e = some h') (permitted : h.permits e = true)
    (timer : due ∈ h.timers) (ahead : h.now ≤ due) : h'.now ≤ due := by
  rw [step?_now step]
  cases e with
  | elapse millis => exact due_of_mayElapse permitted timer
  | _ => exact ahead

/-- While somebody goes on at once, the clock stands. -/
theorem now_of_isPressed (pressed : h.isPressed = true) (step : h.step? e = some h')
    (permitted : h.permits e = true) : h'.now = h.now := by
  cases e with
  | elapse _ =>
    simp only [permits, mayElapse, pressed, Bool.not_true, Bool.false_and, Bool.false_eq_true]
      at permitted
  | _ => exact step?_now step

theorem timer_of_loop {l : PollLoop α} {due : Nat} (mem : l ∈ h.loops)
    (sleeping : l.state = .sleeping due) : due ∈ h.timers := by
  refine List.mem_append_left _ (List.mem_append_left _ (List.mem_filterMap.mpr ⟨l, mem, ?_⟩))
  rw [sleeping]
  rfl

theorem timer_of_drain {deadline : Nat} (waiting : h.drain = .waiting deadline) :
    deadline ∈ h.timers := by
  refine List.mem_append_right _ ?_
  rw [waiting]
  exact List.mem_singleton_self _

/-- What holds the clock up. -/
inductive Held (h : Host α) (millis : Nat) : Prop where
  | stop (l : PollLoop α) (due : Nat) (mem : l ∈ h.loops) (sleeping : l.state = .sleeping due)
      (stopping : h.dispatcher.stopping = true)
  | cut (k : Tick α) (mem : k ∈ h.dispatcher.ticks) (forced : h.dispatcher.forced = true)
  | abandon (x : Execution α) (mem : x ∈ h.dispatcher.executions)
      (forced : h.dispatcher.forced = true)
  | drain (deadline : Nat) (waiting : h.drain = .waiting deadline) (quiet : h.isQuiet = true)
  | wake (l : PollLoop α) (due : Nat) (mem : l ∈ h.loops) (sleeping : l.state = .sleeping due)
      (early : due < h.now + millis)
  | resume (x : Execution α) (result : TaskResult) (attempt due : Nat)
      (mem : x ∈ h.dispatcher.executions) (pausing : x.phase = .pausing result attempt due)
      (early : due < h.now + millis)
  | force (deadline : Nat) (waiting : h.drain = .waiting deadline)
      (early : deadline < h.now + millis)

theorem eq_sleeping_of_due? {s : LoopState} {due : Nat} (timer : s.due? = some due) :
    s = .sleeping due := by
  cases s with
  | sleeping _ =>
    cases timer
    rfl
  | polling _ | ended => cases timer

theorem eq_waiting_of_due? {s : Drain} {deadline : Nat} (timer : s.due? = some deadline) :
    s = .waiting deadline := by
  cases s with
  | waiting _ =>
    cases timer
    rfl
  | _ => cases timer

/-- **If the clock may not go on, something holds it up.** -/
theorem exists_held {millis : Nat} (stands : h.mayElapse millis = false) : h.Held millis := by
  simp only [mayElapse, isPressed, Bool.and_eq_false_iff, Bool.not_eq_false', Bool.or_eq_true,
    Bool.and_eq_true, List.any_eq_true, List.all_eq_false, decide_eq_true_eq] at stands
  rcases stands with ((⟨stopping, l, mem, asleep⟩ | ⟨forced, left⟩) | ⟨waits, quiet⟩) |
    ⟨due, timer, early⟩
  · obtain ⟨due, timer⟩ := Option.isSome_iff_exists.mp asleep
    exact .stop l due mem (eq_sleeping_of_due? timer) stopping
  · cases executions : h.dispatcher.executions with
    | cons x _ => exact .abandon x (executions ▸ List.mem_cons_self) forced
    | nil =>
      cases ticks : h.dispatcher.ticks with
      | cons k _ => exact .cut k (ticks ▸ List.mem_cons_self) forced
      | nil =>
        rw [executions, ticks] at left
        cases left
  · obtain ⟨deadline, timer⟩ := Option.isSome_iff_exists.mp waits
    exact .drain deadline (eq_waiting_of_due? timer) quiet
  · simp only [timers, List.mem_append, List.mem_filterMap, Option.mem_toList] at timer
    rcases timer with (⟨l, mem, timer⟩ | ⟨x, mem, timer⟩) | timer
    · exact .wake l due mem (eq_sleeping_of_due? timer) (by omega)
    · cases phase : x.phase with
      | pausing result attempt _ =>
        rw [phase] at timer
        cases timer
        exact .resume x result attempt due mem phase (by omega)
      | handling _ | reporting _ _ _ =>
        rw [phase] at timer
        cases timer
    · exact .force due (eq_waiting_of_due? timer) (by omega)

/-- **What holds the clock up can happen at once.** -/
theorem exists_step_of_held (reached : h.Reachable) (held : h.Held 1) :
    ∃ e, e.elapsed = 0 ∧ (h.step? e).isSome = true := by
  cases held with
  | stop l due mem sleeping stopping =>
    refine ⟨.loopStops l.handler.taskType, rfl, ?_⟩
    simp only [step?, sleeper?_of_mem reached.looped mem sleeping, if_pos stopping]
    rfl
  | cut k mem forced =>
    refine ⟨.pollCut k.id, rfl, ?_⟩
    simp only [step?, Dispatcher.tick?_of_mem reached.orderly mem, if_pos forced]
    rfl
  | abandon x mem forced =>
    refine ⟨.abandoned x.number, rfl, ?_⟩
    simp only [step?, Dispatcher.execution?_of_mem reached.orderly mem, if_pos forced]
    rfl
  | drain deadline waiting quiet =>
    refine ⟨.drained, rfl, ?_⟩
    simp only [step?, waiting, if_pos quiet]
    rfl
  | wake l due mem sleeping early =>
    refine ⟨.loopTicks l.handler.taskType false none, rfl, ?_⟩
    simp only [step?, sleeper?_of_mem reached.looped mem sleeping,
      if_pos (Nat.lt_succ_iff.mp early)]
    rfl
  | resume x result attempt due mem pausing early =>
    refine ⟨.pauseDone x.number, rfl, ?_⟩
    simp only [step?, Dispatcher.execution?_of_mem reached.orderly mem, pausing,
      if_pos (Nat.lt_succ_iff.mp early)]
    rfl
  | force deadline waiting early =>
    cases quiet : h.isQuiet with
    | true =>
      refine ⟨.drained, rfl, ?_⟩
      simp only [step?, waiting, if_pos quiet]
      rfl
    | false =>
      refine ⟨.graceOver, rfl, ?_⟩
      simp only [step?, waiting, quiet, Nat.lt_succ_iff.mp early]
      rfl

end Host

/-! ## Simulated worlds -/

namespace World

variable {w w' : World}

/-- What a world does at a time: an event of its host that takes no time. Work by hand goes on as
it did. -/
structure Acts (w w' : World) (e : Host.Event) : Prop where
  step : w.host.step? e = some w'.host
  permitted : w.host.permits e = true
  errand : w'.errandDue? = w.errandDue?

theorem Acts.of_happen {v : World} {e : Host.Event} (happens : v.happen e = some w')
    (host : v.host = w.host) (errand : v.errand = w.errand)
    (reportDelay : v.reportDelay = w.reportDelay) (permitted : w.host.permits e = true) :
    w.Acts w' e := by
  obtain ⟨h, step, rfl⟩ := Option.map_eq_some_iff.mp happens
  refine ⟨host ▸ step, permitted, ?_⟩
  simp only [errandDue?, errand, reportDelay]

theorem acts_of_proceed {x : Execution Script} (h : w.proceed x = some w') :
    ∃ e, w.Acts w' e := by
  simp only [proceed] at h
  split at h
  all_goals exact ⟨_, .of_happen h rfl rfl rfl rfl⟩

theorem acts_of_abandon? (h : w.abandon? = some w') : ∃ e, w.Acts w' e := by
  simp only [abandon?] at h
  split at h
  · exact ⟨_, .of_happen h rfl rfl rfl rfl⟩
  · exact ⟨_, .of_happen (v := { w with outcomes := _ }) h rfl rfl rfl rfl⟩
  · cases h

/-- **What a world does by itself takes no time,** unless there is work by hand. -/
theorem acts_of_act? (noErrand : w.errandDue? = none) (act : w.act? = some w') :
    ∃ e, w.Acts w' e := by
  simp only [act?, Option.orElse_eq_orElse, Option.orElse_eq_or, Option.or_eq_some_iff] at act
  rcases act with h | ⟨-, h | ⟨-, h | ⟨-, h | ⟨-, h | ⟨-, h | ⟨-, h | ⟨-, h⟩⟩⟩⟩⟩⟩⟩
  · simp only [runOut?] at h
    split_ifs at h
    exact acts_of_abandon? h
  · simp only [stopLoop?] at h
    split_ifs at h
    obtain ⟨l, -, h⟩ := Option.bind_eq_some_iff.mp h
    exact ⟨_, .of_happen h rfl rfl rfl rfl⟩
  · rcases Option.or_eq_some_iff.mp h with h | ⟨-, h⟩
    · exact ⟨_, .of_happen h rfl rfl rfl rfl⟩
    · exact ⟨_, .of_happen h rfl rfl rfl rfl⟩
  · obtain ⟨x, -, h⟩ := Option.bind_eq_some_iff.mp h
    exact acts_of_proceed h
  · obtain ⟨t, -, h⟩ := Option.bind_eq_some_iff.mp h
    exact ⟨_, .of_happen (v := { w with server := _, outcomes := _ }) h rfl rfl rfl rfl⟩
  · obtain ⟨l, -, h⟩ := Option.bind_eq_some_iff.mp h
    exact ⟨_, .of_happen h rfl rfl rfl rfl⟩
  · simp only [runErrand?, noErrand] at h
    cases h
  · simp only [release?] at h
    split_ifs at h
    exact ⟨_, .of_happen h rfl rfl rfl rfl⟩

/-- The clock is not set further than to the next moment at which something is due. -/
theorem nextDue?_le {due : Nat} (limit : Nat) (mem : due ∈ w.dues) (later : w.now < due) :
    min limit (w.nextDue?.getD limit) ≤ due := by
  have ahead : due ∈ w.dues.filter fun t => w.now < t :=
    List.mem_filter.mpr ⟨mem, decide_eq_true later⟩
  cases next : w.nextDue? with
  | none =>
    rw [List.min?_eq_none_iff.mp next] at ahead
    cases ahead
  | some first =>
    have least := (List.min?_eq_some_iff.mp next).2 due ahead
    exact Nat.le_trans (Nat.min_le_right _ _) least

theorem le_now_of_early {due limit : Nat} (mem : due ∈ w.dues)
    (early : due < w.now + (min limit (w.nextDue?.getD limit) - w.now)) : due ≤ w.now := by
  by_contra later
  have := nextDue?_le limit mem (Nat.lt_of_not_le later)
  omega

theorem exists_sleeper {p : Nat → Bool} {l : PollLoop Script} {due : Nat}
    (mem : l ∈ w.host.loops) (sleeping : l.state = .sleeping due) (holds : p due = true) :
    ∃ l' ∈ w.host.loops, ∃ due', w.sleeper? p = some l' ∧ l'.state = .sleeping due' ∧
      p due' = true := by
  cases found : w.sleeper? p with
  | none =>
    have excluded := List.find?_eq_none.mp found l mem
    simp only [sleeping, holds, not_true_eq_false] at excluded
  | some l' =>
    have first := List.find?_some found
    refine ⟨l', List.mem_of_find?_eq_some found, ?_⟩
    cases state : l'.state with
    | sleeping due' => exact ⟨due', rfl, rfl, by simpa only [state] using first⟩
    | polling _ | ended =>
      simp only [state] at first
      cases first

theorem happen_ne_none {e : Host.Event} (possible : (w.host.step? e).isSome = true) :
    w.happen e ≠ none := by
  obtain ⟨h, step⟩ := Option.isSome_iff_exists.mp possible
  rw [happen, step]
  nofun

/-- An execution whose phase is over goes on. -/
theorem proceed_ne_none {x : Execution Script} (reached : w.host.Reachable)
    (mem : x ∈ w.host.dispatcher.executions) (late : w.executionDue x ≤ w.now) :
    w.proceed x ≠ none := by
  have found := Dispatcher.execution?_of_mem reached.orderly mem
  unfold proceed
  cases phase : x.phase with
  | handling _ | reporting _ _ _ =>
    refine happen_ne_none ?_
    simp only [Host.step?, found, phase]
    rfl
  | pausing result attempt due =>
    refine happen_ne_none ?_
    have rested : due ≤ w.host.now := by
      simpa only [executionDue, phaseDue, phase, now] using late
    simp only [Host.step?, found, phase, if_pos rested]
    rfl

theorem runExecution?_ne_none {x : Execution Script} (reached : w.host.Reachable)
    (mem : x ∈ w.host.dispatcher.executions) (late : w.executionDue x ≤ w.now) :
    w.runExecution? ≠ none := by
  unfold runExecution?
  cases found : w.host.dispatcher.executions.find? fun x => w.executionDue x ≤ w.now with
  | none =>
    have excluded := List.find?_eq_none.mp found x mem
    simp only [late, decide_true, not_true_eq_false] at excluded
  | some y =>
    have done := List.find?_some found
    exact proceed_ne_none reached (List.mem_of_find?_eq_some found) (of_decide_eq_true done)

/-- What is left after a forced shutdown is done away with. -/
theorem abandon?_ne_none (reached : w.host.Reachable) (forced : w.host.dispatcher.forced = true)
    (left : w.host.dispatcher.executions ≠ [] ∨ w.host.dispatcher.ticks ≠ []) :
    w.abandon? ≠ none := by
  unfold abandon?
  cases executions : w.host.dispatcher.executions with
  | cons x _ =>
    refine happen_ne_none ?_
    simp only [Host.step?, if_pos forced, Dispatcher.execution?_of_mem reached.orderly
      (executions ▸ List.mem_cons_self)]
    rfl
  | nil =>
    cases ticks : w.host.dispatcher.ticks with
    | cons k _ =>
      refine happen_ne_none ?_
      simp only [Host.step?, if_pos forced, Dispatcher.tick?_of_mem reached.orderly
        (ticks ▸ List.mem_cons_self)]
      rfl
    | nil => exact absurd left (by simp only [executions, ticks]; simp)

theorem due_of_loop {l : PollLoop Script} {due : Nat} (mem : l ∈ w.host.loops)
    (sleeping : l.state = .sleeping due) : due ∈ w.dues := by
  refine List.mem_append_left _ (List.mem_append_left _ (List.mem_append_right _ ?_))
  exact List.mem_filterMap.mpr ⟨l, mem, by rw [sleeping]⟩

theorem due_of_execution {x : Execution Script} (mem : x ∈ w.host.dispatcher.executions) :
    w.executionDue x ∈ w.dues :=
  List.mem_append_left _ (List.mem_append_left _ (List.mem_append_left _
    (List.mem_append_left _ (List.mem_map_of_mem mem))))

theorem due_of_drain {deadline : Nat} (waiting : w.host.drain = .waiting deadline) :
    deadline ∈ w.dues := by
  refine List.mem_append_right _ ?_
  rw [waiting]
  exact List.mem_singleton_self _

/-- **A world that has nothing to do lets the clock go on,** up to the next moment at which
something is due. -/
theorem mayElapse_of_idle (limit : Nat) (reached : w.host.Reachable) (idle : w.act? = none) :
    w.host.mayElapse (min limit (w.nextDue?.getD limit) - w.now) = true := by
  by_contra stands
  simp only [act?, Option.orElse_eq_orElse, Option.orElse_eq_or, Option.or_eq_none_iff] at idle
  obtain ⟨out, stop, drain, execution, -, loop, -, -⟩ := idle
  simp only [endDrain?, Option.or_eq_none_iff] at drain
  have stays (forced : w.host.dispatcher.forced = true) : w.abandon? = none := by
    rwa [runOut?, if_pos forced] at out
  cases Host.exists_held (Bool.eq_false_iff.mpr stands) with
  | stop l due mem sleeping stopping =>
    obtain ⟨l', mem', due', found, sleeping', -⟩ :=
      exists_sleeper (p := fun _ => true) mem sleeping rfl
    simp only [stopLoop?, stopping, found] at stop
    refine happen_ne_none ?_ stop
    simp only [Host.step?, Host.sleeper?_of_mem reached.looped mem' sleeping', if_pos stopping]
    rfl
  | cut k mem forced =>
    exact abandon?_ne_none reached forced (.inr (List.ne_nil_of_mem mem)) (stays forced)
  | abandon x mem forced =>
    exact abandon?_ne_none reached forced (.inl (List.ne_nil_of_mem mem)) (stays forced)
  | drain deadline waiting quiet =>
    refine happen_ne_none ?_ drain.1
    simp only [Host.step?, waiting, if_pos quiet]
    rfl
  | wake l due mem sleeping early =>
    have late := le_now_of_early (due_of_loop mem sleeping) early
    obtain ⟨l', mem', due', found, sleeping', late'⟩ :=
      exists_sleeper (p := fun due => due ≤ w.now) mem sleeping (decide_eq_true late)
    have awake : due' ≤ w.host.now := of_decide_eq_true late'
    simp only [runLoop?, found] at loop
    refine happen_ne_none ?_ loop
    simp only [Host.step?, Host.sleeper?_of_mem reached.looped mem' sleeping', if_pos awake]
    rfl
  | resume x result attempt due mem pausing early =>
    have phase : w.executionDue x = due := by simp only [executionDue, phaseDue, pausing]
    have late := le_now_of_early (due_of_execution mem) (phase ▸ early)
    exact runExecution?_ne_none reached mem late execution
  | force deadline waiting early =>
    have late : deadline ≤ w.host.now := le_now_of_early (due_of_drain waiting) early
    cases quiet : w.host.isQuiet with
    | true =>
      refine happen_ne_none ?_ drain.1
      simp only [Host.step?, waiting, if_pos quiet]
      rfl
    | false =>
      refine happen_ne_none ?_ drain.2
      simp only [Host.step?, waiting, quiet, late]
      rfl

/-- **The course of things in a simulated world is a run on an exact clock,** unless there is work
by hand. -/
theorem exact_runFor (done : World → Bool) (limit n : Nat) (reached : w.host.Reachable)
    (noErrand : w.errandDue? = none) :
    ∃ es, Host.Run w.host es (runFor done limit n w).host ∧ w.host.isExact es = true := by
  induction n generalizing w with
  | zero => exact ⟨[], .nil _, rfl⟩
  | succ n ih =>
    rw [runFor]
    split_ifs
    · exact ⟨[], .nil _, rfl⟩
    · cases act : w.act? with
      | some w' =>
        obtain ⟨e, acts⟩ := acts_of_act? noErrand act
        obtain ⟨es, run, exact⟩ := ih (reached.step acts.step) (acts.errand.trans noErrand)
        refine ⟨e :: es, .cons acts.step run, ?_⟩
        rw [Host.isExact_cons_of_step acts.step, acts.permitted, exact]
        rfl
      | none =>
        have goesOn := mayElapse_of_idle limit reached act
        have step : w.host.step? (.elapse (min limit (w.nextDue?.getD limit) - w.now)) =
            some (w.moveTo (min limit (w.nextDue?.getD limit))).host := rfl
        obtain ⟨es, run, exact⟩ := ih (w := w.moveTo (min limit (w.nextDue?.getD limit)))
          (reached.step step) noErrand
        refine ⟨_ :: es, .cons step run, ?_⟩
        rw [Host.isExact_cons_of_step step, exact]
        exact (Bool.and_true _).trans goesOn

end World

end TaskWorker
