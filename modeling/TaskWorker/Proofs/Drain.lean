import TaskWorker.Proofs.InFlight
import TaskWorker.Proofs.Lifecycle
import TaskWorker.Proofs.SlotAccount
/-!
# What a drained shutdown leaves

A poll may be out when a shutdown begins, and the task that it brings is still worked on. A shutdown
that finds everything done has waited for it: loops end after their polls, and an execution begins
before the loop that got its task goes on. Only an execution that unwinds in a panic may leave its
task behind.

* `Dispatcher.atHandler`, the tasks that are with their handlers; `Complete`: the other tasks were
  executed, or their executions were cut short; **`Run.complete`**: so it is after every run;
* `Run.not_abandoned`, `Run.ended_of_cutShort`: how executions that are over have ended;
* `atRest_of_drained`: a drained shutdown leaves a host at rest;
* **`Host.drained_after_all`**: at a drained shutdown every task was executed and reported to the
  end, unless its execution unwound, and there are no calls after it;
  **`Host.drained_of_calm`**: without exception, where only the work of handlers panics.
-/

namespace TaskWorker

variable {α : Type}

namespace Dispatcher

variable {d d' : Dispatcher α} {e : Host.Event} {x : Execution α}

/-- The tasks of executions, with their numbers, that are with their handlers. -/
def handling (xs : List (Execution α)) : List (Nat × Task) :=
  (xs.filter fun x => x.phase.isHandling).map fun x => (x.number, x.task)

def atHandler (d : Dispatcher α) : List (Nat × Task) := handling d.executions

theorem handling_perm {xs ys : List (Execution α)} (perm : xs.Perm ys) :
    (handling xs).Perm (handling ys) :=
  (perm.filter _).map _

theorem handling_append (xs ys : List (Execution α)) :
    handling (xs ++ ys) = handling xs ++ handling ys := by
  simp only [handling, List.filter_append, List.map_append]

theorem handling_cons (x : Execution α) (xs : List (Execution α)) :
    handling (x :: xs) =
      (if x.phase.isHandling then [(x.number, x.task)] else []) ++ handling xs := by
  by_cases stage : x.phase.isHandling = true
  · simp [handling, stage]
  · simp [handling, stage]

end Dispatcher

namespace Host

variable {h₀ h h' : Host α} {e : Event} {es : List Event} {handlers : List (Handler α)}
  {settings : Settings}

/-! ## Tasks on their way -/

/-- The tasks that were handed over have been executed, are with their handlers, or were cut short
there. -/
def Complete (h₀ : Host α) (es : List Event) (h : Host α) : Prop :=
  (h₀.handed es).Perm (h₀.executed es ++ (h.dispatcher.atHandler ++ h₀.cutShort es))

/-- Events at the end of a run that bring no task and end no handler's work. -/
theorem handed_executed_quiet (run : Run h₀ es h) (brings : e.handedTask? = none)
    (done : e.doneWith? = none) :
    h₀.handed (es ++ [e]) = h₀.handed es ∧ h₀.executed (es ++ [e]) = h₀.executed es := by
  rw [handed_snoc run, executed_snoc run, brings, done]
  exact ⟨List.append_nil _, List.append_nil _⟩

/-- **One more event keeps a run complete.** -/
theorem Complete.step (complete : Complete h₀ es h) (run : Run h₀ es h) (o : h.dispatcher.Orderly)
    (step : h.step? e = some h') : Complete h₀ (es ++ [e]) h' := by
  unfold Complete at complete ⊢
  rw [cutShort_snoc run]
  cases step?_turn step with
  | stays brings done executions _ _ _ cutShort =>
    obtain ⟨handed, executed⟩ := handed_executed_quiet run brings done
    rw [handed, executed, cutShort, Dispatcher.atHandler, executions, Option.toList_none,
      List.append_nil]
    exact complete
  | begins x brings done number handling executions _ _ _ cutShort =>
    -- The new task is with its handler.
    have new : h'.dispatcher.atHandler = h.dispatcher.atHandler ++ [(x.number, x.task)] := by
      rw [Dispatcher.atHandler, executions, Dispatcher.handling_append, Dispatcher.handling_cons,
        if_pos handling]
      rfl
    rw [handed_snoc run, executed_snoc run, brings, done, cutShort, new, ← number]
    simp only [Option.map_some, Option.bind_none, Option.map_none, Option.toList_none,
      Option.toList_some, List.append_nil, List.append_assoc]
    refine (complete.append_right _).trans ?_
    rw [List.append_assoc, List.append_assoc]
    exact (List.perm_append_comm.append_left _).append_left _
  | goesOn x phase mem brings done reporting executions _ _ _ cutShort =>
    have before := Dispatcher.handling_perm (Dispatcher.perm_others o mem)
    have after := Dispatcher.handling_perm (Dispatcher.perm_setPhase o mem phase)
    rw [Dispatcher.handling_cons] at before after
    rw [if_neg (by simp [reporting]), List.nil_append] at after
    rw [handed_snoc run, executed_snoc run, brings, done, cutShort, Dispatcher.atHandler,
      executions, Option.toList_none, List.append_nil]
    refine (List.Perm.of_eq (List.append_nil _)).trans (complete.trans ?_)
    by_cases stage : x.phase.isHandling = true
    · -- The task goes from its handler to those that were executed.
      rw [if_pos stage] at before ⊢
      rw [Option.bind_some, Dispatcher.execution?_of_mem o mem, List.append_assoc]
      refine List.Perm.append_left _ ?_
      rw [← List.append_assoc]
      exact (before.trans (after.symm.append_left _)).append_right _
    · rw [if_neg stage] at before ⊢
      rw [Option.bind_none, Option.map_none, Option.toList_none, List.append_nil]
      exact ((before.trans after.symm).append_right _).append_left _
  | ends x fate mem brings done _ _ _ executions _ _ _ cutShort =>
    -- If its task is with the handler, the execution is cut short.
    have before := Dispatcher.handling_perm (Dispatcher.perm_others o mem)
    rw [Dispatcher.handling_cons] at before
    obtain ⟨handed, executed⟩ := handed_executed_quiet run brings done
    rw [handed, executed, cutShort, Dispatcher.atHandler, executions]
    refine complete.trans (List.Perm.append_left _ ?_)
    refine (before.append_right _).trans ?_
    split_ifs
    · exact (List.perm_append_singleton _ _).symm.trans (.of_eq (List.append_assoc ..))
    · exact .of_eq (congrArg _ (List.append_nil _).symm)

/-- **Every run is complete.** -/
theorem Run.complete (built : build handlers settings = .ok h₀) (run : Run h₀ es h) :
    Complete h₀ es h := by
  refine run.snocInduction (P := fun es h => Complete h₀ es h) ?_ ?_
  · obtain ⟨hs, a, rfl, _⟩ := build_eq_ok built
    exact .nil
  · intro es h h' e run complete step
    exact complete.step run (run.orderly built) step

/-! ## How executions have ended -/

/-- Where nothing is forced, nothing is abandoned. -/
theorem Run.not_abandoned (built : build handlers settings = .ok h₀) (run : Run h₀ es h)
    (unforced : h.dispatcher.forced = false) (n : Nat) (handling : Bool) :
    (n, .abandoned handling) ∉ h.dispatcher.endings := by
  refine run.snocInduction (P := fun _ h => h.dispatcher.forced = false →
    (n, .abandoned handling) ∉ h.dispatcher.endings) ?_ ?_ unforced
  · obtain ⟨hs, a, rfl, _⟩ := build_eq_ok built
    nofun
  · intro es h h' e run before step unforced
    have unforced := step?_unforced step unforced
    cases step?_turn step with
    | stays _ _ _ _ _ endings | begins _ _ _ _ _ _ _ _ endings
    | goesOn _ _ _ _ _ _ _ _ _ endings => exact endings ▸ before unforced
    | ends x fate _ _ _ _ forced _ _ _ _ endings =>
      rw [endings, List.mem_cons, not_or]
      refine ⟨fun same => ?_, before unforced⟩
      rw [forced handling (Prod.ext_iff.mp same).2.symm] at unforced
      cases unforced

/-- An execution that was cut short has ended without a report. -/
theorem Run.ended_of_cutShort (run : Run h₀ es h) {n : Nat} {task : Task}
    (mem : (n, task) ∈ h₀.cutShort es) :
    ∃ fate, (n, fate) ∈ h.dispatcher.endings ∧ ∀ outcome, fate ≠ .delivered outcome := by
  refine run.snocInduction (P := fun es h => (n, task) ∈ h₀.cutShort es →
    ∃ fate, (n, fate) ∈ h.dispatcher.endings ∧ ∀ outcome, fate ≠ .delivered outcome) ?_ ?_ mem
  · nofun
  · intro es h h' e run before step mem
    rw [cutShort_snoc run, List.mem_append] at mem
    cases step?_turn step with
    | stays _ _ _ _ _ endings cutShort | begins _ _ _ _ _ _ _ _ endings cutShort
    | goesOn _ _ _ _ _ _ _ _ _ endings cutShort =>
      rw [cutShort] at mem
      rw [endings]
      exact before (mem.resolve_right nofun)
    | ends x fate _ _ _ reported _ _ _ _ _ endings cutShort =>
      rw [endings]
      rcases mem with old | new
      · obtain ⟨fate, ended, undelivered⟩ := before old
        exact ⟨fate, List.mem_cons_of_mem _ ended, undelivered⟩
      · rw [cutShort] at new
        split_ifs at new with handling
        · cases List.mem_singleton.mp new
          refine ⟨fate, List.mem_cons_self, fun outcome delivered => ?_⟩
          rw [reported outcome delivered] at handling
          cases handling
        · cases new

/-! ## The drained shutdown -/

theorem step?_drained (drained : h.step? .drained = some h') :
    (∃ t, h.drain = .waiting t) ∧ (∀ l ∈ h.loops, l.state = .ended) ∧
      h.dispatcher.executions = [] ∧ h' = h.finishDrain := by
  simp only [step?] at drained
  split at drained
  · rename_i t waiting
    split_ifs at drained with quiet
    cases drained
    simp only [isQuiet, Bool.and_eq_true, List.all_eq_true, decide_eq_true_eq,
      List.isEmpty_iff] at quiet
    exact ⟨⟨t, waiting⟩, quiet.1, quiet.2, rfl⟩
  · cases drained

theorem atRest_of_drained (built : build handlers settings = .ok h₀) (run : Run h₀ es h)
    (drained : h.step? .drained = some h') : h'.AtRest := by
  obtain ⟨-, ended, executions, rfl⟩ := step?_drained drained
  exact ⟨rfl, ended, (run.looped built).ticks_eq_nil ended, executions⟩

/-- While a shutdown waits, nothing is forced. -/
theorem Run.unforced_of_waiting (built : build handlers settings = .ok h₀) (run : Run h₀ es h)
    {t : Nat} (waiting : h.drain = .waiting t) : h.dispatcher.forced = false := by
  have lawful := run.lawful built
  cases forced : h.dispatcher.forced with
  | false => rfl
  | true =>
    have stopped := lawful.forced forced
    rw [lawful.waiting t waiting] at stopped
    cases stopped

/-- Every task that was handed over has an execution which ended, if none is under way. -/
theorem Run.ended_of_handed (built : build handlers settings = .ok h₀) (run : Run h₀ es h)
    (none : h.dispatcher.executions = []) {n : Nat} {task : Task}
    (mem : (n, task) ∈ h₀.handed es) : ∃ fate, (n, fate) ∈ h.dispatcher.endings := by
  have numbered := run.numbered built
  rw [Dispatcher.Numbered, ← run.map_fst_handed built, none, List.map_nil, List.append_nil]
    at numbered
  have number := numbered.mem_iff.mp (List.mem_map_of_mem mem)
  obtain ⟨⟨_, fate⟩, ended, rfl⟩ := List.mem_map.mp number
  exact ⟨fate, ended⟩

theorem AtRest.busySlots_eq_zero (rest : h.AtRest) {a : Allocation}
    (account : h.dispatcher.Accounted a) (t : String) : h.dispatcher.busySlots t = 0 := by
  rw [(account t).1, Dispatcher.holding, Dispatcher.holders, rest.ticks, rest.executions]
  rfl

/-- **A drained shutdown comes after everything.** Every task that was ever handed over was executed
and its report came to an end, unless its execution unwound in a panic; those executions are still
counted as under way, and no others. No slot is busy. Whatever happens later, the journal, in which
every poll and every report stands, remains as it is. -/
theorem drained_after_all (built : build handlers settings = .ok h₀) (run : Run h₀ es h)
    (drained : h.step? .drained = some h') :
    (h₀.handed es).Perm (h₀.executed es ++ h₀.cutShort es) ∧
      (∀ n task, (n, task) ∈ h₀.handed es →
        (n, task) ∈ h₀.executed es ∧
            (∃ outcome, Entry.ended n (.delivered outcome) ∈ h'.dispatcher.journal) ∨
          Entry.ended n .lost ∈ h'.dispatcher.journal) ∧
      h'.dispatcher.running = h'.dispatcher.lostCount ∧
      (∀ t, h'.dispatcher.busySlots t = 0) ∧
      ∀ fs g, Run h' fs g → g.dispatcher.journal = h'.dispatcher.journal := by
  have rest := atRest_of_drained built run drained
  have account := run.accounted built
  obtain ⟨⟨t, waiting⟩, -, none, rfl⟩ := step?_drained drained
  have unforced := run.unforced_of_waiting built waiting
  have tasks : (h₀.handed es).Perm (h₀.executed es ++ h₀.cutShort es) := by
    have complete := run.complete built
    rwa [Complete, Dispatcher.atHandler, none] at complete
  refine ⟨tasks, fun n task mem => ?_, ?_, ?_, ?_⟩
  · obtain ⟨fate, ended⟩ := run.ended_of_handed built none mem
    cases fate with
    | delivered outcome =>
      refine .inl ⟨?_, outcome, Dispatcher.mem_endings.mp ended⟩
      rcases List.mem_append.mp (tasks.mem_iff.mp mem) with executed | cutShort
      · exact executed
      · obtain ⟨fate, ended', undelivered⟩ := run.ended_of_cutShort cutShort
        exact absurd (run.fate_eq built ended' ended) (undelivered outcome)
    | abandoned handling => exact absurd ended (run.not_abandoned built unforced n handling)
    | lost => exact .inr (Dispatcher.mem_endings.mp ended)
  · have running := run.running_eq built
    rwa [none, List.length_nil, Nat.zero_add] at running
  · exact rest.busySlots_eq_zero account
  · intro fs g later
    exact (rest.run later).2

/-- **Where only the work of handlers panics, a drained shutdown leaves nothing.** Every task was
executed, once, its report came to an end, and nothing is counted as under way. -/
theorem drained_of_calm (built : build handlers settings = .ok h₀) (run : Run h₀ es h)
    (calm : ∀ e ∈ es, e.isCalm = true) (drained : h.step? .drained = some h') :
    (h₀.handed es).Perm (h₀.executed es) ∧
      (∀ n task, (n, task) ∈ h₀.handed es →
        ∃ outcome, Entry.ended n (.delivered outcome) ∈ h'.dispatcher.journal) ∧
      h'.dispatcher.running = 0 := by
  obtain ⟨tasks, ends, running, -⟩ := drained_after_all built run drained
  obtain ⟨⟨t, waiting⟩, -, -, rfl⟩ := step?_drained drained
  have none_lost := run.not_lost_of_calm built calm
  have uncut : h₀.cutShort es = [] := by
    refine List.eq_nil_iff_forall_not_mem.mpr fun ⟨n, task⟩ mem => ?_
    obtain ⟨fate, ended, undelivered⟩ := run.ended_of_cutShort mem
    cases fate with
    | delivered outcome => exact undelivered outcome rfl
    | abandoned handling =>
      exact run.not_abandoned built (run.unforced_of_waiting built waiting) n handling ended
    | lost => exact none_lost n ended
  refine ⟨?_, fun n task mem => ?_, ?_⟩
  · rwa [uncut, List.append_nil] at tasks
  · rcases ends n task mem with ⟨-, delivered⟩ | lost
    · exact delivered
    · exact absurd (Dispatcher.mem_endings.mpr lost) (none_lost n)
  · have none : h.finishDrain.dispatcher.lostCount = 0 :=
      Dispatcher.lostCount_eq_zero_iff.mpr none_lost
    rw [running, none]
    rfl

/-- A run of the sample whose poll is out when its shutdown begins. -/
def sampleDrain : List Event :=
  [.init true, .elapse 1000, .loopTicks "parcel" false none, .shutdown,
    .pollAnswered 0 (.ok (some sampleTask)), .loopStops "parcel",
    .handlerDone 1 (.returned (.completed sampleTask .null)) (.returned none) .epoch,
    .reportAnswered 1 (.ok ()) (.returned ())]

def sampleAtRest : Host Unit := (sample.replay sampleDrain).get (by decide)

/-- The task that comes after the beginning of the shutdown is executed, and the host comes to
rest. -/
example : (sample.executed sampleDrain).length = 1 ∧
    sampleAtRest.step? .drained = some sampleAtRest.finishDrain :=
  ⟨by decide, rfl⟩

/-- If the handler of that task panics as it takes the task, the shutdown is drained too, with one
execution left in the count and nothing executed. -/
example :
    (sample.replay (sampleDrain.take 6 ++ [.executionPanics 1, .drained])).map
      (fun h => (h.drain, h.dispatcher.running, h.dispatcher.tally.executed)) =
    some (.over .drained, 1, 0) := by
  decide

end Host

end TaskWorker
