import Mathlib.Tactic.SplitIfs
import TaskWorker.Proofs.Runs
/-!
# What an event does to a dispatcher

An event of a host does one of a few things to its dispatcher. They are listed here once, each with
the conditions under which it happens and the dispatcher that it leaves; what a dispatcher keeps is
then shown move by move.

* `Host.Event.isAside`, `Dispatcher.Aside`: events that leave all tasks where they are;
* `Dispatcher.Move`, all that an event can do; **`Host.step?_move`**: an event does one of these
  things; `Move.settings_eq`: none of them changes the settings.
-/

namespace TaskWorker

variable {α : Type}

namespace Dispatcher

variable {d d' d₁ : Dispatcher α} {tick : Tick α} {x : Execution α}

/-! ## Look-ups -/

theorem mem_of_tick? {id : Nat} (found : d.tick? id = some tick) :
    tick ∈ d.ticks ∧ tick.id = id :=
  ⟨List.mem_of_find?_eq_some found, by simpa using List.find?_some found⟩

theorem mem_of_execution? {n : Nat} (found : d.execution? n = some x) :
    x ∈ d.executions ∧ x.number = n :=
  ⟨List.mem_of_find?_eq_some found, by simpa using List.find?_some found⟩

/-! ## Operations in full -/

theorem acquire?_eq_some {taskType : String} (taken : d.acquire? taskType = some d₁) :
    ∃ s s', d.slots.get? taskType = some s ∧ s.acquire? = some s' ∧
      d₁ = { d with slots := d.slots.insert taskType s' } := by
  simp only [acquire?] at taken
  split at taken
  · cases taken
  · rename_i s known
    split at taken
    · cases taken
    · rename_i s' free
      exact ⟨s, s', known, free, by simpa using taken.symm⟩

theorem conclude_eq {task : Task} {outcome : Outcome} {identity : Option String} {now : Moment}
    {result : TaskResult} (concluded : d.conclude task outcome identity now = (result, d₁)) :
    ∃ tally, d₁ = { d with tally := tally } := by
  cases concluded
  exact ⟨_, rfl⟩

/-- A report that is not the last one leaves the dispatcher as it is, and a pause begins. -/
theorem afterReport_goOn {result : TaskResult} {attempt : Nat} {answer : Except ServerError Unit}
    {phase : Phase} (again : d.afterReport result attempt answer = (.goOn phase, d₁)) :
    d₁ = d ∧ ∃ n due, phase = .pausing result n due := by
  simp only [afterReport] at again
  split at again
  · cases again
  · cases again
    exact ⟨rfl, _, _, rfl⟩
  · split_ifs at again <;> cases again

/-- The last report is counted, and its handler may be told that it failed. -/
theorem afterReport_over {result : TaskResult} {attempt : Nat} {answer : Except ServerError Unit}
    {outcome : ReportOutcome}
    (finished : d.afterReport result attempt answer = (.over outcome, d₁)) :
    ∃ tally news, d₁ = { d with tally := tally, journal := news ++ d.journal } ∧
      ∀ entry ∈ news, entry = .undelivered d.now result := by
  simp only [afterReport] at finished
  split at finished
  · cases finished
    exact ⟨_, [], rfl, by simp⟩
  · cases finished
  · split_ifs at finished
    · cases finished
      exact ⟨_, [.undelivered d.now result], rfl, by simp⟩
    · cases finished
      exact ⟨_, [.undelivered d.now result], rfl, by simp⟩

/-- The news of a report is not seen by what looks for other entries. -/
theorem filter_news {p : Entry → Bool} {news journal : List Entry} {now : Nat}
    {result : TaskResult} (other : p (.undelivered now result) = false)
    (undelivered : ∀ entry ∈ news, entry = .undelivered now result) :
    (news ++ journal).filter p = journal.filter p := by
  have nothing : news.filter p = [] := by
    refine List.filter_eq_nil_iff.mpr fun entry mem => ?_
    rw [undelivered entry mem, other]
    nofun
  rw [List.filter_append, nothing, List.nil_append]

theorem filterMap_news {β : Type} {f : Entry → Option β} {news journal : List Entry} {now : Nat}
    {result : TaskResult} (other : f (.undelivered now result) = none)
    (undelivered : ∀ entry ∈ news, entry = .undelivered now result) :
    (news ++ journal).filterMap f = journal.filterMap f := by
  have nothing : news.filterMap f = [] := by
    refine List.filterMap_eq_nil_iff.mpr fun entry mem => ?_
    rw [undelivered entry mem, other]
  rw [List.filterMap_append, nothing, List.nil_append]

end Dispatcher

/-! ## Moves -/

/-- Whether an event leaves all tasks where they are. -/
def Host.Event.isAside : Host.Event → Bool
  | .elapse _ | .gate _ | .init _ | .shutdown | .drained | .graceOver | .shutdownGivenUp
  | .dropped | .loopStops _ | .loopPanics _ => true
  | _ => false

namespace Dispatcher

variable {d d' d₁ : Dispatcher α} {tick : Tick α} {x : Execution α}

/-- A change that leaves all tasks where they are: the clock goes on, the gate changes, and what a
shutdown says is never taken back. -/
structure Aside (d d' : Dispatcher α) : Prop where
  settings : d'.settings = d.settings
  slots : d'.slots = d.slots ∨ d'.slots = d.slots.map fun _ s => s.close
  tally : d'.tally = d.tally
  ticks : d'.ticks = d.ticks
  executions : d'.executions = d.executions
  sentPolls : d'.sentPolls = d.sentPolls
  dispatched : d'.dispatched = d.dispatched
  running : d'.running = d.running
  journal : d'.journal = d.journal
  stopping : d.stopping = true → d'.stopping = true
  forced : d.forced = true → d'.forced = true

theorem Aside.refl (d : Dispatcher α) : d.Aside d :=
  ⟨rfl, .inl rfl, rfl, rfl, rfl, rfl, rfl, rfl, rfl, id, id⟩

/-- **What an event can do to a dispatcher.** -/
inductive Move (d : Dispatcher α) : Host.Event → Dispatcher α → Prop where
  | aside {e : Host.Event} {d' : Dispatcher α} (kind : e.isAside = true) (same : d.Aside d') :
      Move d e d'
  /-- A tick does not come as far as the slots. -/
  | idle {t : String} {paused : Bool} {identity : Option String}
      (objection : d.stopping = true ∨ d.isAvailable = false ∨ paused = true) :
      Move d (.loopTicks t paused identity) d
  | noSlot {t : String} {identity : Option String} (running : d.stopping = false)
      (available : d.isAvailable = true) (none : d.acquire? t = none) :
      Move d (.loopTicks t false identity) (d.count .noSlot)
  | poll {t : String} {identity : Option String} {g : Handler α} {d₁ : Dispatcher α}
      (type : g.taskType = t) (running : d.stopping = false) (available : d.isAvailable = true)
      (taken : d.acquire? t = some d₁) :
      Move d (.loopTicks t false identity) (d₁.sendPoll g identity)
  | handOver {id : Nat} {task : Task} {tick : Tick α} (found : d.tick? id = some tick) :
      Move d (.pollAnswered id (.ok (some task))) ((d.dropTick tick).dispatch tick task)
  | noTask {id : Nat} {tick : Tick α} (found : d.tick? id = some tick) :
      Move d (.pollAnswered id (.ok none))
        (((d.dropTick tick).release tick.handler.taskType).count .emptyPoll)
  | pollFailed {id : Nat} {error : ServerError} {tick : Tick α} (found : d.tick? id = some tick) :
      Move d (.pollAnswered id (.error error))
        (((d.dropTick tick).release tick.handler.taskType).count .pollError)
  | cut {id : Nat} {tick : Tick α} (found : d.tick? id = some tick) (forced : d.forced = true) :
      Move d (.pollCut id) (((d.dropTick tick).release tick.handler.taskType).note (.cut tick.id))
  | pollLost {id : Nat} {tick : Tick α} (found : d.tick? id = some tick) :
      Move d (.pollPanics id) ((d.dropTick tick).release tick.handler.taskType)
  | handled {n since : Nat} {outcome : Outcome} {identity : Option String} {now : Moment}
      {result : TaskResult} {x : Execution α} {d₁ : Dispatcher α}
      (found : d.execution? n = some x) (stage : x.phase = .handling since)
      (concluded : d.conclude x.task outcome identity now = (result, d₁)) :
      Move d (.handlerDone n outcome (.returned identity) now)
        ((d₁.note (.sent d₁.now 1 result)).setPhase n (.reporting result 1 d₁.now))
  /-- The handler did its work and then panicked in saying who it is. -/
  | lostConcluding {n since : Nat} {outcome : Outcome} {now : Moment} {result : TaskResult}
      {x : Execution α} {d₁ : Dispatcher α} (found : d.execution? n = some x)
      (stage : x.phase = .handling since)
      (concluded : d.conclude x.task outcome none now = (result, d₁)) :
      Move d (.handlerDone n outcome .panicked now) (d₁.loseExecution x)
  | pauses {n attempt since : Nat} {answer : Except ServerError Unit} {told : Callback Unit}
      {result : TaskResult} {x : Execution α} {phase : Phase} (found : d.execution? n = some x)
      (stage : x.phase = .reporting result attempt since)
      (again : d.afterReport result attempt answer = (.goOn phase, d)) :
      Move d (.reportAnswered n answer told) (d.setPhase n phase)
  | delivered {n attempt since : Nat} {answer : Except ServerError Unit} {told : Callback Unit}
      {result : TaskResult} {x : Execution α} {outcome : ReportOutcome} {d₁ : Dispatcher α}
      (found : d.execution? n = some x) (stage : x.phase = .reporting result attempt since)
      (finished : d.afterReport result attempt answer = (.over outcome, d₁)) :
      Move d (.reportAnswered n answer told) (d₁.endExecution x (.delivered outcome))
  /-- The handler panicked at the news that its result could not be delivered. -/
  | lostTelling {n attempt since : Nat} {answer : Except ServerError Unit} {result : TaskResult}
      {x : Execution α} {outcome : ReportOutcome} {d₁ : Dispatcher α}
      (found : d.execution? n = some x) (stage : x.phase = .reporting result attempt since)
      (finished : d.afterReport result attempt answer = (.over outcome, d₁))
      (undelivered : outcome.isUndelivered = true) :
      Move d (.reportAnswered n answer .panicked) (d₁.loseExecution x)
  | resumes {n attempt due : Nat} {result : TaskResult} {x : Execution α}
      (found : d.execution? n = some x) (stage : x.phase = .pausing result attempt due) :
      Move d (.pauseDone n)
        ((d.note (.sent d.now attempt result)).setPhase n (.reporting result attempt d.now))
  | abandoned {n : Nat} {x : Execution α} (found : d.execution? n = some x)
      (forced : d.forced = true) :
      Move d (.abandoned n) (d.endExecution x (.abandoned x.phase.isHandling))
  | lost {n : Nat} {x : Execution α} (found : d.execution? n = some x) :
      Move d (.executionPanics n) (d.loseExecution x)

/-- The settings stay as they are. -/
theorem Move.settings_eq {e : Host.Event} (move : d.Move e d') : d'.settings = d.settings := by
  cases move with
  | aside _ same => exact same.settings
  | poll _ _ _ taken =>
    obtain ⟨_, _, _, _, rfl⟩ := acquire?_eq_some taken
    rfl
  | handled _ _ concluded | lostConcluding _ _ concluded =>
    obtain ⟨_, rfl⟩ := conclude_eq concluded
    rfl
  | delivered _ _ finished | lostTelling _ _ finished _ =>
    obtain ⟨_, _, rfl, _⟩ := afterReport_over finished
    rfl
  | _ => rfl

theorem move_beginTick (d : Dispatcher α) (g : Handler α) (paused : Bool)
    (identity : Option String) :
    d.Move (.loopTicks g.taskType paused identity) (d.beginTick g paused identity).2 := by
  simp only [beginTick]
  split_ifs with hs ha hp
  · exact .idle (.inl hs)
  · exact .idle (.inr (.inl (by simpa using ha)))
  · exact .idle (.inr (.inr hp))
  · obtain rfl : paused = false := by simpa using hp
    split
    · rename_i none
      exact .noSlot (by simpa using hs) (by simpa using ha) none
    · rename_i d₁ taken
      exact .poll rfl (by simpa using hs) (by simpa using ha) taken

theorem move_answerPoll {id : Nat} (found : d.tick? id = some tick)
    (answer : Except ServerError (Option Task)) :
    d.Move (.pollAnswered id answer) (d.answerPoll tick answer).2 := by
  rcases answer with error | task | task
  · exact .pollFailed found
  · exact .noTask found
  · exact .handOver found

theorem move_handlerDone {n since : Nat} (found : d.execution? n = some x)
    (stage : x.phase = .handling since) (outcome : Outcome) (identity : Callback (Option String))
    (now : Moment) :
    d.Move (.handlerDone n outcome identity now) (d.handlerDone x outcome identity now) := by
  obtain rfl := (mem_of_execution? found).2
  cases identity with
  | returned identity => exact .handled found stage rfl
  | panicked => exact .lostConcluding found stage rfl

theorem move_reportAnswered {n attempt since : Nat} {result : TaskResult}
    (found : d.execution? n = some x) (stage : x.phase = .reporting result attempt since)
    (answer : Except ServerError Unit) (told : Callback Unit) :
    d.Move (.reportAnswered n answer told) (d.reportAnswered x result attempt answer told) := by
  obtain rfl := (mem_of_execution? found).2
  simp only [reportAnswered]
  split
  · rename_i phase d₁ again
    obtain rfl := (afterReport_goOn again).1
    exact .pauses found stage again
  · rename_i outcome d₁ finished
    split
    · rename_i undelivered
      exact .lostTelling found stage finished undelivered
    · exact .delivered found stage finished

end Dispatcher

namespace Host

open Dispatcher (Move Aside)

variable {h h' : Host α} {e : Event}

theorem loop?_eq_some {t : String} {l : PollLoop α} (found : h.loop? t = some l) :
    l ∈ h.loops ∧ l.handler.taskType = t :=
  ⟨List.mem_of_find?_eq_some found, by simpa using List.find?_some found⟩

theorem loop?_of_sleeper? {t : String} {l : PollLoop α} {due : Nat}
    (asleep : h.sleeper? t = some (l, due)) : h.loop? t = some l := by
  simp only [sleeper?] at asleep
  split at asleep
  · rename_i loop
    split at asleep
    · cases asleep
      exact loop
    · cases asleep
  · cases asleep

theorem sleeper?_eq_some {t : String} {l : PollLoop α} {due : Nat}
    (found : h.sleeper? t = some (l, due)) :
    l ∈ h.loops ∧ l.handler.taskType = t ∧ l.state = .sleeping due := by
  simp only [sleeper?] at found
  split at found
  · rename_i k hk
    split at found
    · rename_i state
      cases found
      exact ⟨(loop?_eq_some hk).1, (loop?_eq_some hk).2, state⟩
    · cases found
  · cases found

theorem dispatcher_loopTick (h : Host α) (l : PollLoop α) (paused : Bool)
    (identity : Option String) :
    (h.loopTick l paused identity).dispatcher =
      (h.dispatcher.beginTick l.handler paused identity).2 := by
  simp only [loopTick]
  split <;> rename_i begun <;> simp only [setLoop, begun]

theorem dispatcher_init (h : Host α) (inRuntime : Bool) :
    (h.init inRuntime).2.dispatcher = h.dispatcher := by
  simp only [init]
  split_ifs
  · rfl
  · split <;> rfl

theorem aside_beginShutdown (h : Host α) : h.dispatcher.Aside h.beginShutdown.dispatcher := by
  simp only [beginShutdown]
  split
  · exact ⟨rfl, .inr rfl, rfl, rfl, rfl, rfl, rfl, rfl, rfl, fun _ => rfl, id⟩
  · exact .refl _

theorem aside_giveUpShutdown (h : Host α) : h.dispatcher.Aside h.giveUpShutdown.dispatcher := by
  simp only [giveUpShutdown]
  split
  · exact ⟨rfl, .inl rfl, rfl, rfl, rfl, rfl, rfl, rfl, rfl, id, fun _ => rfl⟩
  · exact .refl _

/-- **An event makes one of the moves.** -/
theorem step?_move (step : h.step? e = some h') : h.dispatcher.Move e h'.dispatcher := by
  cases e with
  | elapse ms =>
    cases step
    exact .aside rfl ⟨rfl, .inl rfl, rfl, rfl, rfl, rfl, rfl, rfl, rfl, id, id⟩
  | gate b =>
    cases step
    exact .aside rfl ⟨rfl, .inl rfl, rfl, rfl, rfl, rfl, rfl, rfl, rfl, id, id⟩
  | init inRuntime =>
    simp only [step?] at step
    split_ifs at step
    cases step
    exact .aside rfl (by rw [dispatcher_init]; exact .refl _)
  | shutdown =>
    simp only [step?] at step
    split_ifs at step
    cases step
    exact .aside rfl (aside_beginShutdown h)
  | drained =>
    simp only [step?] at step
    split at step
    · split_ifs at step
      cases step
      exact .aside rfl (.refl _)
    · cases step
  | graceOver =>
    simp only [step?] at step
    split at step
    · split_ifs at step
      cases step
      exact .aside rfl ⟨rfl, .inl rfl, rfl, rfl, rfl, rfl, rfl, rfl, rfl, id, fun _ => rfl⟩
    · cases step
  | shutdownGivenUp =>
    simp only [step?] at step
    split at step
    · cases step
      exact .aside rfl (aside_giveUpShutdown h)
    · cases step
  | dropped =>
    simp only [step?] at step
    split at step
    · cases step
    · cases step
      exact .aside rfl ⟨rfl, .inl rfl, rfl, rfl, rfl, rfl, rfl, rfl, rfl, fun _ => rfl, id⟩
  | loopStops t =>
    simp only [step?] at step
    split at step
    · split_ifs at step
      cases step
      exact .aside rfl (.refl _)
    · cases step
  | loopTicks t paused identity =>
    simp only [step?] at step
    split at step
    · rename_i l due asleep
      split_ifs at step
      cases step
      obtain rfl := (sleeper?_eq_some asleep).2.1
      rw [dispatcher_loopTick]
      exact h.dispatcher.move_beginTick l.handler paused identity
    · cases step
  | loopPanics t =>
    simp only [step?] at step
    split at step
    · split_ifs at step
      cases step
      exact .aside rfl (.refl _)
    · cases step
  | pollAnswered id answer =>
    simp only [step?, Option.map_eq_some_iff] at step
    obtain ⟨tick, found, rfl⟩ := step
    exact Dispatcher.move_answerPoll found answer
  | pollCut id =>
    simp only [step?] at step
    split at step
    · rename_i tick found
      split_ifs at step with forced
      cases step
      exact .cut found forced
    · cases step
  | pollPanics id =>
    simp only [step?, Option.map_eq_some_iff] at step
    obtain ⟨tick, found, rfl⟩ := step
    exact .pollLost found
  | handlerDone n outcome identity now =>
    simp only [step?] at step
    split at step
    · rename_i x found
      split at step
      · rename_i since stage
        cases step
        exact Dispatcher.move_handlerDone found stage outcome identity now
      · cases step
    · cases step
  | reportAnswered n answer told =>
    simp only [step?] at step
    split at step
    · rename_i x found
      split at step
      · rename_i result attempt since stage
        cases step
        exact Dispatcher.move_reportAnswered found stage answer told
      · cases step
    · cases step
  | pauseDone n =>
    simp only [step?] at step
    split at step
    · rename_i x found
      split at step
      · rename_i result attempt due stage
        split_ifs at step
        cases step
        obtain rfl := (Dispatcher.mem_of_execution? found).2
        exact .resumes found stage
      · cases step
    · cases step
  | abandoned n =>
    simp only [step?] at step
    split at step
    · rename_i x found
      split_ifs at step with forced
      cases step
      exact .abandoned found forced
    · cases step
  | executionPanics n =>
    simp only [step?, Option.map_eq_some_iff] at step
    obtain ⟨x, found, rfl⟩ := step
    exact .lost found

end Host

end TaskWorker
