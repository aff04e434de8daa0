import TaskWorker.Proofs.Loops
/-!
# The life of a host

A host is started once and shut down once. Work is abandoned by force only after its shutdown is
over, and a shutdown that is over does not begin again.

* `startReply?`, `shutdownReply?`, what callers hear; `Host.Event.endsDrain`, the ends of a wait;
* `LifeTurn`, what an event does to the life of a host; `step?_lifeTurn`: every event does so;
* `Lawful`, how status, shutdown, loops and force go together; **`Run.lawful`**, **`Run.looped`**:
  they do so after every run;
* `step?_forced`: force is for good;
* `AtRest`, a host with nothing left to do; **`AtRest.run`**: nothing happens in it any more.
-/

namespace TaskWorker

variable {α : Type}

namespace Dispatcher

variable {d d' : Dispatcher α}

/-- Only an event that leaves tasks where they are changes what is to be abandoned. -/
theorem Move.forced_eq {e : Host.Event} (move : d.Move e d') (work : e.isAside = false) :
    d'.forced = d.forced := by
  cases move with
  | aside kind _ =>
    rw [kind] at work
    cases work
  | poll _ _ _ taken =>
    obtain ⟨_, _, _, _, rfl⟩ := acquire?_eq_some taken
    rfl
  | handled _ _ concluded | lostConcluding _ _ concluded =>
    obtain ⟨_, rfl⟩ := conclude_eq concluded
    rfl
  | delivered _ _ finished | lostTelling _ _ finished _ =>
    obtain ⟨_, _, rfl, _⟩ := afterReport_over finished
    rfl
  | _ => rfl

theorem Move.forced {e : Host.Event} (move : d.Move e d') (forced : d.forced = true) :
    d'.forced = true := by
  cases kind : e.isAside with
  | false => rw [move.forced_eq kind, forced]
  | true =>
    cases move with
    | aside _ same => exact same.forced forced
    | _ => cases kind

/-- With no poll out and nothing under way, only a loop that ticks can make something happen. -/
theorem Move.idle_or_ticks {e : Host.Event} (move : d.Move e d') (ticks : d.ticks = [])
    (executions : d.executions = []) :
    (∃ t paused identity, e = .loopTicks t paused identity) ∨
      d'.executions = [] ∧ d'.journal = d.journal := by
  have no_tick : ∀ {id : Nat} {k : Tick α}, d.tick? id ≠ some k := by
    intro id k found
    have mem := (mem_of_tick? found).1
    rw [ticks] at mem
    cases mem
  have no_execution : ∀ {n : Nat} {x : Execution α}, d.execution? n ≠ some x := by
    intro n x found
    have mem := (mem_of_execution? found).1
    rw [executions] at mem
    cases mem
  cases move with
  | aside _ same => exact .inr ⟨same.executions.trans executions, same.journal⟩
  | idle _ | noSlot _ _ _ | poll _ _ _ _ => exact .inl ⟨_, _, _, rfl⟩
  | handOver found | noTask found | pollFailed found | cut found _ | pollLost found =>
    exact absurd found no_tick
  | handled found _ _ | lostConcluding found _ _ | pauses found _ _ | delivered found _ _
  | lostTelling found _ _ _ | resumes found _ | abandoned found _ | lost found =>
    exact absurd found no_execution

end Dispatcher

namespace Host

variable {h₀ h h' : Host α} {e : Event} {es : List Event} {handlers : List (Handler α)}
  {settings : Settings}

/-! ## What events do to the life of a host -/

/-- What the caller hears who starts a host. -/
def startReply? (h : Host α) : Event → Option (Except HostError Unit)
  | .init inRuntime => some (h.init inRuntime).1
  | _ => none

/-- What the caller hears at once who shuts a host down, if an event is such a call. -/
def shutdownReply? (h : Host α) : Event → Option (Option ShutdownOutcome)
  | .shutdown => some h.refusal?
  | _ => none

/-- Whether the wait of a shutdown comes to its end. -/
def Event.endsDrain : Event → Bool
  | .drained | .graceOver | .shutdownGivenUp => true
  | _ => false

/-- Whether an event has nothing to do with the life of a host. -/
def Event.isBeside : Event → Bool
  | .init _ | .shutdown | .drained | .graceOver | .shutdownGivenUp => false
  | _ => true

/-- **What an event does to the life of a host.** -/
inductive LifeTurn (h : Host α) (e : Event) (h' : Host α) : Prop where
  | stays (started : h.startReply? e ≠ some (.ok ())) (shut : h.shutdownReply? e ≠ some none)
      (ended : e.endsDrain = false) (status : h'.status = h.status) (drain : h'.drain = h.drain)
      (forced : h'.dispatcher.forced = h.dispatcher.forced)
  | starts (started : h.startReply? e = some (.ok ())) (created : h.status = .created)
      (status : h'.status = .running) (drain : h'.drain = h.drain)
      (forced : h'.dispatcher.forced = h.dispatcher.forced)
  | shuts (call : e = .shutdown) (running : h.status = .running) (begun : h' = h.beginShutdown)
      (status : h'.status = .shuttingDown) (forced : h'.dispatcher.forced = h.dispatcher.forced)
  /-- The shutdown is over, and everything is done. -/
  | drains {deadline : Nat} (call : e = .drained) (waiting : h.drain = .waiting deadline)
      (finished : h' = h.finishDrain)
  /-- The shutdown is over, and what is left is abandoned. -/
  | forces {deadline : Nat} (ended : e.endsDrain = true) (waiting : h.drain = .waiting deadline)
      (status : h'.status = .stopped) (forced : h'.dispatcher.forced = true)
      (finished : ∀ t, h'.drain ≠ .waiting t) (undrained : h'.drain ≠ .over .drained)

/-- What no event changes: the handlers of a host, and that nobody has it any longer. -/
structure Kept (h h' : Host α) : Prop where
  handlers : h'.handlers = h.handlers
  gone : h.gone = true → h'.gone = true

theorem LifeTurn.beside (kind : e.isBeside = true) (status : h'.status = h.status)
    (drain : h'.drain = h.drain) (forced : h'.dispatcher.forced = h.dispatcher.forced) :
    h.LifeTurn e h' := by
  refine .stays ?_ ?_ ?_ status drain forced
  all_goals cases e <;> first | (cases kind; done) | rfl | nofun

theorem lifeTurn_init (h : Host α) (inRuntime : Bool) :
    h.Kept (h.init inRuntime).2 ∧ h.LifeTurn (.init inRuntime) (h.init inRuntime).2 := by
  have refused : ∀ {error : HostError}, h.init inRuntime = (.error error, h) →
      h.Kept (h.init inRuntime).2 ∧ h.LifeTurn (.init inRuntime) (h.init inRuntime).2 := by
    intro error refused
    refine ⟨by rw [refused]; exact ⟨rfl, id⟩, .stays ?_ nofun rfl (by rw [refused])
      (by rw [refused]) (by rw [refused])⟩
    rw [startReply?, refused]
    nofun
  by_cases runtime : inRuntime = true
  · subst runtime
    cases status : h.status with
    | created =>
      have started : (h.init true).1 = .ok () := by
        rw [init, status]
        rfl
      exact ⟨by rw [init, status]; exact ⟨rfl, id⟩, .starts (congrArg some started) status
        (by rw [init, status]; rfl) (by rw [init, status]; rfl) (by rw [init, status]; rfl)⟩
    | running | shuttingDown | stopped => exact refused (by rw [init, status]; rfl)
  · exact refused (by rw [init, if_pos (by simpa using runtime)])

theorem beginShutdown_of_ne (status : h.status ≠ .running) : h.beginShutdown = h := by
  unfold beginShutdown
  split
  · rename_i running
    exact absurd running status
  · rfl

theorem giveUpShutdown_eq {deadline : Nat} (waiting : h.drain = .waiting deadline) :
    h.giveUpShutdown =
      { h with
        status := .stopped
        dispatcher := { h.dispatcher with forced := true }
        drain := .givenUp } := by
  unfold giveUpShutdown
  rw [waiting]

theorem life_loopTick (h : Host α) (l : PollLoop α) (paused : Bool) (identity : Option String) :
    h.Kept (h.loopTick l paused identity) ∧ (h.loopTick l paused identity).status = h.status ∧
      (h.loopTick l paused identity).drain = h.drain := by
  unfold loopTick
  split <;> exact ⟨⟨rfl, id⟩, rfl, rfl⟩

/-- **Every event does one of these things.** -/
theorem step?_lifeTurn (step : h.step? e = some h') : h.Kept h' ∧ h.LifeTurn e h' := by
  have move := step?_move step
  cases e with
  | elapse _ | gate _ =>
    cases step
    exact ⟨⟨rfl, id⟩, .beside rfl rfl rfl rfl⟩
  | init inRuntime =>
    simp only [step?] at step
    split_ifs at step
    cases step
    exact lifeTurn_init h inRuntime
  | shutdown =>
    simp only [step?] at step
    split_ifs at step
    cases step
    by_cases running : h.status = .running
    · have begun : h.Kept h.beginShutdown ∧ h.beginShutdown.status = .shuttingDown ∧
          h.beginShutdown.dispatcher.forced = h.dispatcher.forced := by
        rw [beginShutdown, running]
        exact ⟨⟨rfl, id⟩, rfl, rfl⟩
      exact ⟨begun.1, .shuts rfl running rfl begun.2.1 begun.2.2⟩
    · have refused : h.shutdownReply? .shutdown ≠ some none := by
        rw [shutdownReply?, refusal?, if_neg running]
        intro none
        cases none
      have same := beginShutdown_of_ne running
      rw [same]
      exact ⟨⟨rfl, id⟩, .stays (fun started => by cases started) refused rfl rfl rfl rfl⟩
  | drained =>
    simp only [step?] at step
    split at step
    · rename_i waiting
      split_ifs at step
      cases step
      exact ⟨⟨rfl, id⟩, .drains rfl waiting rfl⟩
    · cases step
  | graceOver =>
    simp only [step?] at step
    split at step
    · rename_i waiting
      split_ifs at step
      cases step
      exact ⟨⟨rfl, id⟩, .forces rfl waiting rfl rfl (fun _ same => by cases same)
        fun same => by cases same⟩
    · cases step
  | shutdownGivenUp =>
    simp only [step?] at step
    split at step
    · rename_i waiting
      cases step
      rw [giveUpShutdown_eq waiting]
      exact ⟨⟨rfl, id⟩, .forces rfl waiting rfl rfl (fun _ same => by cases same)
        fun same => by cases same⟩
    · cases step
  | dropped =>
    simp only [step?] at step
    split at step
    · cases step
    · cases step
      exact ⟨⟨rfl, fun _ => rfl⟩, .beside rfl rfl rfl rfl⟩
  | loopStops t | loopPanics t =>
    simp only [step?] at step
    split at step
    · split_ifs at step
      cases step
      exact ⟨⟨rfl, id⟩, .beside rfl rfl rfl rfl⟩
    · cases step
  | loopTicks t paused identity =>
    have forced := move.forced_eq rfl
    simp only [step?] at step
    split at step
    · rename_i l due asleep
      split_ifs at step
      cases step
      obtain ⟨kept, status, drain⟩ := life_loopTick h l paused identity
      exact ⟨kept, .beside rfl status drain forced⟩
    · cases step
  | pollAnswered _ answer | pollPanics _ =>
    have forced := move.forced_eq rfl
    simp only [step?, Option.map_eq_some_iff] at step
    obtain ⟨tick, found, rfl⟩ := step
    exact ⟨⟨rfl, id⟩, .beside rfl rfl rfl forced⟩
  | pollCut _ | abandoned _ =>
    have forced := move.forced_eq rfl
    simp only [step?] at step
    split at step
    · split_ifs at step
      cases step
      exact ⟨⟨rfl, id⟩, .beside rfl rfl rfl forced⟩
    · cases step
  | handlerDone n outcome identity now | reportAnswered n answer told =>
    have forced := move.forced_eq rfl
    simp only [step?] at step
    split at step
    · split at step
      · cases step
        exact ⟨⟨rfl, id⟩, .beside rfl rfl rfl forced⟩
      · cases step
    · cases step
  | pauseDone n =>
    have forced := move.forced_eq rfl
    simp only [step?] at step
    split at step
    · split at step
      · split_ifs at step
        cases step
        exact ⟨⟨rfl, id⟩, .beside rfl rfl rfl forced⟩
      · cases step
    · cases step
  | executionPanics n =>
    have forced := move.forced_eq rfl
    simp only [step?, Option.map_eq_some_iff] at step
    obtain ⟨x, found, rfl⟩ := step
    exact ⟨⟨rfl, id⟩, .beside rfl rfl rfl forced⟩

theorem step?_forced (step : h.step? e = some h') (forced : h.dispatcher.forced = true) :
    h'.dispatcher.forced = true :=
  (step?_move step).forced forced

theorem step?_unforced (step : h.step? e = some h') (unforced : h'.dispatcher.forced = false) :
    h.dispatcher.forced = false := by
  cases forced : h.dispatcher.forced with
  | false => rfl
  | true =>
    rw [step?_forced step forced] at unforced
    cases unforced

/-! ## How things go together -/

/-- A host that is not started has no loops; while its shutdown waits, it says so; and what it does
is abandoned by force only when it is stopped. -/
structure Lawful (h : Host α) : Prop where
  types : (h.handlers.map Handler.taskType).Nodup
  created : h.status = .created → h.loops = []
  waiting : ∀ t, h.drain = .waiting t → h.status = .shuttingDown
  forced : h.dispatcher.forced = true → h.status = .stopped

theorem LoopTurn.loops_eq_nil (turn : h.LoopTurn e h') (created : h'.status = .created)
    (none : h.loops = []) : h'.loops = [] := by
  cases turn with
  | stays _ loops _ => rw [loops, none]
  | starts _ _ _ running _ _ =>
    rw [running] at created
    cases created
  | sleeper _ _ _ _ _ _ _ _ loops _ | polls _ _ _ _ _ _ _ _ loops _ =>
    rw [loops, setLoop, none, List.map_nil]
  | wakes _ _ _ _ _ loops _ => rw [loops, none, List.map_nil]

theorem Lawful.step (lawful : h.Lawful) (step : h.step? e = some h') : h'.Lawful := by
  obtain ⟨kept, turn⟩ := step?_lifeTurn step
  refine ⟨by rw [kept.handlers]; exact lawful.types, fun created => ?_, fun t waiting => ?_,
    fun forced => ?_⟩
  · refine (step?_loopTurn step).loops_eq_nil created (lawful.created ?_)
    cases turn with
    | stays _ _ _ status _ _ => rw [← status, created]
    | starts _ _ status _ _ | shuts _ _ _ status _ | forces _ _ status _ _ _ =>
      rw [status] at created
      cases created
    | drains _ _ finished =>
      rw [finished] at created
      cases created
  · cases turn with
    | stays _ _ _ status drain _ => rw [status, lawful.waiting t (drain ▸ waiting)]
    | starts _ created _ drain _ =>
      have := lawful.waiting t (drain ▸ waiting)
      rw [created] at this
      cases this
    | shuts _ _ _ status _ => exact status
    | drains _ _ finished =>
      rw [finished] at waiting
      cases waiting
    | forces _ _ _ _ finished _ => exact absurd waiting (finished t)
  · cases turn with
    | stays _ _ _ status _ same => rw [status, lawful.forced (same ▸ forced)]
    | starts _ created _ _ same =>
      have := lawful.forced (same ▸ forced)
      rw [created] at this
      cases this
    | shuts _ running _ _ same =>
      have := lawful.forced (same ▸ forced)
      rw [running] at this
      cases this
    | drains _ _ finished => rw [finished, finishDrain]
    | forces _ _ status _ _ _ => exact status

/-- **Status, shutdown, loops and force go together after every run.** -/
theorem Run.lawful (built : build handlers settings = .ok h₀) (run : Run h₀ es h) : h.Lawful := by
  refine run.keeps (P := Lawful) (fun lawful step => lawful.step step) ?_
  obtain ⟨hs, a, rfl, types, _⟩ := build_eq_ok built
  exact ⟨types, fun _ => rfl, nofun, nofun⟩

/-- **There is a loop for every tick after every run.** -/
theorem Run.looped (built : build handlers settings = .ok h₀) (run : Run h₀ es h) : h.Looped := by
  refine run.snocInduction (P := fun _ h => h.Looped) ?_ ?_
  · obtain ⟨hs, a, rfl, _⟩ := build_eq_ok built
    exact ⟨.nil, nofun, nofun⟩
  · intro es h h' e run looped step
    have lawful := run.lawful built
    exact (step?_loopTurn step).looped looped lawful.types lawful.created

/-! ## Rest -/

/-- A stopped host with nothing left to do. -/
structure AtRest (h : Host α) : Prop where
  stopped : h.status = .stopped
  loops : ∀ l ∈ h.loops, l.state = .ended
  ticks : h.dispatcher.ticks = []
  executions : h.dispatcher.executions = []

theorem AtRest.sleeper?_eq_none (rest : h.AtRest) (t : String) : h.sleeper? t = none := by
  cases asleep : h.sleeper? t with
  | none => rfl
  | some found =>
    obtain ⟨l, due⟩ := found
    obtain ⟨mem, -, sleeping⟩ := sleeper?_eq_some asleep
    rw [rest.loops l mem] at sleeping
    cases sleeping

theorem AtRest.step (rest : h.AtRest) (step : h.step? e = some h') :
    h'.AtRest ∧ h'.dispatcher.journal = h.dispatcher.journal := by
  have none_sleeps := rest.sleeper?_eq_none
  -- A loop that ticks would be asleep, but all have ended.
  have idle : h'.dispatcher.executions = [] ∧ h'.dispatcher.journal = h.dispatcher.journal := by
    rcases (step?_move step).idle_or_ticks rest.ticks rest.executions with ⟨t, _, _, rfl⟩ | idle
    · simp only [step?, none_sleeps] at step
      cases step
    · exact idle
  have stopped : h'.status = .stopped := by
    cases (step?_lifeTurn step).2 with
    | stays _ _ _ status _ _ => rw [status, rest.stopped]
    | drains _ _ finished => rw [finished, finishDrain]
    | forces _ _ status _ _ _ => exact status
    | starts _ other _ _ _ | shuts _ other _ _ _ =>
      rw [rest.stopped] at other
      cases other
  refine ⟨?_, idle.2⟩
  cases step?_loopTurn step with
  | stays _ loops ticks =>
    exact ⟨stopped, by rw [loops]; exact rest.loops, by rw [ticks, rest.ticks], idle.1⟩
  | starts _ _ created _ _ _ =>
    rw [rest.stopped] at created
    cases created
  | sleeper t _ _ _ asleep _ _ _ _ _ | polls t _ _ _ asleep _ _ _ _ _ =>
    rw [none_sleeps t] at asleep
    cases asleep
  | wakes k _ mem _ _ _ _ =>
    rw [rest.ticks] at mem
    cases mem

/-- **Nothing happens any more in a host at rest.** -/
theorem AtRest.run (rest : h.AtRest) (run : Run h es h') :
    h'.AtRest ∧ h'.dispatcher.journal = h.dispatcher.journal := by
  induction run with
  | nil => exact ⟨rest, rfl⟩
  | cons first _ ih =>
    obtain ⟨rest, journal⟩ := rest.step first
    obtain ⟨last, same⟩ := ih rest
    exact ⟨last, same.trans journal⟩

end Host

end TaskWorker
