import TaskWorker.Proofs.Drain
/-!
# What is counted adds up

Every poll that was sent has brought a task, brought none, failed, been cut, or is out. Every task
that was handed over has been executed or is at its handler, and of every execution the report came
to an end or is on its way, unless it was abandoned before. A panic that nothing catches loses a
poll or an execution between two counts. So the counts of a worker can be checked against one
another at any time, with what is under way, was abandoned or was lost in between.

* `Pending`, what is between two counts; `Dispatcher.pending`, and how it changes;
  `Dispatcher.loss?`, `Host.losses`: what is lost between them;
* `Tally.Balanced`: counts and what is between them add up; they still do when something is counted;
* `Move.balanced`, **`Host.Run.balanced`**: so it is after every run;
* `Host.Run.pending_of_drained`: nothing is in between after a drained shutdown but what was lost;
* **`Host.counts_add_up`**: all this for what a worker shows of its counts;
  `Host.losses_of_calm`: where only the work of handlers panics, nothing is lost.
-/

namespace TaskWorker

variable {α : Type}

/-! ## What is between two counts -/

/-- What is between two counts, because it is under way, was abandoned or was lost there. -/
@[ext]
structure Pending where
  polls : Nat
  atHandler : Nat
  atServer : Nat
  deriving DecidableEq

/-- Where something is lost: at a poll, with a task at its handler, or after that. -/
inductive Loss where
  | poll
  | handler
  | report
  deriving DecidableEq, Repr

namespace Pending

variable {p q : Pending}

def none : Pending := ⟨0, 0, 0⟩

/-- Both together. -/
def plus (p q : Pending) : Pending :=
  ⟨p.polls + q.polls, p.atHandler + q.atHandler, p.atServer + q.atServer⟩

def addPoll (p : Pending) : Pending := { p with polls := p.polls + 1 }

def addTask (p : Pending) : Pending := { p with atHandler := p.atHandler + 1 }

def addReport (p : Pending) : Pending := { p with atServer := p.atServer + 1 }

/-- One more execution that is at its handler or after that. -/
def add (p : Pending) (handling : Bool) : Pending := if handling then p.addTask else p.addReport

/-- What is left of an execution that ended: it stays where it was if it was abandoned there. -/
def leave (p : Pending) : Fate → Pending
  | .abandoned handling => p.add handling
  | _ => p

/-- One more that was lost, if something was. -/
def lose (p : Pending) : Option Loss → Pending
  | .none => p
  | some .poll => p.addPoll
  | some .handler => p.addTask
  | some .report => p.addReport

/-- As many as were lost. -/
def ofLosses (losses : List Loss) : Pending :=
  ⟨losses.count .poll, losses.count .handler, losses.count .report⟩

theorem addPoll_plus : p.addPoll.plus q = (p.plus q).addPoll :=
  Pending.ext (Nat.add_right_comm ..) rfl rfl

theorem addTask_plus : p.addTask.plus q = (p.plus q).addTask :=
  Pending.ext rfl (Nat.add_right_comm ..) rfl

theorem addReport_plus : p.addReport.plus q = (p.plus q).addReport :=
  Pending.ext rfl rfl (Nat.add_right_comm ..)

theorem add_plus (handling : Bool) : (p.add handling).plus q = (p.plus q).add handling := by
  cases handling
  · exact addReport_plus
  · exact addTask_plus

/-- What is lost stays between the counts. -/
theorem plus_lose (p q : Pending) (loss : Option Loss) :
    p.plus (q.lose loss) = (p.plus q).lose loss := by
  rcases loss with _ | _ | _ | _ <;> rfl

theorem lose_some (p : Pending) (handling : Bool) :
    p.lose (some (if handling then .handler else .report)) = p.add handling := by
  cases handling <;> rfl

theorem ofLosses_append (losses : List Loss) (loss : Option Loss) :
    ofLosses (losses ++ loss.toList) = (ofLosses losses).lose loss := by
  rcases loss with _ | _ | _ | _ <;> simp [ofLosses, lose, addPoll, addTask, addReport]

end Pending

namespace Tally

variable {t : Tally} {n : Nat} {p : Pending}

/-- **The counts add up** with the number of tasks and what is between them. -/
structure Balanced (t : Tally) (n : Nat) (p : Pending) : Prop where
  polls : t.polls = t.emptyPolls + t.pollErrors + n + p.polls
  tasks : n = t.executed + p.atHandler
  reports : t.executed = t.reported + t.rejected + t.dropped + p.atServer
  failures : t.failures ≤ t.executed

theorem Balanced.poll (b : Balanced t n p) : Balanced t.poll n p.addPoll :=
  { b with polls := congrArg (· + 1) b.polls }

theorem Balanced.emptyPoll (b : Balanced t n p.addPoll) : Balanced t.emptyPoll n p := by
  refine { b with polls := ?_ }
  have := b.polls
  show t.polls = t.emptyPolls + 1 + t.pollErrors + n + p.polls
  simp only [Pending.addPoll] at this
  omega

theorem Balanced.pollError (b : Balanced t n p.addPoll) : Balanced t.pollError n p := by
  refine { b with polls := ?_ }
  have := b.polls
  show t.polls = t.emptyPolls + (t.pollErrors + 1) + n + p.polls
  simp only [Pending.addPoll] at this
  omega

/-- A poll that brings a task leaves it at its handler. -/
theorem Balanced.task (b : Balanced t n p.addPoll) : Balanced t (n + 1) p.addTask := by
  refine { b with polls := ?_, tasks := congrArg (· + 1) b.tasks }
  have := b.polls
  show t.polls = t.emptyPolls + t.pollErrors + (n + 1) + p.polls
  simp only [Pending.addPoll] at this
  omega

/-- A task whose handler is done is at its report. -/
theorem Balanced.execution (b : Balanced t n p.addTask) (failed : Bool) :
    Balanced (t.execution failed) n p.addReport := by
  refine { b with tasks := ?_, reports := congrArg (· + 1) b.reports, failures := ?_ }
  · have := b.tasks
    show n = t.executed + 1 + p.atHandler
    simp only [Pending.addTask] at this
    omega
  · have := b.failures
    have := failed.toNat_le
    show t.failures + failed.toNat ≤ t.executed + 1
    omega

theorem Balanced.success (b : Balanced t n p.addReport) (k : Nat) : Balanced (t.success k) n p := by
  refine { b with reports := ?_ }
  have := b.reports
  show t.executed = t.reported + 1 + t.rejected + t.dropped + p.atServer
  simp only [Pending.addReport] at this
  omega

theorem Balanced.drop (b : Balanced t n p.addReport) (k : Nat) : Balanced (t.drop k) n p := by
  refine { b with reports := ?_ }
  have := b.reports
  show t.executed = t.reported + t.rejected + (t.dropped + 1) + p.atServer
  simp only [Pending.addReport] at this
  omega

theorem Balanced.rejection (b : Balanced t n p.addReport) : Balanced t.rejection n p := by
  refine { b with reports := ?_ }
  have := b.reports
  show t.executed = t.reported + (t.rejected + 1) + t.dropped + p.atServer
  simp only [Pending.addReport] at this
  omega

/-- However a report comes to its end, it is counted once. -/
theorem Balanced.report {t' : Tally} (b : Balanced t n p.addReport)
    (counted : (∃ k, t' = t.success k) ∨ (∃ k, t' = t.drop k) ∨ t' = t.rejection) :
    Balanced t' n p := by
  rcases counted with ⟨k, rfl⟩ | ⟨k, rfl⟩ | rfl
  · exact b.success k
  · exact b.drop k
  · exact b.rejection

end Tally

def Entry.isCut : Entry → Bool
  | .cut _ => true
  | _ => false

namespace Dispatcher

variable {d d' d₁ : Dispatcher α} {tick : Tick α} {x : Execution α} {e : Host.Event}

/-- The number of polls that were cut. -/
def cuts (d : Dispatcher α) : Nat := (d.journal.filter Entry.isCut).length

/-- The number of executions that are at their handlers. -/
def working (d : Dispatcher α) : Nat := d.executions.countP fun x => x.phase.isHandling

/-- The number of executions whose handlers are done. -/
def reporting (d : Dispatcher α) : Nat := d.executions.countP fun x => !x.phase.isHandling

/-- The number of executions that were abandoned at their handlers, or after that. -/
def abandonedIn (d : Dispatcher α) (handling : Bool) : Nat :=
  d.endings.countP fun ending => ending.2 = .abandoned handling

/-- The polls that are out or were cut, and the executions that are at their handlers, or at their
reports, or were abandoned there. -/
def pending (d : Dispatcher α) : Pending where
  polls := d.ticks.length + d.cuts
  atHandler := d.working + d.abandonedIn true
  atServer := d.reporting + d.abandonedIn false

/-! ## How what is pending changes -/

theorem pending_congr (ticks : d'.ticks = d.ticks) (executions : d'.executions = d.executions)
    (journal : d'.journal = d.journal) : d'.pending = d.pending := by
  simp only [pending, cuts, working, reporting, abandonedIn, endings, ticks, executions, journal]

theorem length_dropTick (o : d.Orderly) (mem : tick ∈ d.ticks) :
    d.ticks.length = (d.dropTick tick).ticks.length + 1 :=
  (perm_cons_filter_ne Tick.id o.ids mem).length_eq

theorem pending_dropTick (o : d.Orderly) (mem : tick ∈ d.ticks) :
    d.pending = (d.dropTick tick).pending.addPoll := by
  refine Pending.ext ?_ rfl rfl
  show d.ticks.length + d.cuts = (d.dropTick tick).ticks.length + d.cuts + 1
  rw [length_dropTick o mem]
  omega

theorem pending_sendPoll (d : Dispatcher α) (g : Handler α) (identity : Option String) :
    (d.sendPoll g identity).pending = d.pending.addPoll := by
  refine Pending.ext ?_ rfl rfl
  show (d.ticks ++ [_]).length + d.cuts = d.ticks.length + d.cuts + 1
  rw [List.length_append, List.length_singleton]
  omega

/-- One execution more, or fewer, is one more or fewer at handlers or at reports. -/
theorem pending_of_perm (executions : d'.executions.Perm (x :: d.executions))
    (ticks : d'.ticks = d.ticks) (cuts : d'.cuts = d.cuts) (endings : d'.endings = d.endings) :
    d'.pending = d.pending.add x.phase.isHandling := by
  have working := executions.countP_eq fun y => y.phase.isHandling
  have reporting := executions.countP_eq fun y => !y.phase.isHandling
  rw [List.countP_cons] at working reporting
  have polls : d'.ticks.length + d'.cuts = d.ticks.length + d.cuts := by rw [ticks, cuts]
  have abandoned (b : Bool) : d'.abandonedIn b = d.abandonedIn b := by
    rw [abandonedIn, endings, abandonedIn]
  cases handling : x.phase.isHandling with
  | true =>
    refine Pending.ext polls ?_ ?_
    · show d'.working + d'.abandonedIn true = d.working + d.abandonedIn true + 1
      rw [Dispatcher.working, working, if_pos handling, abandoned, Dispatcher.working]
      omega
    · show d'.reporting + d'.abandonedIn false = d.reporting + d.abandonedIn false
      rw [Dispatcher.reporting, reporting, if_neg (by simp [handling]), abandoned,
        Dispatcher.reporting, Nat.add_zero]
  | false =>
    refine Pending.ext polls ?_ ?_
    · show d'.working + d'.abandonedIn true = d.working + d.abandonedIn true
      rw [Dispatcher.working, working, if_neg (by simp [handling]), abandoned, Dispatcher.working,
        Nat.add_zero]
    · show d'.reporting + d'.abandonedIn false = d.reporting + d.abandonedIn false + 1
      rw [Dispatcher.reporting, reporting, if_pos (by simp [handling]), abandoned,
        Dispatcher.reporting]
      omega

theorem pending_dispatch (d : Dispatcher α) (tick : Tick α) (task : Task) :
    (d.dispatch tick task).pending = d.pending.addTask :=
  pending_of_perm
    (x := ⟨d.dispatched + 1, tick.handler, tick.workerId, task, .handling d.now⟩)
    (List.perm_append_singleton _ _) rfl rfl rfl

/-- The dispatcher without an execution. -/
def without (d : Dispatcher α) (x : Execution α) : Dispatcher α :=
  { d with executions := d.others x }

theorem pending_without (o : d.Orderly) (mem : x ∈ d.executions) :
    d.pending = (d.without x).pending.add x.phase.isHandling :=
  pending_of_perm (perm_others o mem) rfl rfl rfl

theorem pending_setPhase (o : d.Orderly) (mem : x ∈ d.executions) (phase : Phase) :
    (d.setPhase x.number phase).pending = (d.without x).pending.add phase.isHandling := by
  have moved := perm_setPhase o mem phase
  exact pending_of_perm (x := { x with phase }) moved rfl rfl rfl

theorem pending_of_ending {n : Nat} {fate : Fate} (executions : d'.executions = d.executions)
    (ticks : d'.ticks = d.ticks) (cuts : d'.cuts = d.cuts)
    (endings : d'.endings = (n, fate) :: d.endings) : d'.pending = d.pending.leave fate := by
  have polls : d'.ticks.length + d'.cuts = d.ticks.length + d.cuts := by rw [ticks, cuts]
  have working : d'.working = d.working := by
    rw [Dispatcher.working, executions, Dispatcher.working]
  have reporting : d'.reporting = d.reporting := by
    rw [Dispatcher.reporting, executions, Dispatcher.reporting]
  have abandoned (b : Bool) :
      d'.abandonedIn b = d.abandonedIn b + if fate = .abandoned b then 1 else 0 := by
    rw [abandonedIn, endings, List.countP_cons, abandonedIn]
    simp only [decide_eq_true_eq]
  have atHandler := abandoned true
  have atServer := abandoned false
  cases fate with
  | abandoned handling =>
    cases handling with
    | true =>
      rw [if_pos rfl] at atHandler
      rw [if_neg nofun, Nat.add_zero] at atServer
      refine Pending.ext polls ?_ ?_
      · show d'.working + d'.abandonedIn true = d.working + d.abandonedIn true + 1
        rw [working, atHandler]
        omega
      · show d'.reporting + d'.abandonedIn false = d.reporting + d.abandonedIn false
        rw [reporting, atServer]
    | false =>
      rw [if_neg nofun, Nat.add_zero] at atHandler
      rw [if_pos rfl] at atServer
      refine Pending.ext polls ?_ ?_
      · show d'.working + d'.abandonedIn true = d.working + d.abandonedIn true
        rw [working, atHandler]
      · show d'.reporting + d'.abandonedIn false = d.reporting + d.abandonedIn false + 1
        rw [reporting, atServer]
        omega
  | delivered _ | lost =>
    rw [if_neg nofun, Nat.add_zero] at atHandler atServer
    refine Pending.ext polls ?_ ?_
    · show d'.working + d'.abandonedIn true = d.working + d.abandonedIn true
      rw [working, atHandler]
    · show d'.reporting + d'.abandonedIn false = d.reporting + d.abandonedIn false
      rw [reporting, atServer]

/-! ## What is kept -/

theorem tally_of_conclude {task : Task} {outcome : Outcome} {identity : Option String}
    {now : Moment} {result : TaskResult}
    (concluded : d.conclude task outcome identity now = (result, d₁)) :
    ∃ failed, d₁.tally = d.tally.execution failed := by
  cases concluded
  exact ⟨_, rfl⟩

theorem tally_of_over {result : TaskResult} {attempt : Nat} {answer : Except ServerError Unit}
    {outcome : ReportOutcome}
    (finished : d.afterReport result attempt answer = (.over outcome, d₁)) :
    (∃ k, d₁.tally = d.tally.success k) ∨ (∃ k, d₁.tally = d.tally.drop k) ∨
      d₁.tally = d.tally.rejection := by
  simp only [afterReport] at finished
  split at finished
  · cases finished
    exact .inl ⟨_, rfl⟩
  · cases finished
  · split_ifs at finished
    · cases finished
      exact .inr (.inl ⟨_, rfl⟩)
    · cases finished
      exact .inr (.inr rfl)

/-- Where an event loses a poll or an execution in a panic. A handler that panics when it is asked
who it is has been counted as done, and a result whose handler panics at the news that it could not
be delivered has been counted too. -/
def loss? (d : Dispatcher α) : Host.Event → Option Loss
  | .pollPanics _ => some .poll
  | .handlerDone _ _ .panicked _ => some .report
  | .executionPanics n =>
    (d.execution? n).map fun x => if x.phase.isHandling then .handler else .report
  | _ => none

/-- The counts of a dispatcher add up with its tasks, what is pending and what was lost. -/
def Balanced (lost : Pending) (d : Dispatcher α) : Prop :=
  d.tally.Balanced d.dispatched (d.pending.plus lost)

/-- **An event keeps the balance,** with what it loses. -/
theorem Move.balanced {lost : Pending} (move : d.Move e d') (o : d.Orderly)
    (balanced : d.Balanced lost) : d'.Balanced (lost.lose (d.loss? e)) := by
  unfold Balanced at balanced
  cases move with
  | aside kind same =>
    have none : d.loss? e = none := by cases e <;> first | rfl | cases kind
    have pending := pending_congr same.ticks same.executions same.journal
    rw [none, Balanced, same.tally, same.dispatched, pending]
    exact balanced
  | idle _ => exact balanced
  | noSlot _ _ _ => exact { balanced with }
  | poll _ _ _ taken =>
    obtain ⟨_, _, _, _, rfl⟩ := acquire?_eq_some taken
    rw [Balanced, pending_sendPoll, Pending.addPoll_plus]
    exact balanced.poll
  | handOver found =>
    rw [pending_dropTick o (mem_of_tick? found).1, Pending.addPoll_plus] at balanced
    rw [Balanced, pending_dispatch, Pending.addTask_plus]
    exact balanced.task
  | noTask found =>
    rw [pending_dropTick o (mem_of_tick? found).1, Pending.addPoll_plus] at balanced
    exact balanced.emptyPoll
  | pollFailed found =>
    rw [pending_dropTick o (mem_of_tick? found).1, Pending.addPoll_plus] at balanced
    exact balanced.pollError
  | cut found _ =>
    -- The poll is out no longer, but it was cut.
    rw [pending_dropTick o (mem_of_tick? found).1] at balanced
    exact balanced
  | pollLost found =>
    rw [pending_dropTick o (mem_of_tick? found).1, Pending.addPoll_plus] at balanced
    exact balanced
  | @handled n since outcome identity now result x d₁ found stage concluded =>
    obtain ⟨mem, rfl⟩ := mem_of_execution? found
    obtain ⟨failed, counted⟩ := tally_of_conclude concluded
    obtain ⟨tally, rfl⟩ := conclude_eq concluded
    have moved := pending_setPhase o mem (.reporting result 1 d.now)
    rw [pending_without o mem, stage, Pending.add_plus] at balanced
    show tally.Balanced d.dispatched
      ((d.setPhase x.number (.reporting result 1 d.now)).pending.plus lost)
    rw [moved, Pending.add_plus, show tally = _ from counted]
    exact balanced.execution failed
  | @lostConcluding n since outcome now result x d₁ found stage concluded =>
    -- The execution is over after it was counted, and before its report.
    have mem := (mem_of_execution? found).1
    obtain ⟨failed, counted⟩ := tally_of_conclude concluded
    obtain ⟨tally, rfl⟩ := conclude_eq concluded
    have ended : ({ d with tally }.loseExecution x).pending = (d.without x).pending.leave .lost :=
      pending_of_ending rfl rfl rfl rfl
    rw [pending_without o mem, stage, Pending.add_plus] at balanced
    show tally.Balanced d.dispatched
      (({ d with tally }.loseExecution x).pending.plus (lost.lose (some .report)))
    rw [ended, Pending.plus_lose, show tally = _ from counted]
    exact balanced.execution failed
  | @pauses n attempt since answer told result x phase found stage again =>
    obtain ⟨mem, rfl⟩ := mem_of_execution? found
    obtain ⟨-, k, due, rfl⟩ := afterReport_goOn again
    rw [pending_without o mem, stage] at balanced
    rw [Balanced, pending_setPhase o mem]
    exact balanced
  | @resumes n attempt due result x found stage =>
    obtain ⟨mem, rfl⟩ := mem_of_execution? found
    have moved := pending_setPhase o mem (.reporting result attempt d.now)
    rw [pending_without o mem, stage] at balanced
    show d.tally.Balanced d.dispatched
      ((d.setPhase x.number (.reporting result attempt d.now)).pending.plus lost)
    rw [moved]
    exact balanced
  | @delivered n attempt since answer told result x outcome d₁ found stage finished =>
    have mem := (mem_of_execution? found).1
    have counted := tally_of_over finished
    obtain ⟨tally, news, rfl, undelivered⟩ := afterReport_over finished
    have ended : ({ d with tally, journal := news ++ d.journal }.endExecution x
        (.delivered outcome)).pending = (d.without x).pending.leave (.delivered outcome) :=
      pending_of_ending rfl rfl (congrArg List.length (filter_news rfl undelivered))
        (congrArg (List.cons _) (filterMap_news rfl undelivered))
    rw [pending_without o mem, stage, Pending.add_plus] at balanced
    rw [Balanced, ended]
    exact balanced.report counted
  | @lostTelling n attempt since answer result x outcome d₁ found stage finished _ =>
    have mem := (mem_of_execution? found).1
    have counted := tally_of_over finished
    obtain ⟨tally, news, rfl, undelivered⟩ := afterReport_over finished
    have ended : ({ d with tally, journal := news ++ d.journal }.loseExecution x).pending =
        (d.without x).pending.leave .lost :=
      pending_of_ending rfl rfl (congrArg List.length (filter_news rfl undelivered))
        (congrArg (List.cons _) (filterMap_news rfl undelivered))
    rw [pending_without o mem, stage, Pending.add_plus] at balanced
    rw [Balanced, ended]
    exact balanced.report counted
  | @abandoned n x found forced =>
    have mem := (mem_of_execution? found).1
    have ended : (d.endExecution x (.abandoned x.phase.isHandling)).pending =
        (d.without x).pending.leave (.abandoned x.phase.isHandling) :=
      pending_of_ending rfl rfl rfl rfl
    rw [Balanced, ended, Pending.leave, ← pending_without o mem]
    exact balanced
  | @lost n x found =>
    have mem := (mem_of_execution? found).1
    have ended : (d.loseExecution x).pending = (d.without x).pending.leave .lost :=
      pending_of_ending rfl rfl rfl rfl
    rw [pending_without o mem, Pending.add_plus] at balanced
    rw [Balanced, ended, loss?, found, Option.map_some, Pending.plus_lose, Pending.lose_some]
    exact balanced

/-- Only a poll that is not waited for by force is cut. -/
theorem Move.cuts_eq (move : d.Move e d') (unforced : d.forced = false) : d'.cuts = d.cuts := by
  cases move with
  | aside _ same => rw [cuts, same.journal, cuts]
  | poll _ _ _ taken =>
    obtain ⟨_, _, _, _, rfl⟩ := acquire?_eq_some taken
    rfl
  | cut _ forced =>
    rw [forced] at unforced
    cases unforced
  | handled _ _ concluded | lostConcluding _ _ concluded =>
    obtain ⟨_, rfl⟩ := conclude_eq concluded
    rfl
  | delivered _ _ finished | lostTelling _ _ finished _ =>
    obtain ⟨_, _, rfl, undelivered⟩ := afterReport_over finished
    exact congrArg List.length (filter_news rfl undelivered)
  | _ => rfl

end Dispatcher

namespace Host

variable {h₀ h h' : Host α} {e : Event} {es : List Event} {handlers : List (Handler α)}
  {settings : Settings}

/-- What was lost in a run, in its order. -/
def losses (h : Host α) (es : List Event) : List Loss :=
  h.along (fun h e => h.dispatcher.loss? e) es

/-- **The counts add up after every run.** -/
theorem Run.balanced (built : build handlers settings = .ok h₀) (run : Run h₀ es h) :
    h.dispatcher.Balanced (.ofLosses (h₀.losses es)) := by
  refine run.snocInduction (P := fun es h => h.dispatcher.Balanced (.ofLosses (h₀.losses es))) ?_ ?_
  · obtain ⟨hs, a, rfl, _⟩ := build_eq_ok built
    exact ⟨rfl, rfl, rfl, Nat.le_refl 0⟩
  · intro es h h' e run balanced step
    rw [losses, along_snoc _ run, Pending.ofLosses_append]
    exact (step?_move step).balanced (run.orderly built) balanced

/-- Where only the work of handlers panics, nothing is lost. -/
theorem losses_of_calm (calm : ∀ e ∈ es, e.isCalm = true) (h : Host α) : h.losses es = [] := by
  induction es generalizing h with
  | nil => rfl
  | cons e es ih =>
    have none : h.dispatcher.loss? e = none := by
      have := calm e List.mem_cons_self
      cases e with
      | pollPanics _ | executionPanics _ => cases this
      | handlerDone _ _ identity _ => cases identity <;> first | rfl | cases this
      | _ => rfl
    rw [losses, along, none, Option.toList_none, List.nil_append]
    split
    · exact ih (fun f mem => calm f (List.mem_cons_of_mem e mem)) _
    · rfl

/-! ## After a drained shutdown -/

/-- A host whose shutdown was drained is at rest, and nothing was forced. -/
theorem Run.rest_of_drained (built : build handlers settings = .ok h₀) (run : Run h₀ es h)
    (drained : h.drain = .over .drained) : h.AtRest ∧ h.dispatcher.forced = false := by
  refine run.snocInduction (P := fun _ h => h.drain = .over .drained →
    h.AtRest ∧ h.dispatcher.forced = false) ?_ ?_ drained
  · obtain ⟨hs, a, rfl, _⟩ := build_eq_ok built
    nofun
  · intro es h h' e run ih step drained
    cases (step?_lifeTurn step).2 with
    | stays _ _ _ _ drain forced | starts _ _ _ drain forced =>
      obtain ⟨rest, unforced⟩ := ih (drain ▸ drained)
      exact ⟨(rest.step step).1, forced.trans unforced⟩
    | shuts _ running begun _ _ =>
      rw [begun, beginShutdown, running] at drained
      cases drained
    | drains call waiting finished =>
      subst call
      have unforced := run.unforced_of_waiting built waiting
      exact ⟨atRest_of_drained built run step, by rw [finished]; exact unforced⟩
    | forces _ _ _ _ _ undrained => exact absurd drained undrained

theorem Run.cuts_eq_zero (built : build handlers settings = .ok h₀) (run : Run h₀ es h)
    (unforced : h.dispatcher.forced = false) : h.dispatcher.cuts = 0 := by
  refine run.snocInduction
    (P := fun _ h => h.dispatcher.forced = false → h.dispatcher.cuts = 0) ?_ ?_ unforced
  · intro _
    obtain ⟨hs, a, rfl, _⟩ := build_eq_ok built
    rfl
  · intro es h h' e run none step unforced
    have before := step?_unforced step unforced
    rw [(step?_move step).cuts_eq before, none before]

/-- **Nothing is between the counts after a drained shutdown,** but what was lost. -/
theorem Run.pending_of_drained (built : build handlers settings = .ok h₀) (run : Run h₀ es h)
    (drained : h.drain = .over .drained) : h.dispatcher.pending = .none := by
  obtain ⟨rest, unforced⟩ := run.rest_of_drained built drained
  have abandoned (b : Bool) : h.dispatcher.abandonedIn b = 0 := by
    refine List.countP_eq_zero.mpr fun ⟨n, fate⟩ ended => ?_
    rw [decide_eq_true_eq]
    rintro rfl
    exact run.not_abandoned built unforced n b ended
  refine Pending.ext ?_ ?_ ?_
  · show h.dispatcher.ticks.length + h.dispatcher.cuts = 0
    rw [rest.ticks, run.cuts_eq_zero built unforced, List.length_nil]
  · show h.dispatcher.working + h.dispatcher.abandonedIn true = 0
    rw [Dispatcher.working, rest.executions, abandoned, List.countP_nil]
  · show h.dispatcher.reporting + h.dispatcher.abandonedIn false = 0
    rw [Dispatcher.reporting, rest.executions, abandoned, List.countP_nil]

end Host

/-! ## What is shown -/

namespace Tally

variable {t : Tally}

def counts (t : Tally) : List Nat :=
  [t.polls, t.emptyPolls, t.pollErrors, t.executed, t.failures, t.reported, t.retries, t.dropped,
    t.rejected, t.withoutSlot]

/-- No count has come to 2⁶⁴. -/
def Fits (t : Tally) : Prop := ∀ n ∈ t.counts, n < UInt64.size

instance (t : Tally) : Decidable t.Fits := inferInstanceAs (Decidable (∀ n ∈ t.counts, _))

/-- The tally of which a snapshot shows every count in full. -/
def ofSnapshot (s : Snapshot) : Tally where
  polls := s.polls.toNat
  emptyPolls := s.emptyPolls.toNat
  pollErrors := s.pollErrors.toNat
  executed := s.executed.toNat
  failures := s.failures.toNat
  reported := s.reported.toNat
  retries := s.retries.toNat
  dropped := s.dropped.toNat
  rejected := s.rejected.toNat
  withoutSlot := s.withoutSlot.toNat

theorem Fits.ofSnapshot_snapshot (fits : t.Fits) : ofSnapshot t.snapshot = t := by
  have whole (n : Nat) (mem : n ∈ t.counts) : (UInt64.ofNat n).toNat = n :=
    UInt64.toNat_ofNat_of_lt' (fits n mem)
  simp only [counts, List.forall_mem_cons] at whole
  obtain ⟨h₁, h₂, h₃, h₄, h₅, h₆, h₇, h₈, h₉, h₁₀, -⟩ := whole
  simp only [ofSnapshot, snapshot, h₁, h₂, h₃, h₄, h₅, h₆, h₇, h₈, h₉, h₁₀]

end Tally

namespace Host

variable {h₀ h : Host α} {es : List Event} {handlers : List (Handler α)} {settings : Settings}

/-- **What is shown of the counts adds up,** if no count has come to 2⁶⁴. The polls are those that
brought nothing, failed, brought a task, are out, were cut or were lost; the tasks are those
executed, and those at their handlers, abandoned there or lost there; the executed ones are those
reported, rejected or dropped, and those at their reports, abandoned there or lost there; and there
are no more failures than executions. After a drained shutdown only the lost ones are in between. -/
theorem counts_add_up (built : build handlers settings = .ok h₀) (run : Run h₀ es h)
    (fits : h.dispatcher.tally.Fits) {s : Snapshot} (shown : h.dispatcher.tally.snapshot = s) :
    s.polls.toNat = s.emptyPolls.toNat + s.pollErrors.toNat + (h₀.handed es).length +
        (h.dispatcher.ticks.length + h.dispatcher.cuts + (h₀.losses es).count .poll) ∧
      (h₀.handed es).length = s.executed.toNat +
        (h.dispatcher.working + h.dispatcher.abandonedIn true + (h₀.losses es).count .handler) ∧
      s.executed.toNat = s.reported.toNat + s.rejected.toNat + s.dropped.toNat +
        (h.dispatcher.reporting + h.dispatcher.abandonedIn false +
          (h₀.losses es).count .report) ∧
      s.failures.toNat ≤ s.executed.toNat ∧
      (h.drain = .over .drained →
        s.polls.toNat = s.emptyPolls.toNat + s.pollErrors.toNat + s.executed.toNat +
            ((h₀.losses es).count .handler + (h₀.losses es).count .poll) ∧
          s.executed.toNat = s.reported.toNat + s.rejected.toNat + s.dropped.toNat +
            (h₀.losses es).count .report) := by
  have handed : h.dispatcher.dispatched = (h₀.handed es).length := by
    have numbers := congrArg List.length (run.map_fst_handed built)
    rw [List.length_map, List.length_range'] at numbers
    exact numbers.symm
  have balanced := run.balanced built
  rw [Dispatcher.Balanced, ← fits.ofSnapshot_snapshot, shown, handed] at balanced
  refine ⟨balanced.polls, balanced.tasks, balanced.reports, balanced.failures, fun drained => ?_⟩
  rw [run.pending_of_drained built drained] at balanced
  have polls : s.polls.toNat = s.emptyPolls.toNat + s.pollErrors.toNat + (h₀.handed es).length +
      (0 + (h₀.losses es).count .poll) := balanced.polls
  have tasks : (h₀.handed es).length = s.executed.toNat + (0 + (h₀.losses es).count .handler) :=
    balanced.tasks
  have reports : s.executed.toNat = s.reported.toNat + s.rejected.toNat + s.dropped.toNat +
      (0 + (h₀.losses es).count .report) := balanced.reports
  omega

/-- The sample has sent one poll and done one task. -/
example : (sampleAtRest.finishDrain.dispatcher.tally.snapshot).polls = 1 ∧
    (sampleAtRest.finishDrain.dispatcher.tally.snapshot).executed = 1 := by
  decide

end Host

end TaskWorker
