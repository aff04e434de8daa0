import TaskWorker.Proofs.Drain
import TaskWorker.Simulation.World
import TaskWorker.Site
/-!
# Runs of a host with its server

What happens to a site is a run of its host in which the server answers the calls. The server
answers a poll with the oldest task of the queue that the poll names, and keeps what it is told in
a report that it takes.

* `Server.Polled`, **all that a poll can do** (`Server.polled_poll`); `Server.poll_eq`,
  `Server.report_eq`: what a call leaves of the server;
* `Site.Turn`, all that an event does to a site; `Site.step?_turn`;
* `Site.snocInduction`, by the events of a run from its end; **`Site.run_hostEvents`**: the host of
  a site runs;
* **`World.step?_of_act?`**: what a simulated world does by itself is an event of its site.
-/

namespace TaskWorker

variable {α : Type}

/-! ## Calls of the server -/

namespace Server

variable {s s' : Server}

theorem isFor_iff {taskType : String} {domain : Option String} {task : Task} :
    isFor taskType domain task = true ↔ task.type = taskType ∧ task.domain = domain := by
  rw [isFor, Bool.and_eq_true, beq_iff_eq, beq_iff_eq]

theorem pollCount_handOut {task : Task} (workerId : String)
    (small : task.pollCount.toNat + 1 < UInt32.size) :
    (handOut task workerId).pollCount.toNat = task.pollCount.toNat + 1 := by
  rw [handOut, UInt32.toNat_add, UInt32.toNat_one]
  exact Nat.mod_eq_of_lt small

/-- A server that has seen another poll. -/
def saw (s : Server) (r : PollRecord) : Server := { s with polls := s.polls ++ [r] }

/-- What a poll gets and what it leaves of the server. -/
inductive Polled (s : Server) (r : PollRecord) :
    Except ServerError (Option Task) → Server → Prop where
  | failed (fails : s.failPolls = true) :
      s.Polled r (.error (.transient "poll failed (injected)")) (s.saw r)
  | empty (works : s.failPolls = false) (nobody : s.queue r.taskType r.domain = []) :
      s.Polled r (.ok none) (s.saw r)
  /-- The first task of the queue is handed out, and all others stay in line. -/
  | drawn {task : Task} {before behind : List Task} (works : s.failPolls = false)
      (waiting : s.waiting = before ++ task :: behind)
      (own : isFor r.taskType r.domain task = true)
      (first : ∀ b ∈ before, ¬isFor r.taskType r.domain b = true) :
      s.Polled r (.ok (some (handOut task r.workerId)))
        { s.saw r with waiting := before ++ behind }

/-- **All that a poll can do.** -/
theorem polled_poll (s : Server) (r : PollRecord) :
    s.Polled r (s.poll r.taskType r.workerId r.domain).1
      (s.poll r.taskType r.workerId r.domain).2 := by
  unfold poll
  by_cases fails : s.failPolls = true
  · simp only [if_pos fails]
    exact .failed fails
  have works : s.failPolls = false := by simpa using fails
  simp only [if_neg fails]
  cases found : s.waiting.find? (isFor r.taskType r.domain) with
  | none =>
    exact .empty works (List.filter_eq_nil_iff.mpr (List.find?_eq_none.mp found))
  | some task =>
    obtain ⟨own, before, behind, waiting, first⟩ := List.find?_eq_some_iff_append.mp found
    have first' : ∀ b ∈ before, ¬isFor r.taskType r.domain b = true := by simpa using first
    have rest : s.waiting.eraseP (isFor r.taskType r.domain) = before ++ behind := by
      rw [waiting, List.eraseP_append_right _ first', List.eraseP_cons_of_pos own]
    simp only [rest]
    exact .drawn works waiting own first'

/-- A task that is the first of its queue stands in front of this queue and in no other one. -/
theorem filter_drawn {r : PollRecord} {task : Task} {before : List Task}
    (own : isFor r.taskType r.domain task = true)
    (first : ∀ b ∈ before, ¬isFor r.taskType r.domain b = true) (behind : List Task) (t : String)
    (d : Option String) : (before ++ task :: behind).filter (isFor t d) =
      [task].filter (isFor t d) ++ (before ++ behind).filter (isFor t d) := by
  by_cases same : isFor t d task = true
  · obtain ⟨rfl, rfl⟩ := isFor_iff.mp same
    obtain ⟨type, domain⟩ := isFor_iff.mp own
    rw [← type, ← domain] at first
    rw [List.filter_append, List.filter_append, List.filter_eq_nil_iff.mpr first,
      List.filter_cons_of_pos same, List.filter_cons_of_pos same]
    rfl
  · rw [List.filter_append, List.filter_append, List.filter_cons_of_neg same,
      List.filter_cons_of_neg same]
    rfl

/-- **A poll takes the oldest task of its queue or leaves all queues as they are.** -/
theorem poll_eq {taskType workerId : String} {domain : Option String}
    {answer : Except ServerError (Option Task)}
    (answered : s.poll taskType workerId domain = (answer, s')) :
    s'.reported = s.reported ∧
      ((∃ task, answer = .ok (some (handOut task workerId)) ∧
          ∀ t d, s.queue t d = [task].filter (isFor t d) ++ s'.queue t d) ∨
        (∀ task, answer ≠ .ok (some task)) ∧ s'.waiting = s.waiting) := by
  have polled := s.polled_poll ⟨taskType, workerId, domain⟩
  rw [answered] at polled
  cases polled with
  | failed | empty => exact ⟨rfl, .inr ⟨nofun, rfl⟩⟩
  | @drawn task _ behind _ waiting own first =>
    refine ⟨rfl, .inl ⟨task, rfl, fun t d => ?_⟩⟩
    rw [queue, waiting]
    exact filter_drawn own first behind t d

/-- **A result is kept if its report is taken.** -/
theorem report_eq {result : TaskResult} {answer : Except ServerError Unit}
    (answered : s.report result = (answer, s')) :
    s'.waiting = s.waiting ∧
      s'.reported = s.reported ++ (answer.toOption.map fun _ => result).toList := by
  simp only [report] at answered
  split_ifs at answered
  · cases answered
    exact ⟨rfl, (List.append_nil _).symm⟩
  · cases answered
    exact ⟨rfl, (List.append_nil _).symm⟩
  · cases answered
    exact ⟨rfl, rfl⟩

end Server

/-! ## Runs -/

namespace Site

open Dispatcher (Callback)

variable {s₀ s s' : Site α} {e : Event} {es : List Event}

/-- **Induction on a run from its end**, where `P` may look at the events so far. -/
theorem snocInduction {P : List Event → Site α → Prop} (nil : P [] s₀)
    (snoc : ∀ {es : List Event} {s s' : Site α} {e : Event},
      s₀.replay es = some s → P es s → s.step? e = some s' → P (es ++ [e]) s')
    (run : s₀.replay es = some s) : P es s :=
  foldlM_induction nil snoc run

theorem hostEvents_snoc (run : s₀.replay es = some s) :
    s₀.hostEvents (es ++ [e]) = s₀.hostEvents es ++ (s.hostEvent? e).toList := by
  induction es generalizing s₀ with
  | nil =>
    cases run
    simp only [List.nil_append, hostEvents]
    cases s.step? e <;> simp
  | cons f es ih =>
    rw [replay, List.foldlM_cons, Option.bind_eq_bind, Option.bind_eq_some_iff] at run
    obtain ⟨s₁, first, rest⟩ := run
    rw [List.cons_append, hostEvents, hostEvents, first]
    simp only [ih rest, List.append_assoc]

/-- **What an event does to a site.** -/
inductive Turn (s : Site α) (e : Event) (s' : Site α) : Prop where
  /-- Somebody gives the server a task or tells it what to do. -/
  | told (unheard : s.hostEvent? e = none) (host : s'.host = s.host)
      (waiting : s'.server.waiting = s.server.waiting ++ e.enqueued?.toList)
      (reported : s'.server.reported = s.server.reported)
  /-- Something happens to the host alone. -/
  | beside {f : Host.Event} (noTask : e.enqueued? = none) (heard : s.hostEvent? e = some f)
      (noAnswer : f.isAnswer = false) (step : s.host.step? f = some s'.host)
      (server : s'.server = s.server)
  | polled {tick : Tick α} {answer : Except ServerError (Option Task)} (noTask : e.enqueued? = none)
      (heard : s.hostEvent? e = some (.pollAnswered tick.id answer))
      (answered : s.server.poll tick.handler.taskType tick.workerId tick.domain =
        (answer, s'.server))
      (step : s.host.step? (.pollAnswered tick.id answer) = some s'.host)
  | reported {n : Nat} {result : TaskResult} {answer : Except ServerError Unit}
      {told : Callback Unit} (noTask : e.enqueued? = none)
      (heard : s.hostEvent? e = some (.reportAnswered n answer told))
      (sent : s.host.dispatcher.sending? n = some result)
      (answered : s.server.report result = (answer, s'.server))
      (step : s.host.step? (.reportAnswered n answer told) = some s'.host)

/-- **Every event takes one of these turns.** -/
theorem step?_turn (step : s.step? e = some s') : s.Turn e s' := by
  simp only [step?] at step
  cases e with
  | enqueue _ =>
    cases step
    exact .told rfl rfl rfl rfl
  | failPolls _ | failReports _ | rejectReports _ =>
    cases step
    exact .told rfl rfl (List.append_nil _).symm rfl
  | host f =>
    by_cases aside : f.isAnswer = true
    · simp only [effect?, if_pos aside] at step
      cases step
    · have effect : s.effect? (.host f) = some (some f, s.server) := if_neg aside
      simp only [effect, Option.map_eq_some_iff] at step
      obtain ⟨host, step, rfl⟩ := step
      exact .beside rfl (congrArg (·.bind Prod.fst) effect) (by simpa using aside) step rfl
  | pollServed id =>
    cases found : s.host.dispatcher.tick? id with
    | none =>
      simp only [effect?, found, Option.map_none] at step
      cases step
    | some tick =>
      obtain rfl := (Dispatcher.mem_of_tick? found).2
      have effect : s.effect? (.pollServed tick.id) = some (some (.pollAnswered tick.id _), _) :=
        congrArg (Option.map _) found
      simp only [effect, Option.map_eq_some_iff] at step
      obtain ⟨host, step, rfl⟩ := step
      exact .polled rfl (congrArg (·.bind Prod.fst) effect) rfl step
  | reportServed n told =>
    cases sent : s.host.dispatcher.sending? n with
    | none =>
      simp only [effect?, sent, Option.map_none] at step
      cases step
    | some result =>
      have effect : s.effect? (.reportServed n told) = some (some (.reportAnswered n _ told), _) :=
        congrArg (Option.map _) sent
      simp only [effect, Option.map_eq_some_iff] at step
      obtain ⟨host, step, rfl⟩ := step
      exact .reported rfl (congrArg (·.bind Prod.fst) effect) sent rfl step

/-- **The host of a site runs.** -/
theorem run_hostEvents (run : s₀.replay es = some s) :
    Host.Run s₀.host (s₀.hostEvents es) s.host := by
  refine snocInduction (P := fun es s => Host.Run s₀.host (s₀.hostEvents es) s.host) (.nil _) ?_ run
  intro es s s' e run ih step
  rw [hostEvents_snoc run]
  cases step?_turn step with
  | told unheard host _ _ =>
    rw [unheard, host, Option.toList_none, List.append_nil]
    exact ih
  | beside _ heard _ step _ | polled _ heard _ step | reported _ heard _ _ step =>
    rw [heard]
    exact ih.snoc step

end Site

/-! ## Simulated worlds -/

namespace World

variable {w w' : World}

/-- The host of a world with its server. -/
def site (w : World) : Site Script := ⟨w.host, w.server⟩

theorem site_of_step {f : Host.Event} {host : Host Script} (step : w.host.step? f = some host)
    (noAnswer : f.isAnswer = false) : w.site.step? (.host f) = some ⟨host, w.server⟩ := by
  have effect : w.site.effect? (.host f) = some (some f, w.server) := if_neg (by simp [noAnswer])
  simp only [Site.step?, effect, Option.map_eq_some_iff]
  exact ⟨host, step, rfl⟩

theorem site_of_happen {f : Host.Event} (h : w.happen f = some w') (noAnswer : f.isAnswer = false) :
    w.site.step? (.host f) = some w'.site := by
  obtain ⟨host, step, rfl⟩ := Option.map_eq_some_iff.mp h
  exact site_of_step step noAnswer

theorem site_of_answer {t : Tick Script} (o : w.host.dispatcher.Orderly)
    (mem : t ∈ w.host.dispatcher.ticks) (h : w.answer t = some w') :
    w.site.step? (.pollServed t.id) = some w'.site := by
  obtain ⟨host, step, rfl⟩ := Option.map_eq_some_iff.mp h
  have effect : w.site.effect? (.pollServed t.id) = some (some (.pollAnswered t.id _), _) :=
    congrArg (Option.map _) (Dispatcher.tick?_of_mem o mem)
  simp only [Site.step?, effect, Option.map_eq_some_iff]
  exact ⟨host, step, rfl⟩

theorem site_of_proceed {x : Execution Script} (o : w.host.dispatcher.Orderly)
    (mem : x ∈ w.host.dispatcher.executions) (h : w.proceed x = some w') :
    ∃ e, w.site.step? e = some w'.site := by
  cases stage : x.phase with
  | handling since =>
    simp only [proceed, stage] at h
    exact ⟨_, site_of_happen h rfl⟩
  | pausing result attempt due =>
    simp only [proceed, stage] at h
    exact ⟨_, site_of_happen h rfl⟩
  | reporting result attempt since =>
    simp only [proceed, stage] at h
    obtain ⟨host, step, rfl⟩ := Option.map_eq_some_iff.mp h
    have sending : x.phase.sending? = some result := by rw [stage, Phase.sending?]
    have sent : w.host.dispatcher.sending? x.number = some result := by
      rw [Dispatcher.sending?, Dispatcher.execution?_of_mem o mem, Option.bind_some, sending]
    have effect : w.site.effect? (.reportServed x.number (.returned ())) =
        some (some (.reportAnswered x.number _ _), _) := congrArg (Option.map _) sent
    refine ⟨.reportServed x.number (.returned ()), ?_⟩
    simp only [Site.step?, effect, Option.map_eq_some_iff]
    exact ⟨host, step, rfl⟩

theorem site_of_runExecution? (o : w.host.dispatcher.Orderly) (h : w.runExecution? = some w') :
    ∃ e, w.site.step? e = some w'.site := by
  obtain ⟨x, found, h⟩ := Option.bind_eq_some_iff.mp h
  exact site_of_proceed o (List.mem_of_find?_eq_some found) h

theorem site_of_abandon? (h : w.abandon? = some w') : ∃ e, w.site.step? e = some w'.site := by
  simp only [abandon?] at h
  cases executions : w.host.dispatcher.executions with
  | cons x _ =>
    rw [executions] at h
    exact ⟨.host (.abandoned x.number), site_of_happen h rfl⟩
  | nil =>
    cases ticks : w.host.dispatcher.ticks with
    | cons t _ =>
      rw [executions, ticks] at h
      obtain ⟨host, step, rfl⟩ := Option.map_eq_some_iff.mp h
      exact ⟨.host (.pollCut t.id), site_of_step step rfl⟩
    | nil =>
      rw [executions, ticks] at h
      cases h

/-- **What a world does by itself is an event of its site,** unless there is work by hand. -/
theorem step?_of_act? (o : w.host.dispatcher.Orderly) (noErrand : w.errandDue? = none)
    (act : w.act? = some w') : ∃ e, w.site.step? e = some w'.site := by
  simp only [act?, Option.orElse_eq_orElse, Option.orElse_eq_or, Option.or_eq_some_iff] at act
  rcases act with h | ⟨-, h | ⟨-, h | ⟨-, h | ⟨-, h | ⟨-, h | ⟨-, h | ⟨-, h⟩⟩⟩⟩⟩⟩⟩
  · simp only [runOut?] at h
    split_ifs at h
    exact site_of_abandon? h
  · simp only [stopLoop?] at h
    split_ifs at h
    obtain ⟨l, -, h⟩ := Option.bind_eq_some_iff.mp h
    exact ⟨.host (.loopStops l.handler.taskType), site_of_happen h rfl⟩
  · rcases Option.or_eq_some_iff.mp h with h | ⟨-, h⟩
    · exact ⟨.host .drained, site_of_happen h rfl⟩
    · exact ⟨.host .graceOver, site_of_happen h rfl⟩
  · exact site_of_runExecution? o h
  · obtain ⟨t, found, h⟩ := Option.bind_eq_some_iff.mp h
    exact ⟨.pollServed t.id, site_of_answer o (List.mem_of_find?_eq_some found) h⟩
  · obtain ⟨l, -, h⟩ := Option.bind_eq_some_iff.mp h
    exact ⟨.host (.loopTicks l.handler.taskType _ _), site_of_happen h rfl⟩
  · simp only [runErrand?, noErrand] at h
    cases h
  · simp only [release?] at h
    split_ifs at h
    exact ⟨.host .dropped, site_of_happen h rfl⟩

end World

end TaskWorker
