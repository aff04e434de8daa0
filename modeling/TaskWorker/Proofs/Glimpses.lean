import TaskWorker.Proofs.OwnActs
/-!
# What a task type sees of an act

Of each act on an exact clock a task type sees nothing, or its lane goes on by a mark and it sees
what the lane shows.

* `Surroundings.Occurs`, what an act does to a site; `Surroundings.step?_occurs`;
* `Watched.step`: what is known of a watched site stays known;
* **`Surroundings.glimpse`**: every act leaves a lane as it is and shows nothing, or is a mark of
  the lane.
-/

namespace TaskWorker

variable {α : Type}

/-! ## What an act does -/

namespace Surroundings

open Dispatcher (Callback)

/-- **What an act does to a site.** -/
inductive Occurs (env : Surroundings α) (s : Site α) : Act → Site.Event → Site α → Prop where
  | elapse {ms : Nat} (early : ∀ due ∈ env.dues s, s.host.now + ms ≤ due) :
      Occurs env s (.elapse ms) (.host (.elapse ms))
        ⟨{ s.host with dispatcher := { s.host.dispatcher with now := s.host.now + ms } }, s.server⟩
  | init {inRuntime : Bool} :
      Occurs env s (.call (.init inRuntime)) (.host (.init inRuntime))
        ⟨(s.host.init inRuntime).2, s.server⟩
  | gate {b : Bool} :
      Occurs env s (.call (.gate b)) (.host (.gate b))
        ⟨{ s.host with dispatcher := { s.host.dispatcher with gate := some b } }, s.server⟩
  | enqueue {task : Task} :
      Occurs env s (.call (.enqueue task)) (.enqueue task) ⟨s.host, s.server.enqueue task⟩
  | failPolls {b : Bool} :
      Occurs env s (.call (.failPolls b)) (.failPolls b)
        ⟨s.host, { s.server with failPolls := b }⟩
  | tick {t : String} {l : PollLoop α} {due : Nat} (asleep : s.host.sleeper? t = some (l, due))
      (le : due ≤ s.host.now) :
      Occurs env s (.tick t)
        (.host (.loopTicks t (env.paused l.handler s.host.now)
          (env.identity l.handler s.host.now)))
        ⟨s.host.loopTick l (env.paused l.handler s.host.now) (env.identity l.handler s.host.now),
          s.server⟩
  | served {k : Tick α} {answer : Except ServerError (Option Task)} {server : Server}
      (found : s.host.dispatcher.tick? k.id = some k) (le : env.tickDue k ≤ s.host.now)
      (answered : s.server.poll k.handler.taskType k.workerId k.domain = (answer, server)) :
      Occurs env s (.served k.id) (.pollServed k.id) ⟨(s.host.answerPoll k answer).2, server⟩
  | done {x : Execution α} {since : Nat} {stamp : Moment}
      (found : s.host.dispatcher.execution? x.number = some x) (phase : x.phase = .handling since)
      (le : since + (env.work x.handler x.task since).1 ≤ s.host.now) :
      Occurs env s (.done x.number stamp)
        (.host (.handlerDone x.number (env.work x.handler x.task since).2
          (.returned (env.identity x.handler s.host.now)) stamp))
        ⟨{ s.host with
          dispatcher := s.host.dispatcher.handlerDone x (env.work x.handler x.task since).2
            (.returned (env.identity x.handler s.host.now)) stamp }, s.server⟩
  | reported {x : Execution α} {result : TaskResult} {attempt since : Nat}
      {answer : Except ServerError Unit} {server : Server}
      (found : s.host.dispatcher.execution? x.number = some x)
      (phase : x.phase = .reporting result attempt since)
      (le : since + env.reportDelay x.handler since ≤ s.host.now)
      (answered : s.server.report result = (answer, server)) :
      Occurs env s (.reported x.number) (.reportServed x.number (.returned ()))
        ⟨{ s.host with
          dispatcher := s.host.dispatcher.reportAnswered x result attempt answer (.returned ()) },
          server⟩

variable {env : Surroundings α} {s s' : Site α} {a : Act} {e : Site.Event}

theorem step?_eq_some : env.step? s a = some (e, s') ↔
    env.event? s a = some e ∧ s.step? e = some s' := by
  rw [step?]
  cases env.event? s a with
  | none => simp
  | some f =>
    simp only [Option.map_eq_some_iff, Prod.mk.injEq, Option.some.injEq]
    constructor
    · rintro ⟨_, step, rfl, rfl⟩
      exact ⟨rfl, step⟩
    · rintro ⟨rfl, step⟩
      exact ⟨s', step, rfl, rfl⟩

theorem doneEvent?_eq_some {now : Nat} {x : Execution α} {stamp : Moment}
    (event : env.doneEvent? now x stamp = some e) :
    ∃ since, x.phase = .handling since ∧ since + (env.work x.handler x.task since).1 ≤ now ∧
      e = .host (.handlerDone x.number (env.work x.handler x.task since).2
        (.returned (env.identity x.handler now)) stamp) := by
  simp only [doneEvent?] at event
  split at event
  · rename_i since phase
    split_ifs at event with le
    cases event
    exact ⟨since, phase, le, rfl⟩
  · cases event

theorem reportedEvent?_eq_some {now : Nat} {x : Execution α}
    (event : env.reportedEvent? now x = some e) :
    ∃ result attempt since, x.phase = .reporting result attempt since ∧
      since + env.reportDelay x.handler since ≤ now ∧
      e = .reportServed x.number (.returned ()) := by
  simp only [reportedEvent?] at event
  split at event
  · rename_i result attempt since phase
    split_ifs at event with le
    cases event
    exact ⟨result, attempt, since, phase, le, rfl⟩
  · cases event

/-- **Whatever happens on an exact clock is one of these things.** -/
theorem step?_occurs (happens : env.step? s a = some (e, s')) : env.Occurs s a e s' := by
  rw [step?_eq_some] at happens
  obtain ⟨event, step⟩ := happens
  cases a with
  | elapse ms =>
    simp only [event?] at event
    split_ifs at event with early
    cases event
    cases step
    exact .elapse (by simpa using early)
  | call c =>
    cases event
    cases c with
    | init inRuntime =>
      simp only [Call.event, Site.step?, Site.effect?, Host.Event.isAnswer, Bool.false_eq_true,
        if_false, Option.map_eq_some_iff, Host.step?] at step
      obtain ⟨h', step, rfl⟩ := step
      split_ifs at step
      cases step
      exact .init
    | enqueue _ =>
      cases step
      exact .enqueue
    | gate _ =>
      cases step
      exact .gate
    | failPolls _ =>
      cases step
      exact .failPolls
  | tick t =>
    simp only [event?, Option.map_eq_some_iff] at event
    obtain ⟨l, loop, rfl⟩ := event
    simp only [Site.step?, Site.effect?, Host.Event.isAnswer, Bool.false_eq_true, if_false,
      Option.map_eq_some_iff, Host.step?] at step
    obtain ⟨h', step, rfl⟩ := step
    split at step
    · rename_i l' due asleep
      split_ifs at step with le
      cases step
      rw [Host.loop?_of_sleeper? asleep] at loop
      cases loop
      exact .tick asleep le
    · cases step
  | served id =>
    simp only [event?] at event
    split at event
    · rename_i k found
      obtain rfl := (Dispatcher.mem_of_tick? found).2
      split_ifs at event with le
      cases event
      simp only [Site.step?, Site.effect?, found, Option.map_some, Host.step?] at step
      cases step
      exact .served found le rfl
    · cases event
  | done n stamp =>
    simp only [event?, Option.bind_eq_some_iff] at event
    obtain ⟨x, found, event⟩ := event
    obtain rfl := (Dispatcher.mem_of_execution? found).2
    obtain ⟨since, phase, le, rfl⟩ := doneEvent?_eq_some event
    simp only [Site.step?, Site.effect?, Host.Event.isAnswer, Bool.false_eq_true, if_false,
      Host.step?, found, phase, Option.map_some] at step
    cases step
    exact .done found phase le
  | reported n =>
    simp only [event?, Option.bind_eq_some_iff] at event
    obtain ⟨x, found, event⟩ := event
    obtain rfl := (Dispatcher.mem_of_execution? found).2
    obtain ⟨result, attempt, since, phase, le, rfl⟩ := reportedEvent?_eq_some event
    simp only [Site.step?, Site.effect?, Dispatcher.sending?, found, phase, Option.bind_some,
      Phase.sending?, Host.step?, Option.map_some] at step
    cases step
    exact .reported found phase le rfl

end Surroundings

/-! ## What stays -/

section Stays

variable {env : Surroundings α} {w : Watch} {s s' : Site α} {t : String} {a : Act} {e : Site.Event}

theorem Watch.births_after (m : Option Mark)
    (dispatched : s'.host.dispatcher.dispatched = s.host.dispatcher.dispatched) :
    (w.after s s' m).births = w.births := by
  have none : ¬ s.host.dispatcher.dispatched < s'.host.dispatcher.dispatched := by omega
  rcases m with _ | m
  · rfl
  · cases m with
    | served => rw [after, if_neg none]
    | call _ _ | tick | done _ | reported _ => rfl

/-- What is known stays known where no execution begins. -/
theorem Watched.congr (watched : Watched w s t) (reached : s'.host.Reachable)
    (accepting : s'.server.rejectReports = false ∧ s'.server.failingReports = 0)
    (dispatched : s'.host.dispatcher.dispatched = s.host.dispatcher.dispatched)
    (old : ∀ x ∈ s'.host.dispatcher.executions, ∃ y ∈ s.host.dispatcher.executions,
      y.number = x.number ∧ y.handler = x.handler) (m : Option Mark) :
    Watched (w.after s s' m) s' t := by
  refine ⟨reached, accepting, fun x mem own => ?_, fun n mem => ?_⟩
  · obtain ⟨y, memY, number, handler⟩ := old x mem
    rw [Watch.births_after m dispatched, ← number]
    rw [← handler] at own
    exact watched.births y memY own
  · rw [Watch.births_after m dispatched] at mem
    rw [dispatched]
    exact watched.named n mem

theorem Host.Reachable.site_step (reached : s.host.Reachable) (step : s.step? e = some s') :
    s'.host.Reachable := by
  cases Site.step?_turn step with
  | told _ host _ _ =>
    rw [host]
    exact reached
  | beside _ _ _ step _ | polled _ _ _ step | reported _ _ _ _ step => exact reached.step step

theorem Dispatcher.executions_beginTick (d : Dispatcher α) (g : Handler α) (paused : Bool)
    (identity : Option String) :
    (d.beginTick g paused identity).2.executions = d.executions ∧
      (d.beginTick g paused identity).2.dispatched = d.dispatched ∧
      (d.beginTick g paused identity).2.now = d.now := by
  simp only [beginTick]
  split_ifs
  · exact ⟨rfl, rfl, rfl⟩
  · exact ⟨rfl, rfl, rfl⟩
  · exact ⟨rfl, rfl, rfl⟩
  · rw [acquire?_eq]
    cases (d.slots.get? g.taskType).bind Slots.acquire? <;> exact ⟨rfl, rfl, rfl⟩

/-- **What is known stays known.** -/
theorem Watched.step (watched : Watched w s t) (happens : env.step? s a = some (e, s')) :
    Watched (w.after s s' (w.mark? s t a)) s' t := by
  have reached := watched.reached.site_step (Surroundings.step?_eq_some.mp happens).2
  have accepting := watched.accepting
  cases Surroundings.step?_occurs happens with
  | elapse | gate | enqueue | failPolls =>
    exact watched.congr reached accepting rfl (fun x mem => ⟨x, mem, rfl, rfl⟩) _
  | @init inRuntime =>
    have same := Host.dispatcher_init s.host inRuntime
    refine watched.congr reached accepting (congrArg Dispatcher.dispatched same) (fun x mem => ?_) _
    rw [same] at mem
    exact ⟨x, mem, rfl, rfl⟩
  | @tick u l due asleep le =>
    obtain ⟨executions, dispatched, -⟩ := s.host.dispatcher.executions_beginTick l.handler
      (env.paused l.handler s.host.now) (env.identity l.handler s.host.now)
    rw [← Host.dispatcher_loopTick] at executions dispatched
    refine watched.congr reached accepting dispatched (fun x mem => ?_) _
    rw [executions] at mem
    exact ⟨x, mem, rfl, rfl⟩
  | @served k answer server found le answered =>
    have accepting' : server.rejectReports = false ∧ server.failingReports = 0 := by
      rw [Server.poll_record answered]
      exact accepting
    rcases answer with error | task | task
    · exact watched.congr reached accepting' rfl (fun x mem => ⟨x, mem, rfl, rfl⟩) _
    · exact watched.congr reached accepting' rfl (fun x mem => ⟨x, mem, rfl, rfl⟩) _
    · -- The new execution is known if it is one of the type's.
      simp only [Watch.mark?, found]
      split_ifs with own
      · have born : w.after s ⟨(s.host.answerPoll k (.ok (some task))).2, server⟩ (some .served) =
            w.born (s.host.dispatcher.dispatched + 1) := if_pos (Nat.lt_succ_self _)
        rw [born]
        refine ⟨reached, accepting', fun x mem ownX => ?_, fun n mem => ?_⟩
        · rcases List.mem_append.mp mem with old | new
          · exact List.mem_append_left _ (watched.births x old ownX)
          · rw [List.mem_singleton.mp new]
            exact List.mem_append_right _ List.mem_cons_self
        · rcases List.mem_append.mp mem with old | new
          · exact Nat.le_succ_of_le (watched.named n old)
          · rw [List.mem_singleton.mp new]
            exact Nat.le_refl _
      · refine ⟨reached, accepting', fun x mem ownX => ?_, fun n mem => ?_⟩
        · rcases List.mem_append.mp mem with old | new
          · exact watched.births x old ownX
          · rw [List.mem_singleton.mp new] at ownX
            exact absurd ownX own
        · exact Nat.le_succ_of_le (watched.named n mem)
  | @done x since stamp found phase le =>
    refine watched.congr reached accepting rfl (fun y mem => ?_) _
    obtain ⟨z, memZ, rfl⟩ := List.mem_map.mp mem
    refine ⟨z, memZ, ?_⟩
    split_ifs <;> exact ⟨rfl, rfl⟩
  | @reported x result attempt since answer server found phase le answered =>
    rw [Server.report_accepting result accepting] at answered
    cases answered
    refine watched.congr reached accepting rfl (fun y mem => ?_) _
    exact ⟨y, (List.mem_filter.mp mem).1, rfl, rfl⟩

end Stays

/-! ## Glimpses -/

/-- **What an act is to a type:** nothing that it sees, or a mark of its lane. -/
inductive Glimpse (env : Surroundings α) (t : String) (w : Watch) (s s' : Site α) (e : Site.Event) :
    Option Mark → Prop where
  | blank (idle : (w.lane s t).Idle (env.only t) s.host.now s'.host.now)
      (lane : w.lane s' t = w.lane s t) (seen : s.seen s' e t = []) : Glimpse env t w s s' e none
  | mark {m : Mark} (now : s'.host.now = s.host.now)
      (allows : (w.lane s t).Allows (env.only t) s.host.now m)
      (lane : (w.after s s' (some m)).lane s' t = (w.lane s t).next (env.only t) s.host.now m)
      (seen : s.seen s' e t = (w.lane s t).sights (env.only t) s.host.now m) :
      Glimpse env t w s s' e (some m)

/-- What is due in a lane is due at the site. -/
theorem Watch.mem_dues {env : Surroundings α} {w : Watch} {s : Site α} {t : String} {m : Mark}
    {d : Nat} (reached : s.host.Reachable) (due : (w.lane s t).due? (env.only t) m = some d) :
    d ∈ env.dues s := by
  -- An execution that is due in its place is due with its number.
  have execution : ∀ y ∈ w.executions s.host.dispatcher t,
      (env.only t).phaseDue y.handler y.task y.phase ∈ env.dues s := by
    intro y mem
    obtain ⟨x, memX, rfl⟩ := List.mem_map.mp mem
    obtain ⟨memX, own⟩ := List.mem_filter.mp memX
    have own : x.handler.taskType = t := by simpa using own
    have same : (env.only t).phaseDue x.handler x.task x.phase.untimed =
        env.phaseDue x.handler x.task x.phase := by
      cases x.phase <;>
        simp only [Phase.untimed, Surroundings.phaseDue, Surroundings.only, if_pos own]
    refine List.mem_append_left _ (List.mem_append_left _ (List.mem_map.mpr ⟨x, memX, ?_⟩))
    exact same.symm
  cases m with
  | call _ _ => cases due
  | tick =>
    simp only [Lane.due?] at due
    split at due
    · rename_i g wakes stage
      cases due
      obtain ⟨l, mem, state⟩ := Host.loop_of_sleeping stage
      refine List.mem_append_right _ (List.mem_filterMap.mpr ⟨l, mem, ?_⟩)
      rw [state]
      rfl
    · cases due
  | served =>
    simp only [Lane.due?] at due
    split at due
    · rename_i g workerId domain since stage
      cases due
      obtain ⟨own, k, mem, rfl, rfl⟩ := Host.tick_of_polling reached stage
      refine List.mem_append_left _ (List.mem_append_right _ (List.mem_map.mpr ⟨k, mem, ?_⟩))
      simp only [Surroundings.tickDue, Surroundings.only, if_pos own]
    · cases due
  | done k | reported k =>
    simp only [Lane.due?, Option.bind_eq_some_iff] at due
    obtain ⟨y, found, due⟩ := due
    have here := execution y (List.mem_of_find?_eq_some found)
    split at due
    · rename_i phase
      cases due
      rw [phase] at here
      exact here
    · cases due

namespace Glimpse

variable {env : Surroundings α} {t : String} {w : Watch} {s s' : Site α} {e : Site.Event} {m : Mark}

theorem of_go (now : s'.host.now = s.host.now)
    (allows : (w.lane s t).Allows (env.only t) s.host.now m)
    (gone : (w.lane s t).go (env.only t) s.host.now m = ((w.after s s' (some m)).lane s' t,
      s.tickSights e t ++ s.pollSights s' t ++ s.resultSights s' e t)) :
    Glimpse env t w s s' e (some m) := by
  have lane : (w.after s s' (some m)).lane s' t = (w.lane s t).next (env.only t) s.host.now m := by
    rw [Lane.next, gone]
  refine .mark now allows lane ?_
  rw [Site.seen, Lane.sights, ← lane, gone]
  rfl

theorem of_blank (idle : (w.lane s t).Idle (env.only t) s.host.now s'.host.now)
    (lane : w.lane s' t = w.lane s t)
    (ticks : s.tickSights e t = []) (polls : s.pollSights s' t = [])
    (results : s.resultSights s' e t = []) :
    Glimpse env t w s s' e none := by
  have busy : s'.host.dispatcher.busySlots t = s.host.dispatcher.busySlots t :=
    congrArg Lane.busy lane
  refine .blank idle lane ?_
  rw [Site.seen, ticks, polls, results, busy]
  exact if_pos rfl

theorem of_spares (reached : s.host.Reachable)
    (spares : s.host.dispatcher.Spares s'.host.dispatcher t)
    (handlers : s'.host.handlers = s.host.handlers) (status : s'.host.status = s.host.status)
    (loop : s'.host.loop? t = s.host.loop? t) (failPolls : s'.server.failPolls = s.server.failPolls)
    (waiting : s'.server.waitingFor t = s.server.waitingFor t)
    (ticks : s.tickSights e t = []) (polls : s.pollSights s' t = [])
    (results : s.resultSights s' e t = []) :
    Glimpse env t w s s' e none :=
  of_blank (Lane.idle_of_eq spares.now)
    (Watch.lane_congr reached spares handlers status loop failPolls waiting) ticks polls results

theorem elapse (reached : s.host.Reachable) {ms : Nat}
    (early : ∀ due ∈ env.dues s, s.host.now + ms ≤ due) :
    Glimpse env t w s
      ⟨{ s.host with dispatcher := { s.host.dispatcher with now := s.host.now + ms } }, s.server⟩
      (.host (.elapse ms)) none := by
  refine of_blank ⟨Nat.le_add_right _ _, fun _ m d due => ?_⟩ rfl rfl (Site.pollSights_same rfl) rfl
  exact early d (Watch.mem_dues reached due)

/-- A call that a type hears of. -/
theorem of_heed {c : Call} (now : s'.host.now = s.host.now)
    (lane : w.lane s' t = (w.lane s t).heed s.host.now c)
    (ticks : s.tickSights e t = []) (polls : s.pollSights s' t = [])
    (results : s.resultSights s' e t = []) :
    Glimpse env t w s s' e (some (.call w.calls c)) := by
  refine of_go now (.inl rfl) ?_
  rw [ticks, polls, results, Lane.go, ← lane]
  rfl

theorem call {c : Call} (occurs : env.Occurs s (.call c) e s') :
    Glimpse env t w s s' e (w.mark? s t (.call c)) := by
  cases occurs with
  | @init inRuntime =>
    have now : (s.host.init inRuntime).2.now = s.host.now :=
      congrArg Dispatcher.now (Host.dispatcher_init s.host inRuntime)
    exact of_heed now (Watch.lane_init inRuntime) rfl (Site.pollSights_same rfl) rfl
  | gate | failPolls => exact of_heed rfl rfl rfl (Site.pollSights_same rfl) rfl
  | @enqueue task =>
    simp only [Watch.mark?, Call.concerns, decide_eq_true_eq]
    split_ifs with own
    · refine of_heed rfl ?_ rfl (Site.pollSights_same rfl) rfl
      have waiting : (s.server.enqueue task).waitingFor t = s.server.waitingFor t ++ [task] := by
        simp [Server.waitingFor, Server.enqueue, own]
      rw [Watch.lane, waiting]
      rfl
    · refine of_blank (Lane.idle_of_eq rfl) ?_ rfl (Site.pollSights_same rfl) rfl
      have waiting : (s.server.enqueue task).waitingFor t = s.server.waitingFor t := by
        simp [Server.waitingFor, Server.enqueue, own]
      rw [Watch.lane, waiting]
      rfl

theorem tick (reached : s.host.Reachable) {u : String} {l : PollLoop α} {due : Nat}
    (asleep : s.host.sleeper? u = some (l, due)) (le : due ≤ s.host.now) :
    Glimpse env t w s
      ⟨s.host.loopTick l (env.paused l.handler s.host.now) (env.identity l.handler s.host.now),
        s.server⟩
      (.host (.loopTicks u (env.paused l.handler s.host.now) (env.identity l.handler s.host.now)))
      (w.mark? s t (.tick u)) := by
  obtain ⟨-, -, now⟩ := s.host.dispatcher.executions_beginTick l.handler
    (env.paused l.handler s.host.now) (env.identity l.handler s.host.now)
  rw [← Host.dispatcher_loopTick] at now
  simp only [Watch.mark?]
  split_ifs with own
  · subst own
    obtain ⟨-, -, stage⟩ := Watch.stage_of_sleeper (w := w) reached asleep
    refine of_go now (.inr ⟨due, le, ?_⟩) ((Watch.lane_tick reached asleep).trans ?_)
    · simp only [Lane.due?, stage]
    · rw [Site.pollSights_same, List.append_nil]
      · exact congrArg _ (List.append_nil _).symm
      · rfl
  · -- The tick of another type takes a slot of that type alone.
    obtain ⟨-, type, -⟩ := Host.sleeper?_eq_some asleep
    have other : l.handler.taskType ≠ t := by rwa [type]
    have spares := Dispatcher.spares_beginTick (d := s.host.dispatcher) other
      (env.paused l.handler s.host.now) (env.identity l.handler s.host.now)
    rw [← Host.dispatcher_loopTick] at spares
    obtain ⟨⟨handlers, -⟩, status, -⟩ := s.host.life_loopTick l
      (env.paused l.handler s.host.now) (env.identity l.handler s.host.now)
    have loop := s.host.loop?_loopTick_other (env.paused l.handler s.host.now)
      (env.identity l.handler s.host.now) other
    refine of_spares reached spares handlers status loop rfl rfl
      (Site.tickSights_apart fun outcome ended => ?_) (Site.pollSights_same rfl) rfl
    have ended : s.host.tickOver? (.loopTicks u (env.paused l.handler s.host.now)
      (env.identity l.handler s.host.now)) = some (t, outcome) := ended
    simp only [Host.tickOver?, Option.bind_eq_some_iff] at ended
    obtain ⟨_, -, ended⟩ := ended
    split at ended
    · cases ended
      exact own rfl
    · cases ended

theorem served (watched : Watched w s t) {k : Tick α} {answer : Except ServerError (Option Task)}
    {server : Server} (found : s.host.dispatcher.tick? k.id = some k)
    (le : env.tickDue k ≤ s.host.now)
    (answered : s.server.poll k.handler.taskType k.workerId k.domain = (answer, server)) :
    Glimpse env t w s ⟨(s.host.answerPoll k answer).2, server⟩ (.pollServed k.id)
      (w.mark? s t (.served k.id)) := by
  have now : (s.host.answerPoll k answer).2.now = s.host.now := by
    rcases answer with _ | _ | _ <;> rfl
  have heard : s.hostEvent? (.pollServed k.id) = some (.pollAnswered k.id answer) := by
    simp only [Site.hostEvent?, Site.effect?, found, Option.map_some, answered]
    rfl
  have results : s.resultSights ⟨(s.host.answerPoll k answer).2, server⟩ (.pollServed k.id) t =
      [] := by
    refine Site.resultSights_silent ?_
    rw [heard]
    rfl
  simp only [Watch.mark?, found]
  split_ifs with own
  · subst own
    refine of_go now (.inr ⟨_, le, ?_⟩) ((Watch.lane_serve watched found answered).trans ?_)
    · simp only [Lane.due?, Watch.stage_of_tick watched.reached found, Surroundings.only, if_true]
      rfl
    · rw [results, List.append_nil]
  · have record := Server.poll_record answered
    have spares := Dispatcher.spares_answerPoll own found answer
    have loop := Host.loop?_afterTick_other watched.reached found own
      (s.host.dispatcher.answerPoll k answer).2 (s.host.dispatcher.answerPoll k answer).1
    have failPolls : server.failPolls = s.server.failPolls := by rw [record]
    have polls : s.pollSights ⟨(s.host.answerPoll k answer).2, server⟩ t = [] :=
      (Site.pollSights_append (congrArg Server.polls record)).trans (if_neg own)
    refine of_spares watched.reached spares rfl rfl loop failPolls
      (Server.waitingFor_poll_other answered own)
      (Site.tickSights_apart fun outcome ended => ?_) polls results
    simp only [heard, Option.bind_some, Host.tickOver?, found, Option.map_some, Option.some.injEq,
      Prod.mk.injEq] at ended
    exact own ended.1

theorem done (watched : Watched w s t) {x : Execution α} {since : Nat} {stamp : Moment}
    (found : s.host.dispatcher.execution? x.number = some x) (phase : x.phase = .handling since)
    (le : since + (env.work x.handler x.task since).1 ≤ s.host.now) {d : Dispatcher α}
    (worked : s.host.dispatcher.handlerDone x (env.work x.handler x.task since).2
      (.returned (env.identity x.handler s.host.now)) stamp = d) :
    Glimpse env t w s ⟨{ s.host with dispatcher := d }, s.server⟩
      (.host (.handlerDone x.number (env.work x.handler x.task since).2
        (.returned (env.identity x.handler s.host.now)) stamp))
      (w.mark? s t (.done x.number stamp)) := by
  have mem := (Dispatcher.mem_of_execution? found).1
  have now : d.now = s.host.dispatcher.now := by
    rw [← worked]
    rfl
  simp only [Watch.mark?, found]
  split_ifs with own
  · refine of_go now (.inr ⟨_, le, ?_⟩) ?_
    · simp only [Lane.due?, Watch.execution?_lane watched mem own, Option.bind_some, Watch.placed,
        phase, Phase.untimed, Surroundings.only, if_pos own]
    · rw [Site.pollSights_same, Lane.go, ← Watch.lane_finish watched mem own phase worked]
      · rfl
      · rfl
  · have spares := Dispatcher.spares_handlerDone watched.reached.orderly mem own
      (env.work x.handler x.task since).2 (env.identity x.handler s.host.now) stamp
    rw [worked] at spares
    exact of_spares watched.reached spares rfl rfl rfl rfl rfl rfl (Site.pollSights_same rfl) rfl

theorem reported (watched : Watched w s t) {x : Execution α} {result : TaskResult}
    {attempt since : Nat} {server : Server}
    (found : s.host.dispatcher.execution? x.number = some x)
    (phase : x.phase = .reporting result attempt since)
    (le : since + env.reportDelay x.handler since ≤ s.host.now) {d : Dispatcher α}
    (answered : s.server.report result = (.ok (), server))
    (ended : s.host.dispatcher.reportAnswered x result attempt (.ok ()) (.returned ()) = d) :
    Glimpse env t w s ⟨{ s.host with dispatcher := d }, server⟩
      (.reportServed x.number (.returned ())) (w.mark? s t (.reported x.number)) := by
  have mem := (Dispatcher.mem_of_execution? found).1
  have now : d.now = s.host.dispatcher.now := by
    rw [← ended]
    rfl
  have sending : s.host.dispatcher.sending? x.number = some result := by
    simp only [Dispatcher.sending?, found, Option.bind_some, phase, Phase.sending?]
  have heard : s.hostEvent? (.reportServed x.number (.returned ())) =
      some (.reportAnswered x.number (.ok ()) (.returned ())) := by
    simp only [Site.hostEvent?, Site.effect?, sending, Option.map_some, answered]
    rfl
  have ticks : s.tickSights (.reportServed x.number (.returned ())) t = [] := by
    refine Site.tickSights_silent ?_
    rw [heard]
    rfl
  have reporter : (s.hostEvent? (.reportServed x.number (.returned ()))).bind s.host.reporter? =
      some x.handler.taskType := by
    simp only [heard, Option.bind_some, Host.reporter?, found, Option.map_some]
  rw [Server.report_accepting result watched.accepting] at answered
  have kept := (Prod.mk.inj answered).2
  have waiting : server.waiting = s.server.waiting := by rw [← kept]
  have failPolls : server.failPolls = s.server.failPolls := by rw [← kept]
  have polls : s.pollSights ⟨{ s.host with dispatcher := d }, server⟩ t = [] :=
    Site.pollSights_same (by rw [← kept])
  have results : s.resultSights ⟨{ s.host with dispatcher := d }, server⟩
      (.reportServed x.number (.returned ())) t =
        if x.handler.taskType = t then [.accepted result.untimed] else [] :=
    Site.resultSights_append reporter (by rw [← kept])
  simp only [Watch.mark?, found]
  split_ifs with own
  · refine of_go now (.inr ⟨_, le, ?_⟩) ((Watch.lane_deliver watched mem own phase _ waiting
      failPolls ended).trans ?_)
    · simp only [Lane.due?, Watch.execution?_lane watched mem own, Option.bind_some, Watch.placed,
        phase, Phase.untimed, Surroundings.only, if_pos own]
    · rw [ticks, polls, results, if_pos own]
      rfl
  · have spares := Dispatcher.spares_reportAnswered watched.reached.orderly mem own result attempt
      (.returned ())
    rw [ended] at spares
    have same : server.waitingFor t = s.server.waitingFor t := by
      rw [Server.waitingFor, waiting, Server.waitingFor]
    exact of_spares watched.reached spares rfl rfl rfl failPolls same ticks polls
      (results.trans (if_neg own))

end Glimpse

/-- **Of each act a type sees nothing, or its lane goes on by a mark.** -/
theorem Surroundings.glimpse {env : Surroundings α} {w : Watch} {s s' : Site α} {t : String}
    {a : Act} {e : Site.Event} (watched : Watched w s t)
    (happens : env.step? s a = some (e, s')) : Glimpse env t w s s' e (w.mark? s t a) := by
  have occurs := step?_occurs happens
  cases occurs with
  | elapse early => exact .elapse watched.reached early
  | init => exact .call .init
  | gate => exact .call .gate
  | enqueue => exact .call .enqueue
  | failPolls => exact .call .failPolls
  | tick asleep le => exact .tick watched.reached asleep le
  | served found le answered => exact .served watched found le answered
  | done found phase le => exact .done watched found phase le rfl
  | @reported x result attempt since answer server found phase le answered =>
    have taken := Server.report_accepting result watched.accepting
    rw [answered] at taken
    cases taken
    exact .reported watched found phase le answered rfl

end TaskWorker
