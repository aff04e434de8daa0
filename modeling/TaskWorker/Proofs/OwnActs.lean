import TaskWorker.Proofs.Views
/-!
# The acts of a task type

What happens to a type's loop, to its polls and to its executions is a matter of its lane: the lane
of the state after it, and what is seen of it, are what the lane says.

* **`Watch.lane_tick`**, **`Watch.lane_serve`**, **`Watch.lane_finish`**, **`Watch.lane_deliver`**:
  the tick of a type, its poll, the end of a handler's work and a report that is taken.
-/

namespace TaskWorker

variable {α : Type}

namespace Watch

variable {w : Watch} {s s' : Site α} {t : String}

/-! ## The tick of a type -/

variable {env : Surroundings α} {l : PollLoop α} {due : Nat}

theorem stage_of_sleeper (reached : s.host.Reachable)
    (asleep : s.host.sleeper? t = some (l, due)) :
    s.host.loop? t = some l ∧ l.handler.taskType = t ∧
      (w.lane s t).stage = .sleeping l.handler due := by
  obtain ⟨-, own, state⟩ := Host.sleeper?_eq_some asleep
  have loop := Host.loop?_of_sleeper? asleep
  refine ⟨loop, own, ?_⟩
  simp only [lane, Host.stage, if_neg (reached.started loop), loop, Dispatcher.stageOf, state]

/-- The lane after its loop was put into another state. -/
theorem lane_setLoop (loop : s.host.loop? t = some l) (started : s.host.status ≠ .created)
    {d : Dispatcher α} (state : LoopState) :
    w.lane ⟨{ s.host with dispatcher := d }.setLoop t state, s.server⟩ t =
      { w.lane ⟨{ s.host with dispatcher := d }, s.server⟩ t with
        stage := d.stageOf (some { l with state }) } := by
  have turned : ({ s.host with dispatcher := d }.setLoop t state).loop? t =
      some { l with state } := by
    rw [Host.loop?_setLoop, if_pos rfl]
    exact congrArg (Option.map _) loop
  have same : ({ s.host with dispatcher := d }.setLoop t state).stage t =
      d.stageOf (some { l with state }) := by
    rw [Host.stage, turned]
    exact if_neg started
  rw [lane, same]
  rfl

/-- A tick that is over at once. -/
theorem lane_over (reached : s.host.Reachable) (asleep : s.host.sleeper? t = some (l, due))
    {paused : Bool} {identity : Option String} {outcome : TickOutcome} {d : Dispatcher α}
    (tally : Tally) (same : d = { s.host.dispatcher with tally := tally })
    (begun : s.host.dispatcher.beginTick l.handler paused identity = (.over outcome, d)) :
    (w.lane s t).endTick l.handler s.host.now outcome =
      (w.lane ⟨s.host.loopTick l paused identity, s.server⟩ t,
        s.tickSights (.host (.loopTicks t paused identity)) t) := by
  obtain ⟨loop, own, -⟩ := stage_of_sleeper (w := w) reached asleep
  have sights : s.tickSights (.host (.loopTicks t paused identity)) t = [.ticked outcome] := by
    have ended : s.host.tickOver? (.loopTicks t paused identity) = some (t, outcome) := by
      simp only [Host.tickOver?, loop, Option.bind_some, begun]
    have heard : s.hostEvent? (.host (.loopTicks t paused identity)) =
        some (.loopTicks t paused identity) := rfl
    simp only [Site.tickSights, heard, Option.bind_some, ended, if_true]
  have ticked : s.host.loopTick l paused identity =
      { s.host with dispatcher := d }.setLoop t
        (if outcome = TickOutcome.shuttingDown then .ended
          else { s.host with dispatcher := d }.resting l.handler) := by
    simp only [Host.loopTick, begun, own]
  have rests : d.stageOf (some { l with state :=
      if outcome = TickOutcome.shuttingDown then .ended
      else { s.host with dispatcher := d }.resting l.handler }) =
        Lane.restStage l.handler s.host.now outcome := by
    rw [Lane.restStage]
    split_ifs
    · rfl
    · rw [same]
      rfl
  rw [sights, ticked, lane_setLoop loop (reached.started loop), rests, same, Lane.endTick]
  rfl

/-- A tick that sends its poll. -/
theorem lane_sent (reached : s.host.Reachable) (asleep : s.host.sleeper? t = some (l, due))
    {paused : Bool} {identity : Option String} {slots : Slots} {d : Dispatcher α}
    (taken : d = { s.host.dispatcher with slots := s.host.dispatcher.slots.insert t slots })
    (begun : s.host.dispatcher.beginTick l.handler paused identity =
      (.sent s.host.dispatcher.sentPolls, d.sendPoll l.handler identity)) :
    ({ w.lane s t with
      slots := some slots
      stage := .polling l.handler (identity.getD s.host.dispatcher.settings.workerId)
        (s.host.dispatcher.settings.domainFor l.handler.taskType) s.host.now }, []) =
      (w.lane ⟨s.host.loopTick l paused identity, s.server⟩ t,
        s.tickSights (.host (.loopTicks t paused identity)) t) := by
  obtain ⟨loop, own, -⟩ := stage_of_sleeper (w := w) reached asleep
  have sights : s.tickSights (.host (.loopTicks t paused identity)) t = [] := by
    have ended : s.host.tickOver? (.loopTicks t paused identity) = none := by
      simp only [Host.tickOver?, loop, Option.bind_some, begun]
    have heard : s.hostEvent? (.host (.loopTicks t paused identity)) =
        some (.loopTicks t paused identity) := rfl
    simp only [Site.tickSights, heard, Option.bind_some, ended]
  have ticked : s.host.loopTick l paused identity =
      { s.host with dispatcher := d.sendPoll l.handler identity }.setLoop t
        (.polling s.host.dispatcher.sentPolls) := by
    simp only [Host.loopTick, begun, own]
  have fresh : s.host.dispatcher.ticks.find? (fun k => k.id = s.host.dispatcher.sentPolls) = none := by
    refine List.find?_eq_none.mpr fun k mem same => ?_
    have := reached.orderly.ids_lt k mem
    simp only [decide_eq_true_eq] at same
    omega
  have polls : (d.sendPoll l.handler identity).stageOf
      (some { l with state := .polling s.host.dispatcher.sentPolls }) =
        .polling l.handler (identity.getD s.host.dispatcher.settings.workerId)
          (s.host.dispatcher.settings.domainFor l.handler.taskType) s.host.now := by
    simp only [Dispatcher.stageOf, Dispatcher.tick?, Dispatcher.sendPoll, taken, List.find?_append,
      fresh, Option.none_or, List.find?_singleton, decide_true, if_true]
    rfl
  have held : (d.sendPoll l.handler identity).slots.get? t = some slots := by
    rw [taken]
    exact (Table.get?_insert ..).trans (if_pos rfl)
  rw [sights, ticked, lane_setLoop loop (reached.started loop), polls]
  simp only [lane, held]
  rw [taken]
  rfl

/-- **The tick of a type** is a matter of its lane. -/
theorem lane_tick (reached : s.host.Reachable) (asleep : s.host.sleeper? t = some (l, due)) :
    (w.lane s t).tick (env.only t) s.host.now =
      (w.lane ⟨s.host.loopTick l (env.paused l.handler s.host.now)
          (env.identity l.handler s.host.now), s.server⟩ t,
        s.tickSights (.host (.loopTicks t (env.paused l.handler s.host.now)
          (env.identity l.handler s.host.now))) t) := by
  obtain ⟨loop, own, stage⟩ := stage_of_sleeper (w := w) reached asleep
  have stopping : (w.lane s t).stopping = s.host.dispatcher.stopping := rfl
  have gate : (w.lane s t).gate.getD true = s.host.dispatcher.isAvailable := rfl
  have slots : (w.lane s t).slots = s.host.dispatcher.slots.get? t := rfl
  have paused : (env.only t).paused l.handler s.host.now = env.paused l.handler s.host.now := by
    simp [Surroundings.only, own]
  have identity : (env.only t).identity l.handler s.host.now =
      env.identity l.handler s.host.now := if_pos own
  simp only [Lane.tick, stage, stopping, gate, slots, paused, identity]
  split_ifs with stops closed pauses
  · refine lane_over reached asleep s.host.dispatcher.tally rfl ?_
    simp only [Dispatcher.beginTick, if_pos stops]
  · refine lane_over reached asleep s.host.dispatcher.tally rfl ?_
    simp only [Dispatcher.beginTick, if_neg stops, if_pos closed]
  · refine lane_over reached asleep s.host.dispatcher.tally rfl ?_
    simp only [Dispatcher.beginTick, if_neg stops, if_neg closed, if_pos pauses]
  · cases free : (s.host.dispatcher.slots.get? t).bind Slots.acquire? with
    | none =>
      refine lane_over reached asleep s.host.dispatcher.tally.noSlot rfl ?_
      simp only [Dispatcher.beginTick, if_neg stops, if_neg closed, if_neg pauses,
        Dispatcher.acquire?_eq, own, free, Option.map_none]
      rfl
    | some held =>
      refine lane_sent reached asleep rfl ?_
      simp only [Dispatcher.beginTick, if_neg stops, if_neg closed, if_neg pauses,
        Dispatcher.acquire?_eq, own, free, Option.map_some]

/-! ## The poll of a type -/

variable {k : Tick α}

theorem stage_of_tick (reached : s.host.Reachable)
    (found : s.host.dispatcher.tick? k.id = some k) :
    (w.lane s k.handler.taskType).stage = .polling k.handler k.workerId k.domain k.since := by
  obtain ⟨l, loop, state, -⟩ := reached.loop_of_tick found
  simp only [lane, Host.stage, if_neg (reached.started loop), loop, Dispatcher.stageOf, state, found]

/-- The stage of a loop whose poll was answered. -/
theorem stage_answerPoll (reached : s.host.Reachable)
    (found : s.host.dispatcher.tick? k.id = some k) (answer : Except ServerError (Option Task)) :
    (s.host.answerPoll k answer).2.stage k.handler.taskType =
      Lane.restStage k.handler s.host.now (s.host.dispatcher.answerPoll k answer).1 := by
  obtain ⟨l, loop, state, handler⟩ := reached.loop_of_tick found
  have answered : (s.host.answerPoll k answer).2 =
      { s.host with dispatcher := (s.host.dispatcher.answerPoll k answer).2 }.afterTick k.id
        (s.host.dispatcher.answerPoll k answer).1 := rfl
  have now : (s.host.dispatcher.answerPoll k answer).2.now = s.host.now := by
    rcases answer with _ | _ | _ <;> rfl
  have turned : (s.host.answerPoll k answer).2.loop? k.handler.taskType =
      some { l with state :=
        if (s.host.dispatcher.answerPoll k answer).1 = TickOutcome.shuttingDown then .ended
        else .sleeping (s.host.now + l.handler.interval.ticks) } := by
    have before : { s.host with dispatcher := (s.host.dispatcher.answerPoll k answer).2 }.loop?
        k.handler.taskType = some l := loop
    rw [answered, Host.loop?_afterTick, before, Option.map_some, if_pos state, Host.resting,
      Host.now, now]
  rw [Host.stage, turned, Lane.restStage, ← handler]
  refine (if_neg (reached.started loop)).trans ?_
  simp only [Dispatcher.stageOf]
  split_ifs <;> rfl

/-- What a lane does with an answer is what the dispatcher does with it. -/
theorem answer_eq (watched : Watched w s k.handler.taskType)
    (answer : Except ServerError (Option Task)) {server : Server}
    (failPolls : server.failPolls = s.server.failPolls) :
    let s' : Site α := ⟨(s.host.answerPoll k answer).2, server⟩
    { w.lane s k.handler.taskType with
        waiting := server.waitingFor k.handler.taskType }.answer k.handler k.workerId s.host.now
          answer =
      ((s.host.dispatcher.answerPoll k answer).1,
        { (w.after s s' (some .served)).lane s' k.handler.taskType with
          stage := (w.lane s k.handler.taskType).stage }) := by
  intro s'
  have released : ((s.host.dispatcher.dropTick k).release k.handler.taskType).slots.get?
      k.handler.taskType = (s.host.dispatcher.slots.get? k.handler.taskType).map Slots.release :=
    (Dispatcher.get?_release ..).trans (if_pos rfl)
  have told : s'.server.failPolls = s.server.failPolls := failPolls
  -- An answer without a task gives the slot back; a task begins an execution in the next place.
  rcases answer with error | task | task
  · have slots : s'.host.dispatcher.slots.get? k.handler.taskType =
        (s.host.dispatcher.slots.get? k.handler.taskType).map Slots.release := released
    have same : w.after s s' (some .served) = w := if_neg (Nat.lt_irrefl _)
    simp only [same, lane, slots, told]
    rfl
  · have slots : s'.host.dispatcher.slots.get? k.handler.taskType =
        (s.host.dispatcher.slots.get? k.handler.taskType).map Slots.release := released
    have same : w.after s s' (some .served) = w := if_neg (Nat.lt_irrefl _)
    simp only [same, lane, slots, told]
    rfl
  · have born : w.after s s' (some .served) = w.born (s.host.dispatcher.dispatched + 1) :=
      if_pos (Nat.lt_succ_self _)
    have fresh : s.host.dispatcher.dispatched + 1 ∉ w.births := fun known =>
      Nat.not_succ_le_self _ (watched.named _ known)
    have executions : (w.born (s.host.dispatcher.dispatched + 1)).executions s'.host.dispatcher
        k.handler.taskType = w.executions s.host.dispatcher k.handler.taskType ++
          [⟨w.births.length, k.handler, k.workerId, task, .handling s.host.now⟩] :=
      executions_dispatch (d := s.host.dispatcher.dropTick k) rfl watched.births fresh
    have births : (w.born (s.host.dispatcher.dispatched + 1)).births.length =
        w.births.length + 1 := List.length_append
    simp only [born, lane, executions, births, told]
    rfl

/-- **The poll of a type** is a matter of its lane. -/
theorem lane_serve (watched : Watched w s k.handler.taskType)
    (found : s.host.dispatcher.tick? k.id = some k) {answer : Except ServerError (Option Task)}
    {server : Server}
    (answered : s.server.poll k.handler.taskType k.workerId k.domain = (answer, server)) :
    let s' : Site α := ⟨(s.host.answerPoll k answer).2, server⟩
    (w.lane s k.handler.taskType).serve s.host.now =
      ((w.after s s' (some .served)).lane s' k.handler.taskType,
        s.tickSights (.pollServed k.id) k.handler.taskType ++
          s.pollSights s' k.handler.taskType) := by
  intro s'
  have record := Server.poll_record answered
  obtain ⟨own, same, waits⟩ := Server.poll_own answered
  have failPolls : server.failPolls = s.server.failPolls := by rw [record]
  have heard : s.hostEvent? (.pollServed k.id) = some (.pollAnswered k.id answer) := by
    simp only [Site.hostEvent?, Site.effect?, found, Option.map_some, answered]
    rfl
  have ticks : s.tickSights (.pollServed k.id) k.handler.taskType =
      [.ticked (s.host.dispatcher.answerPoll k answer).1] := by
    simp only [Site.tickSights, heard, Option.bind_some, Host.tickOver?, found, Option.map_some,
      if_true]
  have polls : s.pollSights s' k.handler.taskType =
      [.polled ⟨k.handler.taskType, k.workerId, k.domain⟩] := by
    have more : s'.server.polls =
        s.server.polls ++ [⟨k.handler.taskType, k.workerId, k.domain⟩] :=
      congrArg Server.polls record
    rw [Site.pollSights_append more, if_pos rfl]
  have taken := answer_eq watched answer failPolls
  rw [← waits] at taken
  have stage := stage_answerPoll watched.reached found answer
  rw [ticks, polls, Lane.serve_eq (stage_of_tick watched.reached found) same taken, ← stage]
  rfl

/-! ## The executions of a type -/

variable {x : Execution α}

/-- An execution is found in its place of the lane. -/
theorem execution?_lane (watched : Watched w s t) (mem : x ∈ s.host.dispatcher.executions)
    (own : x.handler.taskType = t) :
    (w.lane s t).execution? (w.place x.number) = some (w.placed x) :=
  find?_place watched.reached.orderly watched.births mem own

/-- **The end of a handler's work** is a matter of the type's lane. -/
theorem lane_finish (watched : Watched w s t) (mem : x ∈ s.host.dispatcher.executions)
    (own : x.handler.taskType = t) {since : Nat} (phase : x.phase = .handling since)
    {stamp : Moment} {d : Dispatcher α}
    (done : s.host.dispatcher.handlerDone x (env.work x.handler x.task since).2
      (.returned (env.identity x.handler s.host.now)) stamp = d) :
    w.lane ⟨{ s.host with dispatcher := d }, s.server⟩ t =
      (w.lane s t).finish (env.only t) s.host.now (w.place x.number) := by
  subst done
  have place := execution?_lane watched mem own
  have placed : (w.placed x).phase = .handling since := by
    rw [Watch.placed, phase]
    rfl
  -- The result in the lane comes from the type's own surroundings, without its log times.
  have result : (Phase.reporting (((env.work x.handler x.task since).2.result x.task stamp).signedBy
      (s.host.dispatcher.workerIdFor (env.identity x.handler s.host.now))) 1 s.host.now).untimed =
      .reporting ((w.lane s t).resultOf (env.only t) (w.placed x) since s.host.now) 1
        s.host.now := by
    have work : ((env.only t).work x.handler x.task since).2 =
        (env.work x.handler x.task since).2.untimed := by
      simp only [Surroundings.only, if_pos own]
    have identity : (env.only t).identity x.handler s.host.now =
      env.identity x.handler s.host.now := if_pos own
    simp only [Phase.untimed, Lane.resultOf, Watch.placed, work, identity,
      TaskResult.untimed_signedBy, Outcome.untimed_result _ x.task stamp]
    rfl
  have executions : w.executions (s.host.dispatcher.handlerDone x
      (env.work x.handler x.task since).2 (.returned (env.identity x.handler s.host.now)) stamp) t =
      ((w.lane s t).setPhase (w.place x.number) (.reporting
        ((w.lane s t).resultOf (env.only t) (w.placed x) since s.host.now) 1
          s.host.now)).executions := by
    rw [Lane.setPhase, ← result]
    exact executions_setPhase watched.births _
  simp only [Lane.finish, place, placed]
  rw [lane, executions]
  rfl

/-- **A report that is taken** is a matter of the type's lane. -/
theorem lane_deliver (watched : Watched w s t) (mem : x ∈ s.host.dispatcher.executions)
    (own : x.handler.taskType = t) {result : TaskResult} {attempt since : Nat}
    (phase : x.phase = .reporting result attempt since) (told : Dispatcher.Callback Unit)
    {server : Server} (waiting : server.waiting = s.server.waiting)
    (failPolls : server.failPolls = s.server.failPolls) {d : Dispatcher α}
    (ended : s.host.dispatcher.reportAnswered x result attempt (.ok ()) told = d) :
    (w.lane s t).deliver (w.place x.number) =
      (w.lane ⟨{ s.host with dispatcher := d }, server⟩ t, [.accepted result.untimed]) := by
  subst ended
  have place := execution?_lane watched mem own
  have placed : (w.placed x).phase = .reporting result.untimed attempt since := by
    rw [Watch.placed, phase]
    rfl
  have executions : w.executions (s.host.dispatcher.reportAnswered x result attempt (.ok ()) told)
      t = (w.executions s.host.dispatcher t).filter fun y => y.number ≠ w.place x.number :=
    executions_closeExecution watched.births (.delivered (.reported attempt))
  have slots : (s.host.dispatcher.reportAnswered x result attempt (.ok ()) told).slots.get? t =
      (s.host.dispatcher.slots.get? t).map Slots.release :=
    (Dispatcher.get?_release ..).trans (if_pos own.symm)
  simp only [Lane.deliver, place, placed]
  simp only [lane, slots, executions, failPolls, Server.waitingFor, waiting]
  rfl

/-! ## Calls -/

theorem stage_started (started : s.host.status ≠ .created) :
    (w.lane s t).stage ≠ .unstarted := by
  simp only [lane, Host.stage, if_neg started]
  intro unstarted
  cases loop : s.host.loop? t with
  | none =>
    rw [loop] at unstarted
    cases unstarted
  | some l =>
    simp only [loop, Dispatcher.stageOf] at unstarted
    split at unstarted
    · cases unstarted
    · split at unstarted <;> cases unstarted
    · cases unstarted

/-- **The start of a host** is heard by the type's lane. -/
theorem lane_init (inRuntime : Bool) :
    w.lane ⟨(s.host.init inRuntime).2, s.server⟩ t =
      (w.lane s t).heed s.host.now (.init inRuntime) := by
  cases inRuntime with
  | false => rfl
  | true =>
    by_cases created : s.host.status = .created
    · have unstarted : (w.lane s t).stage = .unstarted := if_pos created
      have begun : (s.host.init true).2 = { s.host with
          status := .running
          loops := s.host.handlers.map fun g => ⟨g, s.host.resting g⟩ } := by
        simp only [Host.init, created]
        rfl
      have stage : (s.host.init true).2.stage t = (w.lane s t).startStage s.host.now := by
        have running : HostStatus.running ≠ .created := by decide
        rw [begun, Host.stage, if_neg running, Host.loop?, List.find?_map, Lane.startStage]
        simp only [lane, Function.comp_def]
        cases s.host.handlers.find? fun g => g.taskType = t <;> rfl
      simp only [Lane.heed, unstarted]
      rw [lane, stage, begun]
      rfl
    · have same : (s.host.init true).2 = s.host := by
        simp only [Host.init, Bool.not_true, Bool.false_eq_true, if_false]
        split
        · rename_i status
          exact absurd status created
        · rfl
        · rfl
        · rfl
      rw [same, Lane.heed_init (stage_started created)]

end Watch

end TaskWorker
