import TaskWorker.Proofs.ExactClock
import TaskWorker.Proofs.WholeTicks
/-!
# The cadence of a handler

The loop of a handler rests for the handler's interval before each of its ticks. So on an exact
clock its ticks come an interval apart, and later by as long as those before them waited for their
polls. Nothing else delays them; above all, the executions that they hand tasks to do not.

* `Host.tickBegun?`, `Host.tickDone?`, `Host.tickCrash?`, what is seen of the ticks of a type;
  `Host.tickTime`, when a tick is due;
* `Host.Pace`, what an event does to the loop of a type; `Host.step?_pace`: every event does so;
* `Host.Cadence`, the ticks so far and where the loop stands; **`Host.cadence_of_started`**: so it
  is after every run on an exact clock;
* `Host.Reachable.countP_ticks_le_one`: no type has two polls out;
* **`Host.ticks_on_time`**.
-/

namespace TaskWorker

variable {α : Type}

/-- The polls that a loop waits for. -/
def Stage.out : Stage α → Nat
  | .polling _ _ _ _ => 1
  | _ => 0

theorem Stage.out_le_one (s : Stage α) : s.out ≤ 1 := by
  cases s <;> simp [out]

theorem Dispatcher.beginTick_over {d d' : Dispatcher α} {g : Handler α} {paused : Bool}
    {identity : Option String} {outcome : TickOutcome}
    (begun : d.beginTick g paused identity = (.over outcome, d')) :
    d'.now = d.now ∧ (outcome = .shuttingDown → d.stopping = true) := by
  simp only [beginTick] at begun
  split_ifs at begun with stopping
  · cases begun
    exact ⟨rfl, fun _ => stopping⟩
  · cases begun
    exact ⟨rfl, fun other => by cases other⟩
  · cases begun
    exact ⟨rfl, fun other => by cases other⟩
  · split at begun
    · cases begun
      exact ⟨rfl, fun other => by cases other⟩
    · cases begun

namespace Host

variable {h₀ h h₁ h' k : Host α} {e : Event} {es fs : List Event} {t : String} {g : Handler α}
  {handlers : List (Handler α)} {settings : Settings}

/-! ## What is seen of ticks -/

/-- A panic in a tick, before its poll or in it. -/
def Event.isCrash : Event → Bool
  | .loopPanics _ | .pollPanics _ => true
  | _ => false

/-- When a tick of a type begins, if one begins with an event. -/
def tickBegun? (t : String) (h : Host α) (e : Event) : Option Nat :=
  if h.loopOf? e = some t then
    match e with
    | .loopTicks _ _ _ | .loopPanics _ => some h.now
    | _ => none
  else none

/-- When a tick of a type ends, if one ends with an event, and how long it waited for its poll. A
tick that ends before its poll does not wait. -/
def tickDone? (t : String) (h : Host α) (e : Event) : Option (Nat × Nat) :=
  if h.loopOf? e = some t then
    match e with
    | .loopTicks u paused identity =>
      (h.tickOver? (.loopTicks u paused identity)).map fun _ => (h.now, 0)
    | .loopPanics _ => some (h.now, 0)
    | .pollAnswered id _ | .pollCut id | .pollPanics id =>
      (h.dispatcher.tick? id).map fun k => (h.now, h.now - k.since)
    | _ => none
  else none

/-- When a tick of a type panics, if an event is such a panic. -/
def tickCrash? (t : String) (h : Host α) (e : Event) : Option Nat :=
  if h.loopOf? e = some t ∧ e.isCrash = true then some h.now else none

/-- When the tick of a number is due, from zero on: each comes an interval after the one before it
is over. -/
def tickTime (start interval : Nat) (waits : List Nat) (n : Nat) : Nat :=
  start + (n + 1) * interval + (waits.take n).sum

section TickTime

variable {start interval n wait : Nat} {waits : List Nat}

theorem tickTime_append (known : n ≤ waits.length) (more : List Nat) :
    tickTime start interval (waits ++ more) n = tickTime start interval waits n := by
  rw [tickTime, tickTime, List.take_append_of_le_length known]

theorem tickTime_succ (waited : waits[n]? = some wait) :
    tickTime start interval waits (n + 1) = tickTime start interval waits n + wait + interval := by
  rw [tickTime, tickTime, List.take_add_one, waited, Option.toList_some, List.sum_append,
    List.sum_singleton, Nat.add_mul _ 1, Nat.one_mul]
  omega

end TickTime

/-! ## What events do to the loop of a type -/

/-- The loop of a type rests after a tick, unless it is told to stop or the tick panicked. -/
def Rests (t : String) (g : Handler α) (h : Host α) (e : Event) (h' : Host α) : Prop :=
  h'.stage t = .sleeping g (h.now + g.interval.ticks) ∨
    h'.stage t = .ended ∧ (h.dispatcher.stopping = true ∨ h.tickCrash? t e = some h.now)

/-- **What an event does to the loop of a type.** -/
inductive Pace (t : String) (h : Host α) (e : Event) (h' : Host α) : Prop where
  | stays (begun : h.tickBegun? t e = none) (done : h.tickDone? t e = none)
      (stage : h'.stage t = h.stage t)
  | stops (g : Handler α) (due : Nat) (asleep : h.stage t = .sleeping g due)
      (begun : h.tickBegun? t e = none) (done : h.tickDone? t e = none)
      (stopping : h.dispatcher.stopping = true) (stage : h'.stage t = .ended)
  /-- A tick that is over before its poll. -/
  | passes (g : Handler α) (due : Nat) (asleep : h.stage t = .sleeping g due) (late : due ≤ h.now)
      (begun : h.tickBegun? t e = some h.now) (done : h.tickDone? t e = some (h.now, 0))
      (rests : Rests t g h e h')
  | polls (g : Handler α) (due : Nat) (workerId : String) (domain : Option String)
      (asleep : h.stage t = .sleeping g due) (late : due ≤ h.now)
      (begun : h.tickBegun? t e = some h.now) (done : h.tickDone? t e = none)
      (stage : h'.stage t = .polling g workerId domain h.now)
  | returns (g : Handler α) (since : Nat) (workerId : String) (domain : Option String)
      (polling : h.stage t = .polling g workerId domain since) (begun : h.tickBegun? t e = none)
      (done : h.tickDone? t e = some (h.now, h.now - since)) (rests : Rests t g h e h')

theorem Pace.of_other (other : h.loopOf? e ≠ some t) (stage : h'.stage t = h.stage t) :
    h.Pace t e h' :=
  .stays (if_neg other) (if_neg other) stage

theorem step?_started (started : h.status ≠ .created) (step : h.step? e = some h') :
    h'.status ≠ .created := by
  cases (step?_lifeTurn step).2 with
  | stays _ _ _ status _ _ => rwa [status]
  | starts _ created _ _ _ => exact absurd created started
  | shuts _ _ _ status _ | forces _ _ status _ _ _ =>
    rw [status]
    nofun
  | drains _ _ finished =>
    rw [finished]
    nofun

/-- Where the loop of a type stands is a matter of its state and of the tick that it waits for. -/
theorem stage_eq_of_loop? (started : h.status ≠ .created) (started' : h'.status ≠ .created)
    (loop : h'.loop? t = h.loop? t)
    (tick : ∀ l id, h.loop? t = some l → l.state = .polling id →
      h'.dispatcher.tick? id = h.dispatcher.tick? id) : h'.stage t = h.stage t := by
  rw [stage, stage, if_neg started, if_neg started', loop]
  cases found : h.loop? t with
  | none => rfl
  | some l =>
    cases state : l.state with
    | sleeping _ | ended => simp only [Dispatcher.stageOf, state]
    | polling id => simp only [Dispatcher.stageOf, state, tick l id found state]

/-- What is the turn of no loop, or of another one, leaves a loop where it is. -/
theorem stage_of_other (reached : h.Reachable) (started : h.status ≠ .created)
    (step : h.step? e = some h') (other : h.loopOf? e ≠ some t) : h'.stage t = h.stage t := by
  have started' := step?_started started step
  cases step?_loopTurn step with
  | stays _ loops ticks =>
    refine stage_eq_of_loop? started started' (by rw [loop?, loops, loop?]) fun _ id _ _ => ?_
    rw [Dispatcher.tick?, ticks, Dispatcher.tick?]
  | starts _ _ created _ _ _ => exact absurd created started
  | sleeper u _ _ state _ own _ _ loops ticks =>
    have apart : t ≠ u := fun same => other (same ▸ own)
    have loop : h'.loop? t = (h.setLoop u state).loop? t := by rw [loop?, loops, loop?]
    refine stage_eq_of_loop? started started'
      (loop.trans ((loop?_setLoop h u state t).trans (if_neg apart))) fun _ id _ _ => ?_
    rw [Dispatcher.tick?, ticks, Dispatcher.tick?]
  | polls u _ _ k' _ own _ _ loops ticks =>
    have apart : t ≠ u := fun same => other (same ▸ own)
    have loop : h'.loop? t = (h.setLoop u (.polling k'.id)).loop? t := by rw [loop?, loops, loop?]
    refine stage_eq_of_loop? started started'
      (loop.trans ((loop?_setLoop h u _ t).trans (if_neg apart))) fun _ id found polling => ?_
    obtain ⟨k, known, -⟩ := reached.tick_of_loop found polling
    rw [Dispatcher.tick?, ticks, List.find?_append]
    rw [Dispatcher.tick?] at known ⊢
    rw [known, Option.some_or]
  | wakes k' state mem own _ loops ticks =>
    have apart : k'.handler.taskType ≠ t := fun same => other (same ▸ own)
    have waits : ∀ l id, h.loop? t = some l → l.state = .polling id → id ≠ k'.id := by
      rintro l id found polling rfl
      obtain ⟨k, known, handler⟩ := reached.tick_of_loop found polling
      rw [Dispatcher.tick?_of_mem reached.orderly mem] at known
      cases known
      exact apart (by rw [handler, (loop?_eq_some found).2])
    refine stage_eq_of_loop? started started' ?_ fun l id found polling => ?_
    · have awake : ∀ l : PollLoop α, (wakeLoop k'.id state l).handler = l.handler := by
        intro l
        rw [wakeLoop]
        split_ifs <;> rfl
      rw [loop?, loops, List.find?_map]
      simp only [Function.comp_def, awake]
      refine (Option.map_congr fun l found => ?_).trans Option.map_id'
      exact if_neg fun polling => waits l _ found polling rfl
    · obtain ⟨k, known, -⟩ := reached.tick_of_loop found polling
      obtain ⟨mem', rfl⟩ := Dispatcher.mem_of_tick? known
      have there : k ∈ h'.dispatcher.ticks := by
        rw [ticks]
        exact List.mem_filter.mpr ⟨mem', decide_eq_true (waits l _ found polling)⟩
      rw [known, Dispatcher.tick?_of_mem (reached.step step).orderly there]

/-! ## The turns of a loop -/

theorem stage_of_sleeper? {l : PollLoop α} {due : Nat} (reached : h.Reachable)
    (asleep : h.sleeper? t = some (l, due)) : h.stage t = .sleeping l.handler due := by
  have loop := loop?_of_sleeper? asleep
  obtain ⟨-, -, state⟩ := sleeper?_eq_some asleep
  rw [stage, if_neg (reached.started loop), loop]
  simp only [Dispatcher.stageOf, state]

/-- The stage of a loop that was put into another state. -/
theorem stage_setLoop {l : PollLoop α} {d : Dispatcher α} (started : h.status ≠ .created)
    (loop : h.loop? t = some l) (state : LoopState) :
    ({ h with dispatcher := d }.setLoop t state).stage t =
      d.stageOf (some { l with state }) := by
  have turned : ({ h with dispatcher := d }.setLoop t state).loop? t = some { l with state } := by
    rw [loop?_setLoop, if_pos rfl]
    exact congrArg (Option.map _) loop
  rw [stage, turned]
  exact if_neg started

theorem stage_of_tick? {tick : Tick α} (reached : h.Reachable)
    (found : h.dispatcher.tick? tick.id = some tick) :
    h.stage tick.handler.taskType =
      .polling tick.handler tick.workerId tick.domain tick.since := by
  obtain ⟨l, loop, state, -⟩ := reached.loop_of_tick found
  rw [stage, if_neg (reached.started loop), loop]
  simp only [Dispatcher.stageOf, state, found]

/-- The stage of a loop after its poll. -/
theorem stage_afterTick {tick : Tick α} (reached : h.Reachable)
    (found : h.dispatcher.tick? tick.id = some tick) {d : Dispatcher α} (now : d.now = h.now)
    (outcome : TickOutcome) :
    ({ h with dispatcher := d }.afterTick tick.id outcome).stage tick.handler.taskType =
      if outcome = .shuttingDown then .ended
      else .sleeping tick.handler (h.now + tick.handler.interval.ticks) := by
  obtain ⟨l, loop, state, handler⟩ := reached.loop_of_tick found
  have before : { h with dispatcher := d }.loop? tick.handler.taskType = some l := loop
  rw [stage, loop?_afterTick, before, Option.map_some, if_pos state, ← handler]
  refine (if_neg (reached.started loop)).trans ?_
  split_ifs
  · rfl
  · simp only [Dispatcher.stageOf, resting, Host.now, now]

theorem pace_loopTick {l : PollLoop α} {due : Nat} {paused : Bool} {identity : Option String}
    (reached : h.Reachable) (asleep : h.sleeper? t = some (l, due)) (late : due ≤ h.now) :
    h.Pace t (.loopTicks t paused identity) (h.loopTick l paused identity) := by
  have loop := loop?_of_sleeper? asleep
  have started := reached.started loop
  obtain ⟨-, own⟩ := loop?_eq_some loop
  have begins : h.tickBegun? t (.loopTicks t paused identity) = some h.now := if_pos rfl
  have done : h.tickDone? t (.loopTicks t paused identity) =
      (h.tickOver? (.loopTicks t paused identity)).map fun _ => (h.now, 0) := if_pos rfl
  simp only [tickOver?, loop, Option.bind_some] at done
  rcases begun : h.dispatcher.beginTick l.handler paused identity with ⟨outcome | id, d⟩
  · obtain ⟨now, stops⟩ := Dispatcher.beginTick_over begun
    have ticked : h.loopTick l paused identity = { h with dispatcher := d }.setLoop t
        (if outcome = TickOutcome.shuttingDown then .ended
          else .sleeping (h.now + l.handler.interval.ticks)) := by
      simp only [loopTick, begun, own, resting, Host.now, now]
    simp only [begun, Option.map_some] at done
    refine .passes l.handler due (stage_of_sleeper? reached asleep) late begins done ?_
    rw [Rests, ticked, stage_setLoop started loop]
    split_ifs with shutting
    · exact .inr ⟨rfl, .inl (stops shutting)⟩
    · exact .inl rfl
  · have known := Dispatcher.tick?_of_beginTick reached.orderly begun
    have ticked : h.loopTick l paused identity =
        { h with dispatcher := d }.setLoop t (.polling id) := by
      simp only [loopTick, begun, own]
    simp only [begun] at done
    refine .polls l.handler due (h.dispatcher.workerIdFor identity)
      (h.dispatcher.settings.domainFor l.handler.taskType) (stage_of_sleeper? reached asleep) late
      begins done ?_
    rw [ticked, stage_setLoop started loop]
    simp only [Dispatcher.stageOf, known, Dispatcher.tickOf]
    rfl

theorem pace_afterTick {tick : Tick α} {d : Dispatcher α} {outcome : TickOutcome}
    (reached : h.Reachable) (found : h.dispatcher.tick? tick.id = some tick) (now : d.now = h.now)
    (ends : e.endsPoll? = some tick.id)
    (stops : outcome = .shuttingDown → h.dispatcher.stopping = true ∨ e.isCrash = true) :
    h.Pace tick.handler.taskType e ({ h with dispatcher := d }.afterTick tick.id outcome) := by
  have own : h.loopOf? e = some tick.handler.taskType := by
    cases e <;> cases ends <;> exact congrArg (Option.map _) found
  have begun : h.tickBegun? tick.handler.taskType e = none := by
    cases e <;> cases ends <;> exact if_pos own
  have done : h.tickDone? tick.handler.taskType e = some (h.now, h.now - tick.since) := by
    cases e <;> cases ends <;> exact (if_pos own).trans (congrArg (Option.map _) found)
  refine .returns tick.handler tick.since _ _ (stage_of_tick? reached found) begun done ?_
  rw [Rests, stage_afterTick reached found now]
  split_ifs with shutting
  · exact .inr ⟨rfl, (stops shutting).imp_right fun crash => if_pos ⟨own, crash⟩⟩
  · exact .inl rfl

theorem Reachable.stopping_of_forced (reached : h.Reachable) (forced : h.dispatcher.forced = true) :
    h.dispatcher.stopping = true := by
  have stopped := reached.lawful.forced forced
  obtain ⟨_, _, _, _, built, run⟩ := reached
  exact (run.closed built (.inr stopped)).1

/-- **Every event does one of these things to the loop of a type.** -/
theorem step?_pace (reached : h.Reachable) (started : h.status ≠ .created)
    (step : h.step? e = some h') (t : String) : h.Pace t e h' := by
  by_cases own : h.loopOf? e = some t
  swap
  · exact .of_other own (stage_of_other reached started step own)
  cases e with
  | loopStops u =>
    obtain rfl : u = t := Option.some.inj own
    simp only [step?] at step
    split at step
    · rename_i found asleep
      obtain ⟨l, due⟩ := found
      split_ifs at step with stopping
      cases step
      exact .stops l.handler due (stage_of_sleeper? reached asleep) (if_pos rfl) (if_pos rfl)
        stopping
        (stage_setLoop (d := h.dispatcher) started (loop?_of_sleeper? asleep) .ended)
    · cases step
  | loopTicks u paused identity =>
    obtain rfl : u = t := Option.some.inj own
    simp only [step?] at step
    split at step
    · rename_i l due asleep
      split_ifs at step with late
      cases step
      exact pace_loopTick reached asleep late
    · cases step
  | loopPanics u =>
    obtain rfl : u = t := Option.some.inj own
    simp only [step?] at step
    split at step
    · rename_i l due asleep
      split_ifs at step with late
      cases step
      exact .passes l.handler due (stage_of_sleeper? reached asleep) late (if_pos rfl) (if_pos rfl)
        (.inr ⟨stage_setLoop (d := h.dispatcher) started (loop?_of_sleeper? asleep) .ended,
          .inr (if_pos ⟨rfl, rfl⟩)⟩)
    · cases step
  | pollAnswered id answer =>
    simp only [step?, Option.map_eq_some_iff] at step
    obtain ⟨tick, found, rfl⟩ := step
    obtain ⟨-, rfl⟩ := Dispatcher.mem_of_tick? found
    simp only [loopOf?, found, Option.map_some, Option.some.injEq] at own
    subst own
    rcases answer with _ | _ | _ <;>
      exact pace_afterTick reached found rfl rfl fun other => by cases other
  | pollCut id =>
    simp only [step?] at step
    split at step
    · rename_i tick found
      split_ifs at step with forced
      cases step
      obtain ⟨-, rfl⟩ := Dispatcher.mem_of_tick? found
      simp only [loopOf?, found, Option.map_some, Option.some.injEq] at own
      subst own
      exact pace_afterTick reached found rfl rfl fun _ => .inl (reached.stopping_of_forced forced)
    · cases step
  | pollPanics id =>
    simp only [step?, Option.map_eq_some_iff] at step
    obtain ⟨tick, found, rfl⟩ := step
    obtain ⟨-, rfl⟩ := Dispatcher.mem_of_tick? found
    simp only [loopOf?, found, Option.map_some, Option.some.injEq] at own
    subst own
    exact pace_afterTick reached found rfl rfl fun _ => .inr rfl
  | _ => cases own

/-! ## Polls that are out -/

/-- **No type has two polls out.** -/
theorem Reachable.countP_ticks_le_one (reached : h.Reachable) (t : String) :
    h.dispatcher.ticks.countP (fun k => k.handler.taskType = t) ≤ 1 := by
  rw [List.countP_eq_length_filter]
  cases out : h.dispatcher.ticks.filter fun k => k.handler.taskType = t with
  | nil => exact Nat.zero_le _
  | cons k rest =>
    have same : ∀ k' ∈ k :: rest, k' = k := by
      have own : ∀ k' ∈ k :: rest, k' ∈ h.dispatcher.ticks ∧ k'.handler.taskType = t := by
        intro k' mem
        rw [← out] at mem
        obtain ⟨mem, type⟩ := List.mem_filter.mp mem
        exact ⟨mem, of_decide_eq_true type⟩
      intro k' mem'
      obtain ⟨mem, type⟩ := own k List.mem_cons_self
      obtain ⟨mem', type'⟩ := own k' mem'
      obtain ⟨l, hl, polling, -⟩ := reached.looped.waiting k mem
      have own := (reached.looped.polling_iff reached.orderly mem hl).mp polling
      have polling' := (reached.looped.polling_iff reached.orderly mem' hl).mpr
        (type'.trans (type.symm.trans own))
      rw [polling] at polling'
      exact List.inj_on_of_nodup_map reached.orderly.ids mem' mem
        (LoopState.polling.inj polling').symm
    have nodup : (k :: rest).Nodup := out ▸ (List.Nodup.of_map _ reached.orderly.ids).filter _
    rw [List.eq_replicate_of_mem same, List.nodup_replicate] at nodup
    exact nodup

/-- The polls of a type that are out are those that its loop waits for. -/
theorem Reachable.countP_ticks (reached : h.Reachable) (t : String) :
    h.dispatcher.ticks.countP (fun k => k.handler.taskType = t) = (h.stage t).out := by
  have most := reached.countP_ticks_le_one t
  have waits : 0 < h.dispatcher.ticks.countP (fun k => k.handler.taskType = t) →
      (h.stage t).out = 1 := by
    intro some
    obtain ⟨k, mem, type⟩ := List.countP_pos_iff.mp some
    obtain rfl := of_decide_eq_true type
    rw [stage_of_tick? reached (Dispatcher.tick?_of_mem reached.orderly mem)]
    rfl
  cases stage : h.stage t with
  | polling g _ _ _ =>
    obtain ⟨own, k, mem, rfl, -⟩ := tick_of_polling reached stage
    have some : 0 < h.dispatcher.ticks.countP (fun k => k.handler.taskType = t) :=
      List.countP_pos_iff.mpr ⟨k, mem, decide_eq_true own⟩
    exact Nat.le_antisymm most some
  | unstarted | sleeping _ _ | ended =>
    refine Nat.eq_zero_of_not_pos fun some => ?_
    have one := waits some
    rw [stage] at one
    cases one

/-! ## Ticks on time -/

/-- The ticks of a handler from the start of its loop on, those that have begun and those that are
over, and where its loop stands after them. -/
structure Cadence (g : Handler α) (start : Nat) (begun : List Nat) (done : List (Nat × Nat))
    (crashes : List Nat) (h : Host α) : Prop where
  begins : ∀ n (time : Nat), begun[n]? = some time →
    time = tickTime start g.interval.ticks (done.map Prod.snd) n
  ends : ∀ n (finish wait : Nat), done[n]? = some (finish, wait) →
    finish = tickTime start g.interval.ticks (done.map Prod.snd) n + wait
  length : begun.length = done.length + (h.stage g.taskType).out
  asleep : ∀ g' due, h.stage g.taskType = .sleeping g' due → g' = g ∧
    due = tickTime start g.interval.ticks (done.map Prod.snd) done.length ∧ h.now ≤ due
  polling : ∀ g' workerId domain since, h.stage g.taskType = .polling g' workerId domain since →
    g' = g ∧ since = tickTime start g.interval.ticks (done.map Prod.snd) done.length ∧
      since ≤ h.now
  ended : h.stage g.taskType = .ended → h.dispatcher.stopping = true ∨ crashes ≠ []
  started : h.stage g.taskType ≠ .unstarted

theorem getElem?_snoc {β : Type} {l : List β} {a b : β} {n : Nat}
    (found : (l ++ [a])[n]? = some b) : l[n]? = some b ∨ n = l.length ∧ b = a := by
  rcases Nat.lt_or_ge n l.length with old | new
  · rw [List.getElem?_append_left old] at found
    exact .inl found
  · rw [List.getElem?_append_right new, List.getElem?_singleton] at found
    split_ifs at found with last
    exact .inr ⟨by omega, (Option.some.inj found).symm⟩

section Step

variable {start wait : Nat} {begun begun' crashes : List Nat} {done : List (Nat × Nat)}

theorem Cadence.begins_append (cadence : Cadence g start begun done crashes h)
    (more : List (Nat × Nat)) (n time : Nat) (found : begun[n]? = some time) :
    time = tickTime start g.interval.ticks ((done ++ more).map Prod.snd) n := by
  obtain ⟨small, -⟩ := List.getElem?_eq_some_iff.mp found
  have out := (h.stage g.taskType).out_le_one
  have known : n ≤ (done.map Prod.snd).length := by
    have := cadence.length
    rw [List.length_map]
    omega
  rw [List.map_append, tickTime_append known]
  exact cadence.begins n time found

/-- A loop that sleeps no longer has slept just long enough, and no tick is under way. -/
theorem Cadence.awake (cadence : Cadence g start begun done crashes h) {g' : Handler α} {due : Nat}
    (asleep : h.stage g.taskType = .sleeping g' due) (late : due ≤ h.now) :
    g' = g ∧ h.now = tickTime start g.interval.ticks (done.map Prod.snd) done.length ∧
      begun.length = done.length := by
  obtain ⟨same, time, ahead⟩ := cadence.asleep g' due asleep
  have length := cadence.length
  rw [asleep] at length
  exact ⟨same, (Nat.le_antisymm ahead late).trans time, length⟩

/-- A tick that begins when it is due. -/
theorem Cadence.begins_snoc (cadence : Cadence g start begun done crashes h)
    (length : begun.length = done.length)
    (due : h.now = tickTime start g.interval.ticks (done.map Prod.snd) done.length)
    (more : List (Nat × Nat)) (n time : Nat) (found : (begun ++ [h.now])[n]? = some time) :
    time = tickTime start g.interval.ticks ((done ++ more).map Prod.snd) n := by
  rcases getElem?_snoc found with old | ⟨rfl, rfl⟩
  · exact cadence.begins_append more n time old
  · rw [length, List.map_append, tickTime_append (List.length_map _).ge]
    exact due

/-- **A tick that is over leaves the next one to come an interval later.** -/
theorem Cadence.after (cadence : Cadence g start begun done crashes h)
    (time : h.now = tickTime start g.interval.ticks (done.map Prod.snd) done.length + wait)
    (begins : ∀ n (time : Nat), begun'[n]? = some time →
      time = tickTime start g.interval.ticks ((done ++ [(h.now, wait)]).map Prod.snd) n)
    (length : begun'.length = done.length + 1) (rests : Rests g.taskType g h e h')
    (now : h'.now = h.now)
    (stopping : h.dispatcher.stopping = true → h'.dispatcher.stopping = true) :
    Cadence g start begun' (done ++ [(h.now, wait)])
      (crashes ++ (h.tickCrash? g.taskType e).toList) h' := by
  have same (n : Nat) (known : n ≤ done.length) :
      tickTime start g.interval.ticks ((done ++ [(h.now, wait)]).map Prod.snd) n =
        tickTime start g.interval.ticks (done.map Prod.snd) n := by
    rw [List.map_append]
    exact tickTime_append (by rwa [List.length_map]) _
  have next : tickTime start g.interval.ticks ((done ++ [(h.now, wait)]).map Prod.snd)
      (done.length + 1) = h.now + g.interval.ticks := by
    have waited : ((done ++ [(h.now, wait)]).map Prod.snd)[done.length]? = some wait := by simp
    rw [tickTime_succ waited, same _ (Nat.le_refl _), ← time]
  refine ⟨begins, fun n finish w found => ?_, ?_, fun g' due asleep => ?_,
    fun g' _ _ since polling => ?_, fun ended => ?_, fun unstarted => ?_⟩
  · rcases getElem?_snoc found with old | ⟨rfl, last⟩
    · obtain ⟨small, -⟩ := List.getElem?_eq_some_iff.mp old
      rw [same n (Nat.le_of_lt small)]
      exact cadence.ends n finish w old
    · cases last
      rw [same _ (Nat.le_refl _)]
      exact time
  · have out : (h'.stage g.taskType).out = 0 := by
      rcases rests with stage | ⟨stage, -⟩ <;> rw [stage] <;> rfl
    rw [length, out, List.length_append, List.length_singleton, Nat.add_zero]
  · rcases rests with stage | ⟨stage, -⟩
    · rw [stage] at asleep
      cases asleep
      rw [List.length_append, List.length_singleton, next, now]
      exact ⟨rfl, rfl, Nat.le_add_right _ _⟩
    · rw [stage] at asleep
      cases asleep
  · rcases rests with stage | ⟨stage, -⟩ <;> rw [stage] at polling <;> cases polling
  · rcases rests with stage | ⟨-, stopped | crash⟩
    · rw [stage] at ended
      cases ended
    · exact .inl (stopping stopped)
    · refine .inr fun none => ?_
      rw [crash] at none
      simp at none
  · rcases rests with stage | ⟨stage, -⟩ <;> rw [stage] at unstarted <;> cases unstarted

theorem step?_now_of_own (step : h.step? e = some h') (own : h.loopOf? e = some t) :
    h'.now = h.now := by
  rw [step?_now step]
  cases e <;> first | (cases own; done) | rfl

/-- What is seen of the ticks of a type is the turn of its loop. -/
theorem own_of_seen {β : Type} {seen? : Option β} {seen : β}
    (sees : (if h.loopOf? e = some t then seen? else none) = some seen) :
    h.loopOf? e = some t := by
  by_contra other
  rw [if_neg other] at sees
  cases sees

/-- **An event on an exact clock keeps the cadence.** -/
theorem Cadence.step (cadence : Cadence g start begun done crashes h)
    (pace : h.Pace g.taskType e h') (step : h.step? e = some h') (permitted : h.permits e = true) :
    Cadence g start (begun ++ (h.tickBegun? g.taskType e).toList)
      (done ++ (h.tickDone? g.taskType e).toList)
      (crashes ++ (h.tickCrash? g.taskType e).toList) h' := by
  have stopping : h.dispatcher.stopping = true → h'.dispatcher.stopping = true :=
    fun stopping => ((step?_move step).no_poll stopping).1
  have crashed : crashes ≠ [] → crashes ++ (h.tickCrash? g.taskType e).toList ≠ [] :=
    fun some => List.append_ne_nil_of_left_ne_nil some _
  cases pace with
  | stays begins ends stage =>
    simp only [begins, ends, Option.toList_none, List.append_nil]
    refine ⟨cadence.begins, cadence.ends, stage ▸ cadence.length, fun g' due asleep => ?_,
      fun g' _ _ since polling => ?_, fun ended => ?_, stage ▸ cadence.started⟩
    · rw [stage] at asleep
      obtain ⟨l, mem, sleeping⟩ := loop_of_sleeping asleep
      obtain ⟨own, due, ahead⟩ := cadence.asleep g' due asleep
      exact ⟨own, due, now_le_of_permits step permitted (timer_of_loop mem sleeping) ahead⟩
    · rw [stage] at polling
      obtain ⟨own, begun, past⟩ := cadence.polling g' _ _ since polling
      have := step?_now step
      exact ⟨own, begun, by omega⟩
    · exact (cadence.ended (stage ▸ ended)).imp stopping crashed
  | stops g' due asleep begins ends stops stage =>
    have length := cadence.length
    rw [asleep] at length
    simp only [begins, ends, Option.toList_none, List.append_nil]
    refine ⟨cadence.begins, cadence.ends, by rw [stage]; exact length, ?_, ?_,
      fun _ => .inl (stopping stops), ?_⟩
    all_goals
      rw [stage]
      nofun
  | passes g' due asleep late begins ends rests =>
    obtain ⟨rfl, time, length⟩ := cadence.awake asleep late
    simp only [begins, ends, Option.toList_some]
    refine cadence.after time (cadence.begins_snoc length time _) ?_ rests
      (step?_now_of_own step (own_of_seen begins)) stopping
    rw [List.length_append, List.length_singleton, length]
  | polls g' due workerId domain asleep late begins ends stage =>
    obtain ⟨rfl, time, length⟩ := cadence.awake asleep late
    simp only [begins, ends, Option.toList_some, Option.toList_none, List.append_nil]
    have begun := cadence.begins_snoc length time []
    rw [List.append_nil] at begun
    refine ⟨begun, cadence.ends, ?_, ?_, ?_, ?_, ?_⟩
    · rw [stage, List.length_append, List.length_singleton, length]
      rfl
    · rw [stage]
      nofun
    · rintro _ _ _ since polling
      rw [stage] at polling
      cases polling
      exact ⟨rfl, time, (step?_now_of_own step (own_of_seen begins)).ge⟩
    · rw [stage]
      nofun
    · rw [stage]
      nofun
  | returns g' since workerId domain polling begins ends rests =>
    obtain ⟨rfl, time, past⟩ := cadence.polling g' _ _ since polling
    have length := cadence.length
    rw [polling] at length
    simp only [begins, ends, Option.toList_none, Option.toList_some, List.append_nil]
    refine cadence.after ?_ (cadence.begins_append _) length rests
      (step?_now_of_own step (own_of_seen ends)) stopping
    rw [← time]
    omega

end Step

theorem loops_of_started (created : h.status = .created)
    (started : h.step? (.init true) = some h₁) :
    h₁.status = .running ∧ h₁.loops = h.handlers.map fun g => ⟨g, h.resting g⟩ := by
  simp only [step?] at started
  split_ifs at started
  obtain rfl := Option.some.inj started
  rw [init, created]
  exact ⟨rfl, rfl⟩

/-- **A loop that is started has its first tick before it.** -/
theorem Cadence.of_init (reached : h.Reachable) (created : h.status = .created)
    (started : h.step? (.init true) = some h₁) (mem : g ∈ h.handlers) :
    Cadence g h.now [] [] [] h₁ := by
  have now := step?_now started
  obtain ⟨running, loops⟩ := loops_of_started created started
  have types : (h₁.loops.map fun l => l.handler.taskType).Nodup :=
    (reached.step started).looped.types
  have loop : h₁.loop? g.taskType = some ⟨g, h.resting g⟩ := by
    have mem : (⟨g, h.resting g⟩ : PollLoop α) ∈ h₁.loops := by
      rw [loops]
      exact List.mem_map_of_mem mem
    exact find?_key (fun l : PollLoop α => l.handler.taskType) types mem
  have stage : h₁.stage g.taskType = .sleeping g (h.now + g.interval.ticks) := by
    rw [Host.stage, running, loop]
    rfl
  have first : tickTime h.now g.interval.ticks [] 0 = h.now + g.interval.ticks := by
    simp [tickTime]
  refine ⟨fun n time found => ?_, fun n finish wait found => ?_, ?_, fun g' due asleep => ?_,
    fun g' _ _ since polling => ?_, fun ended => ?_, fun unstarted => ?_⟩
  · rw [List.getElem?_nil] at found
    cases found
  · rw [List.getElem?_nil] at found
    cases found
  · rw [stage]
    rfl
  · rw [stage] at asleep
    cases asleep
    exact ⟨rfl, first.symm, now.trans_le (Nat.le_add_right _ _)⟩
  · rw [stage] at polling
    cases polling
  · rw [stage] at ended
    cases ended
  · rw [stage] at unstarted
    cases unstarted

/-- **The ticks of a handler come in their cadence,** in every run on an exact clock. -/
theorem cadence_of_started (reached : h.Reachable) (created : h.status = .created)
    (started : h.step? (.init true) = some h₁) (mem : g ∈ h.handlers) (later : Run h₁ fs k)
    (exact : h₁.isExact fs = true) :
    Cadence g h.now (h₁.along (tickBegun? g.taskType) fs) (h₁.along (tickDone? g.taskType) fs)
      (h₁.along (tickCrash? g.taskType) fs) k := by
  have begun := reached.step started
  have running : h₁.status ≠ .created := by
    rw [(loops_of_started created started).1]
    nofun
  refine (later.exactInduction (P := fun fs k =>
    (k.Reachable ∧ k.status ≠ .created) ∧ Cadence g h.now (h₁.along (tickBegun? g.taskType) fs)
      (h₁.along (tickDone? g.taskType) fs) (h₁.along (tickCrash? g.taskType) fs) k)
    ⟨⟨begun, running⟩, .of_init reached created started mem⟩ ?_ exact).2
  rintro fs k k' e run ⟨⟨reached, started⟩, cadence⟩ step permitted
  refine ⟨⟨reached.step step, step?_started started step⟩, ?_⟩
  rw [along_snoc _ run, along_snoc _ run, along_snoc _ run]
  exact cadence.step (step?_pace reached started step _) step permitted

/-- **The ticks of a handler are on time.** From the start of its loop on, on an exact clock, each
of its ticks begins an interval after the one before it is over, so that only the polls of those
before it delay it, whatever they came to and whatever became of their tasks. No two of them
overlap, and no two polls of the handler are out. If none is out, the next one is not late, until
the host is told to stop or a tick panics. -/
theorem ticks_on_time (built : build handlers settings = .ok h₀) (run : Run h₀ es h)
    (created : h.status = .created) (started : h.step? (.init true) = some h₁)
    (mem : g ∈ h.handlers) (later : Run h₁ fs k) (exact : h₁.isExact fs = true) :
    let begun := h₁.along (tickBegun? g.taskType) fs
    let done := h₁.along (tickDone? g.taskType) fs
    let due := tickTime h.now g.interval.ticks (done.map Prod.snd)
    let out := k.dispatcher.ticks.countP fun tick => tick.handler.taskType = g.taskType
    (∀ n (time : Nat), begun[n]? = some time → time = due n) ∧
      (∀ n finish wait, done[n]? = some (finish, wait) →
        finish = due n + wait ∧ due (n + 1) = finish + g.interval.ticks) ∧
      begun.length = done.length + out ∧ out ≤ 1 ∧
      (out = 0 → k.now ≤ due done.length ∨ k.dispatcher.stopping = true ∨
        h₁.along (tickCrash? g.taskType) fs ≠ []) ∧
      ∀ millis, g.interval.nanos = millis * 1_000_000 → g.interval.ticks = millis := by
  intro begun done due out
  have reached : h.Reachable := ⟨_, _, _, _, built, run⟩
  have cadence := cadence_of_started reached created started mem later exact
  obtain ⟨es', run'⟩ : ∃ es, Run h₀ es k := ⟨_, (run.snoc started).trans later⟩
  have last : k.Reachable := ⟨_, _, _, _, built, run'⟩
  have outstanding : out = (k.stage g.taskType).out := last.countP_ticks g.taskType
  refine ⟨cadence.begins, fun n finish wait found => ⟨cadence.ends n finish wait found, ?_⟩, ?_,
    last.countP_ticks_le_one g.taskType, fun none => ?_, fun millis whole => ?_⟩
  · have waited : (done.map Prod.snd)[n]? = some wait := by
      rw [List.getElem?_map, found]
      rfl
    have ends : finish = due n + wait := cadence.ends n finish wait found
    rw [ends]
    exact tickTime_succ waited
  · rw [outstanding]
    exact cadence.length
  · cases stage : k.stage g.taskType with
    | unstarted => exact absurd stage cadence.started
    | sleeping g' wakes =>
      obtain ⟨-, time, ahead⟩ := cadence.asleep g' wakes stage
      exact .inl (ahead.trans_eq time)
    | polling _ _ _ _ =>
      rw [outstanding, stage] at none
      cases none
    | ended => exact .inr (cadence.ended stage)
  · have := g.interval.ticks_bounds
    omega

/-- A run of the sample in which polls wait, an execution takes long and a tick finds no slot. -/
def sampleTicks : List Event :=
  [.elapse 1000, .loopTicks "parcel" false none, .elapse 300,
    .pollAnswered 0 (.ok (some sampleTask)), .elapse 1000, .loopTicks "parcel" false none,
    .elapse 1000, .loopTicks "parcel" true none, .elapse 500,
    .handlerDone 1 (.panicked .other) (.returned none) .epoch]

def sampleTicked : Host Unit := ((sample.init true).2.replay sampleTicks).get (by decide)

/-- Only the poll that was waited for delays the ticks; the execution goes on and then panics. -/
theorem sample_ticks_on_time :
    let begun := (sample.init true).2.along (tickBegun? "parcel") sampleTicks
    begun = [1000, 2300, 3300] ∧
      ∀ n (time : Nat), begun[n]? = some time → time = tickTime 0 1000 [300, 0, 0] n := by
  have started : sample.step? (.init true) = some (sample.init true).2 := rfl
  have later : Run (sample.init true).2 sampleTicks sampleTicked := run_get _
  have waits : ((sample.init true).2.along (tickDone? "parcel") sampleTicks).map Prod.snd =
      [300, 0, 0] := by decide
  have onTime := (ticks_on_time build_sample (.nil sample) rfl started (List.mem_singleton_self _)
    later (by decide)).1
  exact ⟨by decide, waits ▸ onTime⟩

end Host

end TaskWorker
