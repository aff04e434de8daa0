import TaskWorker.Proofs.Holders
/-!
# Poll loops and their ticks

A loop that has sent a poll waits for the answer, and it is the only one to wait for it. A host
whose loops have all ended has no poll out, then, whenever they were told to end.

* `loopOf?`, whose turn an event is; `LoopTurn`, what an event does to loops and ticks;
  `step?_loopTurn`: every event does so;
* `Looped`: there is a loop for every tick, and a tick for every loop that polls;
  `LoopTurn.looped`: an event leaves it so;
* **`Looped.ticks_eq_nil`**: where all loops have ended, no poll is out.
-/

namespace TaskWorker

variable {α : Type}

namespace Dispatcher

variable {d d' : Dispatcher α} {x : Execution α}

@[simp]
theorem ticks_handlerDone (d : Dispatcher α) (x : Execution α) (outcome : Outcome)
    (identity : Callback (Option String)) (now : Moment) :
    (d.handlerDone x outcome identity now).ticks = d.ticks := by
  cases identity <;> rfl

@[simp]
theorem ticks_reportAnswered (d : Dispatcher α) (x : Execution α) (result : TaskResult)
    (attempt : Nat) (answer : Except ServerError Unit) (told : Callback Unit) :
    (d.reportAnswered x result attempt answer told).ticks = d.ticks := by
  simp only [reportAnswered]
  split
  · rename_i phase d₁ again
    obtain ⟨rfl, -⟩ := afterReport_goOn again
    rfl
  · rename_i outcome d₁ finished
    obtain ⟨_, _, rfl, -⟩ := afterReport_over finished
    split <;> rfl

/-- The first part of a tick adds a tick, or it is over. -/
theorem ticks_beginTick {g : Handler α} {paused : Bool} {identity : Option String}
    {start : TickStart} (begun : d.beginTick g paused identity = (start, d')) :
    (∃ k : Tick α, start = .sent k.id ∧ k.handler = g ∧ d.stopping = false ∧
        d'.ticks = d.ticks ++ [k]) ∨
      (∃ outcome, start = .over outcome ∧ (d.stopping = true → outcome = .shuttingDown)) ∧
        d'.ticks = d.ticks := by
  simp only [beginTick] at begun
  split_ifs at begun with stopping
  · cases begun
    exact .inr ⟨⟨_, rfl, fun _ => rfl⟩, rfl⟩
  · cases begun
    exact .inr ⟨⟨_, rfl, fun stops => absurd stops stopping⟩, rfl⟩
  · cases begun
    exact .inr ⟨⟨_, rfl, fun stops => absurd stops stopping⟩, rfl⟩
  · split at begun
    · cases begun
      exact .inr ⟨⟨_, rfl, fun stops => absurd stops stopping⟩, rfl⟩
    · rename_i d₁ taken
      obtain ⟨_, _, _, _, rfl⟩ := acquire?_eq_some taken
      cases begun
      exact .inl ⟨_, rfl, rfl, by simpa using stopping, rfl⟩

end Dispatcher

namespace Host

variable {h₀ h h' : Host α} {e : Event} {es : List Event} {handlers : List (Handler α)}
  {settings : Settings}

/-! ## What events do to loops -/

/-- The loop whose turn an event is: it wakes up, or its poll comes to an end. -/
def loopOf? (h : Host α) : Event → Option String
  | .loopStops t | .loopTicks t _ _ | .loopPanics t => some t
  | .pollAnswered id _ | .pollCut id | .pollPanics id =>
    (h.dispatcher.tick? id).map fun k => k.handler.taskType
  | _ => none

/-- Puts the loop that waits for a tick into another state. -/
def wakeLoop (tick : Nat) (state : PollLoop α → LoopState) (l : PollLoop α) : PollLoop α :=
  if l.state = .polling tick then { l with state := state l } else l

/-- **What an event does to loops and ticks.** -/
inductive LoopTurn (h : Host α) (e : Event) (h' : Host α) : Prop where
  | stays (quiet : h.loopOf? e = none) (loops : h'.loops = h.loops)
      (ticks : h'.dispatcher.ticks = h.dispatcher.ticks)
  | starts (quiet : h.loopOf? e = none) (here : h.gone = false) (created : h.status = .created)
      (running : h'.status = .running)
      (loops : h'.loops = h.handlers.map fun g => ⟨g, h.resting g⟩)
      (ticks : h'.dispatcher.ticks = h.dispatcher.ticks)
  | sleeper (t : String) (l : PollLoop α) (due : Nat) (state : LoopState)
      (asleep : h.sleeper? t = some (l, due)) (own : h.loopOf? e = some t)
      (stops : h.dispatcher.stopping = true → state = .ended)
      (idle : ∀ id, state ≠ .polling id) (loops : h'.loops = (h.setLoop t state).loops)
      (ticks : h'.dispatcher.ticks = h.dispatcher.ticks)
  | polls (t : String) (l : PollLoop α) (due : Nat) (k : Tick α)
      (asleep : h.sleeper? t = some (l, due)) (own : h.loopOf? e = some t)
      (running : h.dispatcher.stopping = false) (handler : k.handler = l.handler)
      (loops : h'.loops = (h.setLoop t (.polling k.id)).loops)
      (ticks : h'.dispatcher.ticks = h.dispatcher.ticks ++ [k])
  | wakes (k : Tick α) (state : PollLoop α → LoopState) (mem : k ∈ h.dispatcher.ticks)
      (own : h.loopOf? e = some k.handler.taskType) (idle : ∀ l id, state l ≠ .polling id)
      (loops : h'.loops = h.loops.map (wakeLoop k.id state))
      (ticks : h'.dispatcher.ticks = h.dispatcher.ticks.filter fun k' => k'.id ≠ k.id)

theorem loopTurn_loopTick {l : PollLoop α} {due : Nat} {t : String}
    (asleep : h.sleeper? t = some (l, due)) (paused : Bool) (identity : Option String) :
    h.LoopTurn (.loopTicks t paused identity) (h.loopTick l paused identity) := by
  obtain ⟨-, rfl, -⟩ := sleeper?_eq_some asleep
  simp only [loopTick]
  split
  · rename_i id d begun
    rcases Dispatcher.ticks_beginTick begun with
      ⟨k, sent, handler, running, ticks⟩ | ⟨⟨_, finished, -⟩, -⟩
    · cases sent
      exact .polls _ l due k asleep rfl running handler rfl ticks
    · cases finished
  · rename_i outcome d begun
    rcases Dispatcher.ticks_beginTick begun with ⟨k, sent, -⟩ | ⟨⟨_, finished, stops⟩, ticks⟩
    · cases sent
    · cases finished
      refine .sleeper _ l due _ asleep rfl (fun stopping => if_pos (stops stopping)) ?_ rfl ticks
      intro id
      split_ifs <;> intro polling <;> cases polling

theorem loopTurn_init (here : h.gone = false) (inRuntime : Bool) :
    h.LoopTurn (.init inRuntime) (h.init inRuntime).2 := by
  simp only [init]
  split_ifs
  · exact .stays rfl rfl rfl
  · split
    · rename_i created
      exact .starts rfl here created rfl rfl rfl
    · exact .stays rfl rfl rfl
    · exact .stays rfl rfl rfl
    · exact .stays rfl rfl rfl

/-- The loop that waits for a tick rests again after it, or ends with it. -/
theorem loopTurn_afterTick {id : Nat} {k : Tick α} {d : Dispatcher α}
    (found : h.dispatcher.tick? id = some k)
    (own : h.loopOf? e = (h.dispatcher.tick? id).map fun k => k.handler.taskType)
    (ticks : d.ticks = h.dispatcher.ticks.filter fun k' => k'.id ≠ k.id) (outcome : TickOutcome) :
    h.LoopTurn e ({ h with dispatcher := d }.afterTick k.id outcome) := by
  refine .wakes k _ (Dispatcher.mem_of_tick? found).1 (by rw [own, found]; rfl) ?_ rfl ticks
  intro l id
  split_ifs <;> nofun

/-- **Every event does one of these things to loops and ticks.** -/
theorem step?_loopTurn (step : h.step? e = some h') : h.LoopTurn e h' := by
  cases e with
  | elapse _ | gate _ =>
    cases step
    exact .stays rfl rfl rfl
  | init inRuntime =>
    simp only [step?] at step
    split_ifs at step with gone
    cases step
    exact loopTurn_init (by simpa using gone) inRuntime
  | shutdown =>
    simp only [step?] at step
    split_ifs at step
    cases step
    simp only [beginShutdown]
    split <;> exact .stays rfl rfl rfl
  | drained | graceOver =>
    simp only [step?] at step
    split at step
    · split_ifs at step
      cases step
      exact .stays rfl rfl rfl
    · cases step
  | shutdownGivenUp =>
    simp only [step?] at step
    split at step
    · cases step
      simp only [giveUpShutdown]
      split <;> exact .stays rfl rfl rfl
    · cases step
  | dropped =>
    simp only [step?] at step
    split at step
    · cases step
    · cases step
      exact .stays rfl rfl rfl
  | loopStops t | loopPanics t =>
    simp only [step?] at step
    split at step
    · rename_i asleep
      split_ifs at step
      cases step
      exact .sleeper t _ _ .ended asleep rfl (fun _ => rfl) (fun _ polling => by cases polling)
        rfl rfl
    · cases step
  | loopTicks t paused identity =>
    simp only [step?] at step
    split at step
    · rename_i l due asleep
      split_ifs at step
      cases step
      exact loopTurn_loopTick asleep paused identity
    · cases step
  | pollAnswered id answer =>
    simp only [step?, Option.map_eq_some_iff] at step
    obtain ⟨tick, found, rfl⟩ := step
    rcases answer with _ | _ | _ <;> exact loopTurn_afterTick found rfl rfl _
  | pollCut id =>
    simp only [step?] at step
    split at step
    · rename_i tick found
      split_ifs at step
      cases step
      exact loopTurn_afterTick found rfl rfl _
    · cases step
  | pollPanics id =>
    simp only [step?, Option.map_eq_some_iff] at step
    obtain ⟨tick, found, rfl⟩ := step
    obtain ⟨-, rfl⟩ := Dispatcher.mem_of_tick? found
    exact loopTurn_afterTick found rfl rfl _
  | handlerDone n outcome identity now =>
    simp only [step?] at step
    split at step
    · split at step
      · cases step
        exact .stays rfl rfl (Dispatcher.ticks_handlerDone _ _ _ _ _)
      · cases step
    · cases step
  | reportAnswered n answer told =>
    simp only [step?] at step
    split at step
    · split at step
      · cases step
        exact .stays rfl rfl (Dispatcher.ticks_reportAnswered _ _ _ _ _ _)
      · cases step
    · cases step
  | pauseDone n =>
    simp only [step?] at step
    split at step
    · split at step
      · split_ifs at step
        cases step
        exact .stays rfl rfl rfl
      · cases step
    · cases step
  | abandoned n =>
    simp only [step?] at step
    split at step
    · split_ifs at step
      cases step
      exact .stays rfl rfl rfl
    · cases step
  | executionPanics n =>
    simp only [step?, Option.map_eq_some_iff] at step
    obtain ⟨x, found, rfl⟩ := step
    exact .stays rfl rfl rfl

/-! ## A loop for every tick -/

/-- There is one loop for each type, a loop for every tick, and a tick for every loop that polls. -/
structure Looped (h : Host α) : Prop where
  types : (h.loops.map fun l => l.handler.taskType).Nodup
  waiting : ∀ k ∈ h.dispatcher.ticks, ∃ l ∈ h.loops, l.state = .polling k.id ∧ l.handler = k.handler
  out : ∀ l ∈ h.loops, ∀ id, l.state = .polling id →
    ∃ k ∈ h.dispatcher.ticks, k.id = id ∧ k.handler = l.handler

/-- Loops are told apart by their types. -/
theorem Looped.eq_of_taskType_eq (looped : h.Looped) {l l' : PollLoop α} (mem : l ∈ h.loops)
    (mem' : l' ∈ h.loops) (same : l'.handler.taskType = l.handler.taskType) : l' = l :=
  List.inj_on_of_nodup_map looped.types mem' mem same

theorem mem_setLoop {t : String} {state : LoopState} {l : PollLoop α}
    (mem : l ∈ (h.setLoop t state).loops) :
    (∃ l₀ ∈ h.loops, l₀.handler.taskType = t ∧ l = { l₀ with state }) ∨ l ∈ h.loops := by
  obtain ⟨l₀, mem₀, rfl⟩ := List.mem_map.mp mem
  split_ifs with type
  · exact .inl ⟨l₀, mem₀, type, rfl⟩
  · exact .inr mem₀

theorem mem_map_wakeLoop {loops : List (PollLoop α)} {tick : Nat} {state : PollLoop α → LoopState}
    {l : PollLoop α} (mem : l ∈ loops.map (wakeLoop tick state)) :
    (∃ l₀ ∈ loops, l₀.state = .polling tick ∧ l = { l₀ with state := state l₀ }) ∨
      l ∈ loops ∧ l.state ≠ .polling tick := by
  obtain ⟨l₀, mem₀, rfl⟩ := List.mem_map.mp mem
  rw [wakeLoop]
  split_ifs with polling
  · exact .inl ⟨l₀, mem₀, polling, rfl⟩
  · exact .inr ⟨mem₀, polling⟩

theorem Looped.waiting_setLoop (looped : h.Looped) {t : String} {l : PollLoop α} {due : Nat}
    (asleep : h.sleeper? t = some (l, due)) (state : LoopState) :
    ∀ k ∈ h.dispatcher.ticks, ∃ l' ∈ (h.setLoop t state).loops,
      l'.state = .polling k.id ∧ l'.handler = k.handler := by
  obtain ⟨mem, rfl, sleeping⟩ := sleeper?_eq_some asleep
  intro k hk
  obtain ⟨l', mem', polling, handler⟩ := looped.waiting k hk
  refine ⟨l', ?_, polling, handler⟩
  have different : l'.handler.taskType ≠ l.handler.taskType := by
    intro same
    rw [looped.eq_of_taskType_eq mem mem' same, sleeping] at polling
    cases polling
  exact List.mem_map.mpr ⟨l', mem', if_neg different⟩

@[simp]
theorem handlers_setLoop (h : Host α) (t : String) (state : LoopState) :
    (h.setLoop t state).loops.map PollLoop.handler = h.loops.map PollLoop.handler := by
  simp only [setLoop, List.map_map]
  refine List.map_congr_left fun l _ => ?_
  simp only [Function.comp_apply]
  split_ifs <;> rfl

@[simp]
theorem handlers_wakeLoop (loops : List (PollLoop α)) (tick : Nat)
    (state : PollLoop α → LoopState) :
    (loops.map (wakeLoop tick state)).map PollLoop.handler = loops.map PollLoop.handler := by
  rw [List.map_map]
  refine List.map_congr_left fun l _ => ?_
  simp only [Function.comp_apply, wakeLoop]
  split_ifs <;> rfl

/-- Loops of the same handlers have the same types. -/
theorem Looped.types_congr (looped : h.Looped)
    (handlers : h'.loops.map PollLoop.handler = h.loops.map PollLoop.handler) :
    (h'.loops.map fun l => l.handler.taskType).Nodup := by
  have types := congrArg (List.map Handler.taskType) handlers
  rw [List.map_map, List.map_map] at types
  exact types ▸ looped.types

/-- A host that is started has no tick yet, if it has no loop yet. -/
theorem LoopTurn.looped (turn : h.LoopTurn e h') (looped : h.Looped)
    (handlers : (h.handlers.map Handler.taskType).Nodup)
    (created : h.status = .created → h.loops = []) : h'.Looped := by
  cases turn with
  | stays _ loops ticks =>
    refine ⟨looped.types_congr (by rw [loops]), ?_, ?_⟩
    · rw [loops, ticks]
      exact looped.waiting
    · rw [loops, ticks]
      exact looped.out
  | starts _ _ now _ loops ticks =>
    -- A host is started once, so no loop that waits is replaced.
    refine ⟨?_, fun k hk => ?_, fun l hl id polling => ?_⟩
    · rw [loops, List.map_map]
      exact handlers
    · rw [ticks] at hk
      obtain ⟨l, mem, -⟩ := looped.waiting k hk
      rw [created now] at mem
      cases mem
    · rw [loops] at hl
      obtain ⟨g, -, rfl⟩ := List.mem_map.mp hl
      cases polling
  | sleeper t l due state asleep _ _ idle loops ticks =>
    refine ⟨looped.types_congr (by rw [loops, handlers_setLoop]), ?_, ?_⟩
    · rw [loops, ticks]
      exact looped.waiting_setLoop asleep state
    · rw [loops, ticks]
      intro l' hl' id polling
      rcases mem_setLoop hl' with ⟨l₀, -, -, rfl⟩ | old
      · exact absurd polling (idle id)
      · exact looped.out l' old id polling
  | polls t l due k asleep _ _ handler loops ticks =>
    obtain ⟨mem, type, -⟩ := sleeper?_eq_some asleep
    refine ⟨looped.types_congr (by rw [loops, handlers_setLoop]), ?_, ?_⟩
    · rw [loops, ticks]
      intro k' hk'
      rcases List.mem_append.mp hk' with old | new
      · exact looped.waiting_setLoop asleep _ k' old
      · obtain rfl := List.mem_singleton.mp new
        exact ⟨_, List.mem_map.mpr ⟨l, mem, if_pos type⟩, rfl, handler.symm⟩
    · rw [loops, ticks]
      intro l' hl' id polling
      rcases mem_setLoop hl' with ⟨l₀, mem₀, type₀, rfl⟩ | old
      · cases polling
        obtain rfl := looped.eq_of_taskType_eq mem mem₀ (type₀.trans type.symm)
        exact ⟨k, List.mem_append_right _ (List.mem_singleton_self k), rfl, handler⟩
      · obtain ⟨k', mem', found⟩ := looped.out l' old id polling
        exact ⟨k', List.mem_append_left _ mem', found⟩
  | wakes k state _ _ idle loops ticks =>
    refine ⟨looped.types_congr (by rw [loops, handlers_wakeLoop]), ?_, ?_⟩
    · rw [loops, ticks]
      intro k' hk'
      obtain ⟨hk', other⟩ := List.mem_filter.mp hk'
      obtain ⟨l, mem, polling, handler⟩ := looped.waiting k' hk'
      have unchanged : wakeLoop k.id state l = l := by
        refine if_neg ?_
        rw [polling]
        simpa using other
      exact ⟨l, List.mem_map.mpr ⟨l, mem, unchanged⟩, polling, handler⟩
    · rw [loops, ticks]
      intro l' hl' id polling
      rcases mem_map_wakeLoop hl' with ⟨l₀, -, -, rfl⟩ | ⟨old, other⟩
      · exact absurd polling (idle l₀ id)
      · obtain ⟨k', mem', rfl, handler⟩ := looped.out l' old id polling
        refine ⟨k', List.mem_filter.mpr ⟨mem', ?_⟩, rfl, handler⟩
        have : k'.id ≠ k.id := fun same => other (same ▸ polling)
        simpa using this

theorem Looped.ticks_eq_nil (looped : h.Looped) (ended : ∀ l ∈ h.loops, l.state = .ended) :
    h.dispatcher.ticks = [] := by
  refine List.eq_nil_iff_forall_not_mem.mpr fun k hk => ?_
  obtain ⟨l, mem, polling, -⟩ := looped.waiting k hk
  rw [ended l mem] at polling
  cases polling

end Host

end TaskWorker
