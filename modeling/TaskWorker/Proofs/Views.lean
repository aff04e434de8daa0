import TaskWorker.Proofs.Timelines
import TaskWorker.Proofs.Lifecycle
import TaskWorker.Proofs.Sites
/-!
# A site as a task type sees it

What a site keeps of a task type is a lane, once its executions have places. An act on an exact clock
is a mark for the type or has nothing to do with it; what has nothing to do with it spares its lane.

* `Watch`, what is kept of the past to give places to executions; `Watch.mark?`, the mark of an act,
  and `Watch.lane`, the lane of a site;
* `Site.seen`, what is seen of a type in an event;
* `Surroundings.only`, the surroundings of one type; `Watched`, what holds at all times;
* `Dispatcher.Spares`, a change that has nothing to do with a type; `Server.poll_own`, what a poll of
  the type has to do with; **`Watch.lane_congr`**: a change that spares a type spares its lane.
-/

namespace TaskWorker

variable {α : Type}

/-! ## Lanes of a site -/

/-- What is kept of the past of a type: the number of calls, and the numbers of the executions that
got the type's tasks, in their order. -/
structure Watch where
  calls : Nat
  births : List Nat

def Dispatcher.stageOf (d : Dispatcher α) : Option (PollLoop α) → Stage α
  | none => .ended
  | some l =>
    match l.state with
    | .sleeping due => .sleeping l.handler due
    | .polling id =>
      match d.tick? id with
      | some k => .polling k.handler k.workerId k.domain k.since
      | none => .ended
    | .ended => .ended

/-- Where the loop of a type stands. -/
def Host.stage (h : Host α) (t : String) : Stage α :=
  if h.status = .created then .unstarted else h.dispatcher.stageOf (h.loop? t)

def Server.waitingFor (s : Server) (t : String) : List Task :=
  s.waiting.filter fun task => task.type = t

namespace Watch

def start : Watch := ⟨0, []⟩

def place (w : Watch) (n : Nat) : Nat := w.births.idxOf n

def born (w : Watch) (n : Nat) : Watch := { w with births := w.births ++ [n] }

/-- An execution as its type sees it. -/
def placed (w : Watch) (x : Execution α) : Execution α :=
  { x with number := w.place x.number, phase := x.phase.untimed }

def executions (w : Watch) (d : Dispatcher α) (t : String) : List (Execution α) :=
  (d.executions.filter fun x => x.handler.taskType = t).map w.placed

def lane (w : Watch) (s : Site α) (t : String) : Lane α :=
  { handler := s.host.handlers.find? fun g => g.taskType = t
    settings := s.host.dispatcher.settings
    stopping := s.host.dispatcher.stopping
    gate := s.host.dispatcher.gate
    slots := s.host.dispatcher.slots.get? t
    stage := s.host.stage t
    executions := w.executions s.host.dispatcher t
    begun := w.births.length
    calls := w.calls
    failPolls := s.server.failPolls
    waiting := s.server.waitingFor t }

/-- The mark that an act is for a type. -/
def mark? (w : Watch) (s : Site α) (t : String) : Act → Option Mark
  | .elapse _ => none
  | .call c => if c.concerns t then some (.call w.calls c) else none
  | .tick u => if u = t then some .tick else none
  | .served id =>
    match s.host.dispatcher.tick? id with
    | some k => if k.handler.taskType = t then some .served else none
    | none => none
  | .done n _ =>
    match s.host.dispatcher.execution? n with
    | some x => if x.handler.taskType = t then some (.done (w.place n)) else none
    | none => none
  | .reported n =>
    match s.host.dispatcher.execution? n with
    | some x => if x.handler.taskType = t then some (.reported (w.place n)) else none
    | none => none

/-- What is kept after a mark. -/
def after (w : Watch) (s s' : Site α) : Option Mark → Watch
  | some (.call _ _) => { w with calls := w.calls + 1 }
  | some .served =>
    if s.host.dispatcher.dispatched < s'.host.dispatcher.dispatched then
      w.born s'.host.dispatcher.dispatched
    else w
  | _ => w

end Watch

/-! ## Sights of a site -/

namespace Host

/-- The type whose tick ends with an event, and its outcome. -/
def tickOver? (h : Host α) : Event → Option (String × TickOutcome)
  | .loopTicks t paused identity =>
    (h.loop? t).bind fun l =>
      match (h.dispatcher.beginTick l.handler paused identity).1 with
      | .over outcome => some (t, outcome)
      | .sent _ => none
  | .pollAnswered id answer =>
    (h.dispatcher.tick? id).map fun k =>
      (k.handler.taskType, (h.dispatcher.answerPoll k answer).1)
  | _ => none

/-- The type whose result the server looks at. -/
def reporter? (h : Host α) : Event → Option String
  | .reportAnswered n _ _ => (h.dispatcher.execution? n).map fun x => x.handler.taskType
  | _ => none

end Host

namespace Site

/-- What is seen of ticks. -/
def tickSights (s : Site α) (e : Event) (t : String) : List Sight :=
  match (s.hostEvent? e).bind s.host.tickOver? with
  | some (u, outcome) => if u = t then [.ticked outcome] else []
  | none => []

def pollSights (s s' : Site α) (t : String) : List Sight :=
  ((s'.server.polls.drop s.server.polls.length).filter fun p => p.taskType = t).map .polled

def resultSights (s s' : Site α) (e : Event) (t : String) : List Sight :=
  if (s.hostEvent? e).bind s.host.reporter? = some t then
    (s'.server.reported.drop s.server.reported.length).map fun r => .accepted r.untimed
  else []

/-- What is seen of a type between two states of a site, the second of which an event led to. -/
def seen (s s' : Site α) (e : Event) (t : String) : List Sight :=
  s.tickSights e t ++ s.pollSights s' t ++ s.resultSights s' e t ++
    Lane.busySight (s.host.dispatcher.busySlots t) (s'.host.dispatcher.busySlots t)

theorem tickSights_apart {s : Site α} {e : Event} {t : String}
    (apart : ∀ outcome, (s.hostEvent? e).bind s.host.tickOver? ≠ some (t, outcome)) :
    s.tickSights e t = [] := by
  rw [tickSights]
  split
  · rename_i u outcome ended
    refine if_neg ?_
    rintro rfl
    exact apart outcome ended
  · rfl

theorem tickSights_silent {s : Site α} {e : Event} {t : String}
    (silent : (s.hostEvent? e).bind s.host.tickOver? = none) : s.tickSights e t = [] := by
  rw [tickSights, silent]

theorem resultSights_silent {s s' : Site α} {e : Event} {t : String}
    (silent : (s.hostEvent? e).bind s.host.reporter? = none) : s.resultSights s' e t = [] := by
  rw [resultSights, silent]
  exact if_neg (Option.some_ne_none t).symm

theorem pollSights_same {s s' : Site α} {t : String} (same : s'.server.polls = s.server.polls) :
    s.pollSights s' t = [] := by
  rw [pollSights, same, List.drop_length]
  rfl

theorem pollSights_append {s s' : Site α} {t : String} {record : PollRecord}
    (more : s'.server.polls = s.server.polls ++ [record]) :
    s.pollSights s' t = if record.taskType = t then [.polled record] else [] := by
  rw [pollSights, more, List.drop_left]
  split_ifs with own <;> simp [own]

theorem resultSights_append {s s' : Site α} {e : Event} {t u : String} {result : TaskResult}
    (reporter : (s.hostEvent? e).bind s.host.reporter? = some u)
    (more : s'.server.reported = s.server.reported ++ [result]) :
    s.resultSights s' e t = if u = t then [.accepted result.untimed] else [] := by
  simp only [resultSights, reporter, more, List.drop_left, Option.some.injEq, List.map_singleton]

end Site

namespace Surroundings

/-- What the surroundings are to one type, log times apart. -/
def only (env : Surroundings α) (t : String) : Surroundings α :=
  { paused := fun g now => g.taskType = t && env.paused g now
    identity := fun g now => if g.taskType = t then env.identity g now else none
    pollDelay := fun g since => if g.taskType = t then env.pollDelay g since else 0
    reportDelay := fun g since => if g.taskType = t then env.reportDelay g since else 0
    work := fun g task since =>
      if g.taskType = t then
        ((env.work g task since).1, (env.work g task since).2.untimed)
      else (0, .panicked .other) }

end Surroundings

/-! ## What holds at all times -/

/-- What holds of a watched site: its host can be reached, its server takes all reports, and the
executions of the type are known. -/
structure Watched (w : Watch) (s : Site α) (t : String) : Prop where
  reached : s.host.Reachable
  accepting : s.server.rejectReports = false ∧ s.server.failingReports = 0
  births : ∀ x ∈ s.host.dispatcher.executions, x.handler.taskType = t → x.number ∈ w.births
  named : ∀ n ∈ w.births, n ≤ s.host.dispatcher.dispatched

section Facts

variable {h : Host α}

theorem Host.Reachable.orderly (reached : h.Reachable) : h.dispatcher.Orderly := by
  obtain ⟨_, _, _, _, built, run⟩ := reached
  exact run.orderly built

theorem Host.Reachable.looped (reached : h.Reachable) : h.Looped := by
  obtain ⟨_, _, _, _, built, run⟩ := reached
  exact run.looped built

theorem Host.Reachable.lawful (reached : h.Reachable) : h.Lawful := by
  obtain ⟨_, _, _, _, built, run⟩ := reached
  exact run.lawful built

theorem Host.Reachable.step {h' : Host α} {f : Host.Event} (reached : h.Reachable)
    (step : h.step? f = some h') : h'.Reachable := by
  obtain ⟨handlers, settings, h₀, es, built, run⟩ := reached
  exact ⟨handlers, settings, h₀, es ++ [f], built, run.snoc step⟩

end Facts

/-! ## Executions in their places -/

namespace Dispatcher

theorem filter_setPhase (d : Dispatcher α) (n : Nat) (phase : Phase) (t : String) :
    (d.setPhase n phase).executions.filter (fun x => x.handler.taskType = t) =
      (d.executions.filter fun x => x.handler.taskType = t).map fun x =>
        if x.number = n then { x with phase } else x := by
  rw [setPhase, List.filter_map]
  congr 1
  refine List.filter_congr fun x _ => ?_
  simp only [Function.comp_apply]
  split_ifs <;> rfl

end Dispatcher

namespace Watch

variable {w : Watch} {d d' : Dispatcher α} {x : Execution α} {t : String} {n : Nat}

/-- Places tell the executions of a type apart. -/
theorem place_inj {m : Nat} (known : n ∈ w.births) : w.place n = w.place m ↔ n = m :=
  List.idxOf_inj known

theorem place_born {m : Nat} (known : n ∈ w.births) : (w.born m).place n = w.place n :=
  List.idxOf_append_of_mem known

theorem place_born_self (fresh : n ∉ w.births) : (w.born n).place n = w.births.length := by
  rw [place, born, List.idxOf_append_of_notMem fresh, List.idxOf_cons_self, Nat.add_zero]

theorem mem_executions (mem : x ∈ d.executions) (own : x.handler.taskType = t) :
    w.placed x ∈ w.executions d t :=
  List.mem_map_of_mem (List.mem_filter.mpr ⟨mem, decide_eq_true own⟩)

/-- All executions of a type are known by their numbers. -/
def Knows (w : Watch) (d : Dispatcher α) (t : String) : Prop :=
  ∀ x ∈ d.executions, x.handler.taskType = t → x.number ∈ w.births

theorem Knows.of_mem_filter (knows : w.Knows d t)
    (mem : x ∈ d.executions.filter fun x => x.handler.taskType = t) :
    x ∈ d.executions ∧ x.number ∈ w.births := by
  obtain ⟨mem, own⟩ := List.mem_filter.mp mem
  exact ⟨mem, knows x mem (by simpa using own)⟩

theorem find?_place (o : d.Orderly) (knows : w.Knows d t) (mem : x ∈ d.executions)
    (own : x.handler.taskType = t) :
    ((w.executions d t).find? fun y => y.number = w.place x.number) = some (w.placed x) := by
  refine find?_key Execution.number ?_ (mem_executions mem own)
  rw [executions, List.map_map]
  have nodup : (d.executions.filter fun x => x.handler.taskType = t).Nodup :=
    (List.Nodup.of_map _ o.numbers).filter _
  refine List.Nodup.map_on (fun y hy z hz same => ?_) nodup
  have numbers : y.number = z.number := (place_inj (knows.of_mem_filter hy).2).mp same
  exact List.inj_on_of_nodup_map o.numbers (knows.of_mem_filter hy).1 (knows.of_mem_filter hz).1
    numbers

/-- A new execution of the type is in the next place. -/
theorem executions_dispatch {k : Tick α} {task : Task} (own : k.handler.taskType = t)
    (knows : w.Knows d t) (fresh : d.dispatched + 1 ∉ w.births) :
    (w.born (d.dispatched + 1)).executions (d.dispatch k task) t =
      w.executions d t ++ [⟨w.births.length, k.handler, k.workerId, task, .handling d.now⟩] := by
  have old : (d.executions.filter fun x => x.handler.taskType = t).map
      (w.born (d.dispatched + 1)).placed = w.executions d t := by
    refine List.map_congr_left fun x mem => ?_
    rw [placed, placed, place_born (knows.of_mem_filter mem).2]
  rw [executions, Dispatcher.dispatch, List.filter_append, List.map_append, old]
  simp [own, placed, place_born_self fresh, Phase.untimed]

theorem executions_setPhase (knows : w.Knows d t) (phase : Phase) :
    w.executions (d.setPhase n phase) t = (w.executions d t).map fun y =>
      if y.number = w.place n then { y with phase := phase.untimed } else y := by
  rw [executions, Dispatcher.filter_setPhase, executions, List.map_map, List.map_map]
  refine List.map_congr_left fun x mem => ?_
  have same : w.place x.number = w.place n ↔ x.number = n := place_inj (knows.of_mem_filter mem).2
  simp only [Function.comp_apply, placed, same]
  split_ifs <;> rfl

theorem executions_closeExecution (knows : w.Knows d t) (fate : Fate) :
    w.executions (d.closeExecution x fate) t =
      (w.executions d t).filter fun y => y.number ≠ w.place x.number := by
  have closed : (d.closeExecution x fate).executions =
      d.executions.filter fun y => y.number ≠ x.number := rfl
  rw [executions, closed, List.filter_comm, executions, List.filter_map]
  congr 1
  refine List.filter_congr fun y mem => ?_
  have same : w.place y.number = w.place x.number ↔ y.number = x.number :=
    place_inj (knows.of_mem_filter mem).2
  simp only [Function.comp_apply, placed, ne_eq, same]

end Watch

/-! ## Slots of a type -/

namespace Dispatcher

variable {d d' : Dispatcher α} {t u : String} {g : Handler α} {k : Tick α} {x : Execution α}

theorem get?_release (d : Dispatcher α) (t u : String) :
    (d.release u).slots.get? t =
      if t = u then (d.slots.get? t).map Slots.release else d.slots.get? t := by
  rw [release, Table.get?_modify]

theorem acquire?_eq (d : Dispatcher α) (t : String) :
    d.acquire? t = ((d.slots.get? t).bind Slots.acquire?).map fun s =>
      { d with slots := d.slots.insert t s } := by
  unfold acquire?
  cases d.slots.get? t with
  | none => rfl
  | some s =>
    simp only [Option.bind_some]
    cases s.acquire? <;> rfl

/-! ## What spares a type -/

/-- A change that has nothing to do with a type. -/
structure Spares (d d' : Dispatcher α) (t : String) : Prop where
  settings : d'.settings = d.settings
  stopping : d'.stopping = d.stopping
  gate : d'.gate = d.gate
  now : d'.now = d.now
  slots : d'.slots.get? t = d.slots.get? t
  executions : d'.executions.filter (fun x => x.handler.taskType = t) =
    d.executions.filter fun x => x.handler.taskType = t
  ticks : ∀ k, d.tick? k.id = some k → k.handler.taskType = t → d'.tick? k.id = some k

theorem spares_beginTick (other : g.taskType ≠ t) (paused : Bool) (identity : Option String) :
    d.Spares (d.beginTick g paused identity).2 t := by
  have same : d.Spares d t := ⟨rfl, rfl, rfl, rfl, rfl, rfl, fun _ found _ => found⟩
  simp only [beginTick]
  split_ifs
  · exact same
  · exact same
  · exact same
  · rw [acquire?_eq]
    cases (d.slots.get? g.taskType).bind Slots.acquire? with
    | none => exact { same with }
    | some s =>
      refine ⟨rfl, rfl, rfl, rfl, ?_, rfl, fun k found _ => ?_⟩
      · exact (Table.get?_insert ..).trans (if_neg other)
      · simp only [Option.map_some, sendPoll, tick?, List.find?_append]
        rw [tick?] at found
        rw [found, Option.some_or]

theorem spares_answerPoll (other : k.handler.taskType ≠ t) (found : d.tick? k.id = some k)
    (answer : Except ServerError (Option Task)) : d.Spares (d.answerPoll k answer).2 t := by
  have dropped : ∀ k', d.tick? k'.id = some k' → k'.handler.taskType = t →
      (d.dropTick k).tick? k'.id = some k' := by
    intro k' found' own
    have different : k'.id ≠ k.id := by
      intro same
      rw [same, found] at found'
      cases found'
      exact other own
    simp only [tick?, dropTick, List.find?_filter]
    rw [← found', tick?]
    refine List.find?_congr fun k'' _ => ?_
    by_cases here : k''.id = k'.id
    · simp [here, different]
    · simp [here]
  have released : ((d.dropTick k).release k.handler.taskType).slots.get? t = d.slots.get? t :=
    (get?_release ..).trans (if_neg (Ne.symm other))
  rcases answer with error | task | task
  · exact ⟨rfl, rfl, rfl, rfl, released, rfl, dropped⟩
  · exact ⟨rfl, rfl, rfl, rfl, released, rfl, dropped⟩
  · refine ⟨rfl, rfl, rfl, rfl, rfl, ?_, dropped⟩
    simp [answerPoll, dispatch, dropTick, other]

theorem type_ne_of_other (o : d.Orderly) (mem : x ∈ d.executions) (other : x.handler.taskType ≠ t)
    {y : Execution α} (own : y ∈ d.executions.filter fun y => y.handler.taskType = t) :
    y.number ≠ x.number := by
  obtain ⟨memY, ownY⟩ := List.mem_filter.mp own
  intro same
  rw [List.inj_on_of_nodup_map o.numbers memY mem same] at ownY
  exact other (by simpa using ownY)

theorem spares_handlerDone (o : d.Orderly) (mem : x ∈ d.executions)
    (other : x.handler.taskType ≠ t) (outcome : Outcome) (identity : Option String)
    (stamp : Moment) : d.Spares (d.handlerDone x outcome (.returned identity) stamp) t := by
  refine ⟨rfl, rfl, rfl, rfl, rfl, ?_, fun _ found _ => found⟩
  refine (filter_setPhase ..).trans ((List.map_congr_left fun y own => ?_).trans (List.map_id _))
  exact if_neg (type_ne_of_other o mem other own)

theorem reportAnswered_ok (d : Dispatcher α) (x : Execution α) (result : TaskResult)
    (attempt : Nat) (told : Callback Unit) :
    d.reportAnswered x result attempt (.ok ()) told =
      (d.count (·.success attempt)).endExecution x (.delivered (.reported attempt)) := rfl

theorem spares_reportAnswered (o : d.Orderly) (mem : x ∈ d.executions)
    (other : x.handler.taskType ≠ t) (result : TaskResult) (attempt : Nat) (told : Callback Unit) :
    d.Spares (d.reportAnswered x result attempt (.ok ()) told) t := by
  rw [reportAnswered_ok]
  refine ⟨rfl, rfl, rfl, rfl, (get?_release ..).trans (if_neg (Ne.symm other)), ?_,
    fun _ found _ => found⟩
  refine (List.filter_comm ..).trans (List.filter_eq_self.mpr fun y own => ?_)
  exact decide_eq_true (type_ne_of_other o mem other own)

end Dispatcher

/-! ## Loops of a type -/

namespace Host

variable {h h' : Host α} {t u : String} {l : PollLoop α} {k : Tick α}

theorem loop?_setLoop (h : Host α) (u : String) (state : LoopState) (t : String) :
    (h.setLoop u state).loop? t =
      if t = u then (h.loop? t).map fun l => { l with state } else h.loop? t := by
  have type : ∀ l : PollLoop α, (if l.handler.taskType = u then { l with state } else l).handler =
      l.handler := fun l => by split_ifs <;> rfl
  simp only [loop?, setLoop, List.find?_map, Function.comp_def, type]
  split_ifs with same
  · refine Option.map_congr fun l found => ?_
    have own := List.find?_some found
    simp only [decide_eq_true_eq] at own
    rw [if_pos (own.trans same)]
  · refine (Option.map_congr fun l found => ?_).trans Option.map_id'
    have own := List.find?_some found
    simp only [decide_eq_true_eq] at own
    exact if_neg fun here => same (own.symm.trans here)

theorem loop?_loopTick_other (h : Host α) (paused : Bool) (identity : Option String)
    (other : l.handler.taskType ≠ t) : (h.loopTick l paused identity).loop? t = h.loop? t := by
  simp only [loopTick]
  split <;> exact (loop?_setLoop ..).trans (if_neg (Ne.symm other))

theorem loop?_afterTick (h : Host α) (id : Nat) (outcome : TickOutcome) (t : String) :
    (h.afterTick id outcome).loop? t = (h.loop? t).map fun l =>
      if l.state = .polling id then
        { l with state := if outcome = .shuttingDown then .ended else h.resting l.handler }
      else l := by
  simp only [loop?, afterTick, List.find?_map, Function.comp_def]
  congr 1
  refine List.find?_congr fun l _ => ?_
  split_ifs <;> rfl

namespace Reachable

/-- A loop that polls waits for a tick. -/
theorem tick_of_loop (reached : h.Reachable) (loop : h.loop? t = some l) {id : Nat}
    (polling : l.state = .polling id) :
    ∃ k, h.dispatcher.tick? id = some k ∧ k.handler = l.handler := by
  obtain ⟨k, mem, rfl, handler⟩ := reached.looped.out l (loop?_eq_some loop).1 id polling
  exact ⟨k, Dispatcher.tick?_of_mem reached.orderly mem, handler⟩

theorem loop_of_tick (reached : h.Reachable) (found : h.dispatcher.tick? k.id = some k) :
    ∃ l, h.loop? k.handler.taskType = some l ∧ l.state = .polling k.id ∧ l.handler = k.handler := by
  obtain ⟨l, mem, polling, handler⟩ :=
    reached.looped.waiting k (Dispatcher.mem_of_tick? found).1
  refine ⟨l, ?_, polling, handler⟩
  rw [← handler]
  exact find?_key (fun l : PollLoop α => l.handler.taskType) reached.looped.types mem

theorem started (reached : h.Reachable) (loop : h.loop? t = some l) : h.status ≠ .created := by
  intro created
  have none := reached.lawful.created created
  rw [loop?, none] at loop
  cases loop

end Reachable

theorem loop?_afterTick_other (reached : h.Reachable) (found : h.dispatcher.tick? k.id = some k)
    (other : k.handler.taskType ≠ t) (d : Dispatcher α) (outcome : TickOutcome) :
    ({ h with dispatcher := d }.afterTick k.id outcome).loop? t = h.loop? t := by
  refine (loop?_afterTick ..).trans ((Option.map_congr fun l loop => ?_).trans Option.map_id')
  refine if_neg fun polling => other ?_
  obtain ⟨k', found', handler⟩ := reached.tick_of_loop loop polling
  rw [found] at found'
  cases found'
  rw [handler, (loop?_eq_some loop).2]

theorem stage_congr (reached : h.Reachable) (spares : h.dispatcher.Spares h'.dispatcher t)
    (status : h'.status = h.status) (loop : h'.loop? t = h.loop? t) : h'.stage t = h.stage t := by
  rw [stage, stage, status, loop]
  split_ifs
  · rfl
  · cases found : h.loop? t with
    | none => rfl
    | some l =>
      simp only [Dispatcher.stageOf]
      cases state : l.state with
      | sleeping due => rfl
      | ended => rfl
      | polling id =>
        obtain ⟨k, known, handler⟩ := reached.tick_of_loop found state
        obtain rfl := (Dispatcher.mem_of_tick? known).2
        have own : k.handler.taskType = t := by rw [handler, (loop?_eq_some found).2]
        simp only [known, spares.ticks k known own]

theorem loop_of_sleeping {g : Handler α} {due : Nat} (stage : h.stage t = .sleeping g due) :
    ∃ l ∈ h.loops, l.state = .sleeping due := by
  rw [Host.stage] at stage
  split_ifs at stage
  cases loop : h.loop? t with
  | none =>
    rw [loop] at stage
    cases stage
  | some l =>
    refine ⟨l, (loop?_eq_some loop).1, ?_⟩
    simp only [loop, Dispatcher.stageOf] at stage
    split at stage
    · rename_i state
      cases stage
      exact state
    · split at stage <;> cases stage
    · cases stage

theorem tick_of_polling {g : Handler α} {workerId : String} {domain : Option String} {since : Nat}
    (reached : h.Reachable) (stage : h.stage t = .polling g workerId domain since) :
    g.taskType = t ∧ ∃ k ∈ h.dispatcher.ticks, k.handler = g ∧ k.since = since := by
  rw [Host.stage] at stage
  split_ifs at stage
  cases loop : h.loop? t with
  | none =>
    rw [loop] at stage
    cases stage
  | some l =>
    simp only [loop, Dispatcher.stageOf] at stage
    split at stage
    · cases stage
    · rename_i state
      obtain ⟨k, found, handler⟩ := reached.tick_of_loop loop state
      rw [found] at stage
      cases stage
      obtain rfl := (Dispatcher.mem_of_tick? found).2
      refine ⟨?_, k, (Dispatcher.mem_of_tick? found).1, rfl, rfl⟩
      rw [handler, (loop?_eq_some loop).2]
    · cases stage

end Host

/-! ## The server's part in a lane -/

theorem filter_eraseP_of_not {β : Type} {p q : β → Bool} (apart : ∀ b, q b = true → p b = false)
    (l : List β) : (l.eraseP q).filter p = l.filter p := by
  induction l with
  | nil => rfl
  | cons b l ih =>
    by_cases taken : q b = true
    · rw [List.eraseP_cons_of_pos taken, List.filter_cons_of_neg (by simp [apart b taken])]
    · rw [List.eraseP_cons_of_neg taken, List.filter_cons, ih, List.filter_cons]

/-- An element that a filter keeps is taken out after the filter as before it. -/
theorem filter_eraseP {β : Type} {p q : β → Bool} (within : ∀ b, q b = true → p b = true)
    (l : List β) : (l.eraseP q).filter p = (l.filter p).eraseP q := by
  induction l with
  | nil => rfl
  | cons b l ih =>
    by_cases taken : q b = true
    · rw [List.eraseP_cons_of_pos taken, List.filter_cons_of_pos (within b taken),
        List.eraseP_cons_of_pos taken]
    · rw [List.eraseP_cons_of_neg taken]
      by_cases kept : p b = true
      · rw [List.filter_cons_of_pos kept, List.filter_cons_of_pos kept,
          List.eraseP_cons_of_neg taken, ih]
      · rw [List.filter_cons_of_neg kept, List.filter_cons_of_neg kept, ih]

namespace Server

variable {s s' : Server} {t u workerId : String} {domain : Option String}
  {answer : Except ServerError (Option Task)}

/-- The server as far as it serves one type. -/
def only (s : Server) (t : String) : Server :=
  { new with waiting := s.waitingFor t, failPolls := s.failPolls }

/-- A poll changes the tasks that wait and leaves a record. -/
theorem poll_record (answered : s.poll t workerId domain = (answer, s')) :
    s' = { s with waiting := s'.waiting, polls := s.polls ++ [⟨t, workerId, domain⟩] } := by
  simp only [poll] at answered
  split_ifs at answered
  · cases answered
    rfl
  · split at answered <;> cases answered <;> rfl

theorem waitingFor_poll_other (answered : s.poll u workerId domain = (answer, s'))
    (other : u ≠ t) : s'.waitingFor t = s.waitingFor t := by
  simp only [poll] at answered
  split_ifs at answered
  · cases answered
    rfl
  · split at answered
    · cases answered
      rfl
    · cases answered
      refine filter_eraseP_of_not (fun task taken => ?_) _
      rw [(isFor_iff.mp taken).1]
      exact decide_eq_false other

/-- A poll of a type is answered from the tasks of the type. -/
theorem poll_own (answered : s.poll t workerId domain = (answer, s')) :
    ∃ s'', (s.only t).poll t workerId domain = (answer, s'') ∧ s''.waiting = s'.waitingFor t := by
  have within : ∀ task, isFor t domain task = true → decide (task.type = t) = true :=
    fun task taken => decide_eq_true (isFor_iff.mp taken).1
  have found : (s.waitingFor t).find? (isFor t domain) = s.waiting.find? (isFor t domain) := by
    rw [waitingFor, List.find?_filter]
    refine List.find?_congr fun task _ => ?_
    by_cases taken : isFor t domain task = true
    · simp [taken, within task taken]
    · simp [taken]
  simp only [poll, only, found] at answered ⊢
  split_ifs at answered ⊢
  · cases answered
    exact ⟨_, rfl, rfl⟩
  · split at answered
    · cases answered
      exact ⟨_, rfl, rfl⟩
    · cases answered
      exact ⟨_, rfl, (filter_eraseP within _).symm⟩

theorem report_accepting (result : TaskResult)
    (accepting : s.rejectReports = false ∧ s.failingReports = 0) :
    s.report result = (.ok (), { s with
      reportAttempts := s.reportAttempts + 1
      reported := s.reported ++ [result] }) := by
  simp [report, accepting.1, accepting.2]

end Server

namespace Watch

variable {w : Watch} {s s' : Site α} {t : String}

/-- A change that spares a type spares its lane. -/
theorem lane_congr (reached : s.host.Reachable)
    (spares : s.host.dispatcher.Spares s'.host.dispatcher t)
    (handlers : s'.host.handlers = s.host.handlers) (status : s'.host.status = s.host.status)
    (loop : s'.host.loop? t = s.host.loop? t) (failPolls : s'.server.failPolls = s.server.failPolls)
    (waiting : s'.server.waitingFor t = s.server.waitingFor t) : w.lane s' t = w.lane s t := by
  have stage := Host.stage_congr reached spares status loop
  simp only [lane, executions, handlers, spares.settings, spares.stopping, spares.gate,
    spares.slots, spares.executions, stage, failPolls, waiting]

end Watch

end TaskWorker
