import Mathlib.Data.List.Forall2
import TaskWorker.Proofs.Abandonment
import TaskWorker.Proofs.Sites
/-!
# Where tasks are

A task that the server is given waits in its queue until a poll draws it. The poll hands it to an
execution, whose number no other one has, and the execution is under way until it ends. A report
that the server takes ends its execution, so that no execution has two results recorded.

* `Dispatcher.Finished`, the executions whose handlers ended their work; **`Host.Run.finished`**: no
  handler ends it twice;
* `Host.recorded`, the results that the server took, by the numbers of their executions;
  **`Host.Run.count_recorded`**: one for an execution that ended in that way, none for others;
* `Site.Drawn`: the tasks of a queue are those drawn and those waiting; **`Site.exists_drawn`**;
* **`Site.every_task_in_one_place`**: all this for a built host with its server.
-/

namespace TaskWorker

variable {α : Type}

/-- The execution whose handler ends its work. -/
def Host.Event.finishes? : Event → Option Nat
  | .handlerDone n _ _ _ => some n
  | _ => none

/-- Only an answer of the server brings a task. -/
theorem Host.Event.handedTask?_eq_none {f : Event} (noAnswer : f.isAnswer = false) :
    f.handedTask? = none := by
  cases f <;> first | rfl | cases noAnswer

/-- Only an answer of the server accepts a result. -/
theorem Host.Event.accepts?_eq_none {f : Event} (noAnswer : f.isAnswer = false) :
    f.accepts? = none := by
  cases f <;> first | rfl | cases noAnswer

/-! ## Work that ends once -/

namespace Dispatcher

variable {d d' : Dispatcher α} {e : Host.Event}

/-- A handler that ends its work had a task, and has it no longer. -/
theorem Move.finishes (move : d.Move e d') {n : Nat} (finishes : e.finishes? = some n) :
    (∃ x ∈ d.executions, x.number = n ∧ x.phase.isHandling = true) ∧
      ∀ y ∈ d'.executions, y.number = n → y.phase.isHandling = false := by
  cases move with
  | aside kind _ => cases e <;> first | (cases kind; done) | cases finishes
  | handled found stage concluded =>
    cases finishes
    obtain ⟨_, rfl⟩ := conclude_eq concluded
    obtain ⟨mem, number⟩ := mem_of_execution? found
    refine ⟨⟨_, mem, number, by rw [stage, Phase.isHandling]⟩, fun y hy same => ?_⟩
    obtain ⟨z, -, rfl⟩ := List.mem_map.mp hy
    split_ifs at same ⊢
    · rfl
    · contradiction
  | @lostConcluding n since outcome now result x d₁ found stage concluded =>
    cases finishes
    obtain ⟨_, rfl⟩ := conclude_eq concluded
    obtain ⟨mem, rfl⟩ := mem_of_execution? found
    refine ⟨⟨x, mem, rfl, by rw [stage, Phase.isHandling]⟩, fun y hy same => ?_⟩
    have other : y.number ≠ x.number := by simpa using (List.mem_filter.mp hy).2
    exact absurd same other
  | _ => cases finishes

/-- A task at its handler was there before, or has just been handed over. -/
theorem Turn.handling (turn : d.Turn e d') {y : Execution α} (mem : y ∈ d'.executions)
    (handling : y.phase.isHandling = true) : y ∈ d.executions ∨ y.number = d.dispatched + 1 := by
  cases turn with
  | stays _ _ executions _ _ _ => exact .inl (executions ▸ mem)
  | begins x _ _ number _ executions _ _ _ =>
    rw [executions, List.mem_append, List.mem_singleton] at mem
    exact mem.imp_right fun same => (congrArg Execution.number same).trans number
  | goesOn x phase _ _ _ reporting executions _ _ _ =>
    rw [executions] at mem
    obtain ⟨z, hz, rfl⟩ := List.mem_map.mp mem
    split_ifs at handling ⊢
    · rw [reporting] at handling
      cases handling
    · exact .inl hz
  | ends x _ _ _ _ _ _ _ executions _ _ _ =>
    rw [executions] at mem
    exact .inl (List.mem_of_mem_filter mem)

theorem Turn.dispatched_le (turn : d.Turn e d') : d.dispatched ≤ d'.dispatched := by
  cases turn with
  | stays _ _ _ dispatched _ _ | goesOn _ _ _ _ _ _ _ dispatched _ _
  | ends _ _ _ _ _ _ _ _ _ dispatched _ _ => exact Nat.le_of_eq dispatched.symm
  | begins _ _ _ number _ _ dispatched _ _ => omega

/-- Different executions have ended their work at a handler and do not come back to it. -/
structure Finished (numbers : List Nat) (d : Dispatcher α) : Prop where
  nodup : numbers.Nodup
  le : ∀ n ∈ numbers, n ≤ d.dispatched
  gone : ∀ x ∈ d.executions, x.phase.isHandling = true → x.number ∉ numbers

theorem Finished.step {numbers : List Nat} (finished : Finished numbers d) (o : d.Orderly)
    (move : d.Move e d') : Finished (numbers ++ e.finishes?.toList) d' := by
  have later := move.turn.dispatched_le
  have old : ∀ y ∈ d'.executions, y.phase.isHandling = true → y.number ∉ numbers := by
    intro y hy handling mem
    rcases move.turn.handling hy handling with before | new
    · exact finished.gone y before handling mem
    · have := finished.le _ mem
      omega
  cases finishes : e.finishes? with
  | none =>
    rw [Option.toList_none, List.append_nil]
    exact ⟨finished.nodup, fun n hn => Nat.le_trans (finished.le n hn) later, old⟩
  | some n =>
    obtain ⟨⟨x, mem, rfl, handling⟩, gone⟩ := move.finishes finishes
    rw [Option.toList_some]
    refine ⟨?_, fun n hn => ?_, fun y hy working => ?_⟩
    · refine List.nodup_append.mpr ⟨finished.nodup, List.nodup_singleton _, ?_⟩
      rintro k hk _ hn rfl
      rw [List.mem_singleton.mp hn] at hk
      exact finished.gone x mem handling hk
    · rcases List.mem_append.mp hn with hn | hn
      · exact Nat.le_trans (finished.le n hn) later
      · rw [List.mem_singleton.mp hn]
        exact Nat.le_trans (o.numbers_le x mem) later
    · rw [List.mem_append, List.mem_singleton, not_or]
      refine ⟨old y hy working, fun same => ?_⟩
      rw [gone y hy same] at working
      cases working

/-- A result that the server accepts was being sent. -/
theorem Move.sending (move : d.Move e d') {n : Nat} (accepts : e.accepts? = some n) :
    ∃ result, d.sending? n = some result := by
  cases move with
  | aside kind _ => cases e <;> first | (cases kind; done) | cases accepts
  | @pauses _ attempt since answer told result x phase found stage again =>
    cases answer with
    | ok _ => cases again
    | error _ => cases accepts
  | @delivered _ attempt since answer told result x outcome d₁ found stage finished =>
    cases answer with
    | ok _ =>
      cases accepts
      exact ⟨result, by rw [sending?, found, Option.bind_some, stage, Phase.sending?]⟩
    | error _ => cases accepts
  | @lostTelling _ attempt since answer result x outcome d₁ found stage finished undelivered =>
    cases answer with
    | ok _ =>
      cases accepts
      exact ⟨result, by rw [sending?, found, Option.bind_some, stage, Phase.sending?]⟩
    | error _ => cases accepts
  | _ => cases accepts

end Dispatcher

/-! ## Runs of the host -/

namespace Host

variable {h₀ h h' : Host α} {e : Event} {es : List Event} {handlers : List (Handler α)}
  {settings : Settings}

/-- **No handler ends its work twice.** -/
theorem Run.finished (built : build handlers settings = .ok h₀) (run : Run h₀ es h) :
    Dispatcher.Finished (es.filterMap Event.finishes?) h.dispatcher := by
  refine run.snocInduction
    (P := fun es h => Dispatcher.Finished (es.filterMap Event.finishes?) h.dispatcher) ?_ ?_
  · obtain ⟨hs, a, rfl, _⟩ := build_eq_ok built
    exact ⟨List.nodup_nil, fun _ mem => absurd mem List.not_mem_nil,
      fun _ mem => absurd mem List.not_mem_nil⟩
  · intro es h h' e run finished step
    rw [List.filterMap_append, List.filterMap_cons, List.filterMap_nil]
    have after := finished.step (run.orderly built) (step?_move step)
    cases finishes : e.finishes? with
    | none =>
      rw [finishes] at after
      exact after
    | some n =>
      rw [finishes] at after
      exact after

/-- An execution that is under way has the task that was handed over under its number. -/
theorem Run.mem_handed (built : build handlers settings = .ok h₀) (run : Run h₀ es h) :
    ∀ x ∈ h.dispatcher.executions, (x.number, x.task) ∈ h₀.handed es := by
  refine run.snocInduction
    (P := fun es h => ∀ x ∈ h.dispatcher.executions, (x.number, x.task) ∈ h₀.handed es) ?_ ?_
  · obtain ⟨hs, a, rfl, _⟩ := build_eq_ok built
    exact fun _ mem => absurd mem List.not_mem_nil
  · intro es h h' e run handed step y mem
    rw [handed_snoc run, List.mem_append]
    cases step?_turn step with
    | stays _ _ executions _ _ _ => exact .inl (handed y (executions ▸ mem))
    | begins x brings _ number _ executions _ _ _ =>
      rw [executions, List.mem_append, List.mem_singleton] at mem
      refine mem.imp (handed y) fun same => ?_
      rw [same, brings, ← number]
      exact List.mem_singleton_self _
    | goesOn x phase _ _ _ _ executions _ _ _ =>
      rw [executions] at mem
      obtain ⟨z, hz, rfl⟩ := List.mem_map.mp mem
      refine .inl ?_
      split_ifs <;> exact handed z hz
    | ends x _ _ _ _ _ _ _ executions _ _ _ =>
      rw [executions] at mem
      exact .inl (handed y (List.mem_of_mem_filter mem))

/-- The results that the server took in a run, with the numbers of their executions. -/
def recorded (h : Host α) (es : List Event) : List (Nat × TaskResult) :=
  h.along (fun h e => e.accepts?.bind fun n => (h.dispatcher.sending? n).map fun r => (n, r)) es

theorem recorded_snoc (run : Run h₀ es h) :
    h₀.recorded (es ++ [e]) = h₀.recorded es ++
      (e.accepts?.bind fun n => (h.dispatcher.sending? n).map fun r => (n, r)).toList :=
  along_snoc _ run

/-- The executions of the results are those whose reports were taken. -/
theorem Run.map_fst_recorded (built : build handlers settings = .ok h₀) (run : Run h₀ es h) :
    (h₀.recorded es).map Prod.fst = h.dispatcher.accepted.reverse := by
  have accepted : h.dispatcher.accepted = (es.filterMap Event.accepts?).reverse := by
    obtain ⟨hs, a, rfl, _⟩ := build_eq_ok built
    exact run.tells.2.1.trans (List.append_nil _)
  rw [accepted, List.reverse_reverse]
  refine run.snocInduction
    (P := fun es _ => (h₀.recorded es).map Prod.fst = es.filterMap Event.accepts?) rfl ?_
  intro es h h' e run numbers step
  rw [recorded_snoc run, List.map_append, numbers, List.filterMap_append, List.filterMap_cons,
    List.filterMap_nil]
  cases accepts : e.accepts? with
  | none => rfl
  | some n =>
    obtain ⟨result, sending⟩ := (step?_move step).sending accepts
    rw [Option.bind_some, sending]
    rfl

theorem Run.nodup_recorded (built : build handlers settings = .ok h₀) (run : Run h₀ es h) :
    ((h₀.recorded es).map Prod.fst).Nodup := by
  rw [run.map_fst_recorded built, List.nodup_reverse]
  exact (List.filter_sublist.map _).nodup (run.nodup_endings built)

/-- **An execution that ended has its result recorded exactly if its report was taken.** -/
theorem Run.count_recorded (built : build handlers settings = .ok h₀) (run : Run h₀ es h)
    {n : Nat} {fate : Fate} (ended : (n, fate) ∈ h.dispatcher.endings) :
    ((h₀.recorded es).map Prod.fst).count n = if fate.isAccepted then 1 else 0 := by
  have mem : n ∈ (h₀.recorded es).map Prod.fst ↔ fate.isAccepted = true := by
    rw [run.map_fst_recorded built, List.mem_reverse, Dispatcher.accepted, List.mem_map]
    constructor
    · rintro ⟨⟨n, other⟩, found, rfl⟩
      obtain ⟨ended', taken⟩ := List.mem_filter.mp found
      obtain rfl := run.fate_eq built ended ended'
      exact taken
    · intro taken
      exact ⟨_, List.mem_filter.mpr ⟨ended, taken⟩, rfl⟩
  rw [(run.nodup_recorded built).count]
  exact if_congr mem rfl rfl

end Host

/-! ## Runs of a host with its server -/

namespace Site

variable {h₀ : Host α} {s₀ s : Site α} {e : Event} {es : List Event} {handlers : List (Handler α)}
  {settings : Settings}

/-- The tasks that were handed over, with the numbers of their executions. -/
def handed (s : Site α) (es : List Event) : List (Nat × Task) := s.host.handed (s.hostEvents es)

/-- The results that the server took, with the numbers of their executions. -/
def recorded (s : Site α) (es : List Event) : List (Nat × TaskResult) :=
  s.host.recorded (s.hostEvents es)

theorem enqueued_snoc : enqueued (es ++ [e]) = enqueued es ++ e.enqueued?.toList := by
  rw [enqueued, List.filterMap_append, List.filterMap_cons, List.filterMap_nil, enqueued]
  cases e.enqueued? <;> rfl

theorem handed_snoc (run : s₀.replay es = some s) :
    s₀.handed (es ++ [e]) = s₀.handed es ++
      (((s.hostEvent? e).bind Host.Event.handedTask?).map fun task =>
        (s.host.dispatcher.dispatched + 1, task)).toList := by
  rw [handed, hostEvents_snoc run, handed]
  cases s.hostEvent? e with
  | none => rw [Option.toList_none, List.append_nil]; exact (List.append_nil _).symm
  | some f => exact Host.handed_snoc (run_hostEvents run)

theorem recorded_snoc (run : s₀.replay es = some s) :
    s₀.recorded (es ++ [e]) = s₀.recorded es ++
      (((s.hostEvent? e).bind Host.Event.accepts?).bind fun n =>
        (s.host.dispatcher.sending? n).map fun r => (n, r)).toList := by
  rw [recorded, hostEvents_snoc run, recorded]
  cases s.hostEvent? e with
  | none => rw [Option.toList_none, List.append_nil]; exact (List.append_nil _).symm
  | some f => exact Host.recorded_snoc (run_hostEvents run)

/-- Of the tasks that a queue was given, the oldest were drawn, in their order, and the others
wait; each task that was drawn was handed over. -/
structure Drawn (given drawn : List Task) (handed : List (Nat × Task)) (server : Server) :
    Prop where
  queues : ∀ t d, given.filter (Server.isFor t d) =
    drawn.filter (Server.isFor t d) ++ server.queue t d
  handed : List.Forall₂ (fun task x => ∃ w, x.2 = Server.handOut task w) drawn handed

theorem Drawn.mem {given drawn : List Task} {handed : List (Nat × Task)} {server : Server}
    (drawing : Drawn given drawn handed server) {task : Task} (mem : task ∈ drawn) :
    task ∈ given := by
  have own : Server.isFor task.type task.domain task = true := Server.isFor_iff.mpr ⟨rfl, rfl⟩
  have inQueue : task ∈ given.filter (Server.isFor task.type task.domain) := by
    rw [drawing.queues]
    exact List.mem_append_left _ (List.mem_filter.mpr ⟨mem, own⟩)
  exact List.mem_of_mem_filter inQueue

theorem Drawn.enqueue {given drawn new : List Task} {handed : List (Nat × Task)}
    {server server' : Server} (drawing : Drawn given drawn handed server)
    (waiting : server'.waiting = server.waiting ++ new) :
    Drawn (given ++ new) drawn handed server' := by
  refine ⟨fun t d => ?_, drawing.handed⟩
  rw [List.filter_append, drawing.queues t d, Server.queue, Server.queue, waiting,
    List.filter_append, List.append_assoc]

theorem Drawn.draw {given drawn : List Task} {handed : List (Nat × Task)} {server server' : Server}
    {task : Task} {n : Nat} {w : String} (drawing : Drawn given drawn handed server)
    (taken : ∀ t d, server.queue t d = [task].filter (Server.isFor t d) ++ server'.queue t d) :
    Drawn given (drawn ++ [task]) (handed ++ [(n, Server.handOut task w)]) server' := by
  refine ⟨fun t d => ?_, ?_⟩
  · rw [drawing.queues t d, taken t d, List.filter_append, List.append_assoc]
  · exact List.rel_append drawing.handed (.cons ⟨w, rfl⟩ .nil)

/-- **The tasks that the server was given were drawn by polls or wait in their queues.** -/
theorem exists_drawn (run : s₀.replay es = some s) (fresh : s₀.server = .new) :
    ∃ drawn, Drawn (enqueued es) drawn (s₀.handed es) s.server := by
  refine snocInduction
    (P := fun es s => ∃ drawn, Drawn (enqueued es) drawn (s₀.handed es) s.server) ?_ ?_ run
  · exact ⟨[], fun t d => by rw [fresh]; rfl, .nil⟩
  · intro es s s' e run ⟨drawn, drawing⟩ step
    -- All turns but one hand no task over and leave the queues, but for a task that is added.
    have other (brings : (s.hostEvent? e).bind Host.Event.handedTask? = none)
        (waiting : s'.server.waiting = s.server.waiting ++ e.enqueued?.toList) :
        ∃ drawn, Drawn (enqueued (es ++ [e])) drawn (s₀.handed (es ++ [e])) s'.server := by
      rw [enqueued_snoc, handed_snoc run, brings, Option.map_none, Option.toList_none,
        List.append_nil]
      exact ⟨drawn, drawing.enqueue waiting⟩
    cases step?_turn step with
    | told unheard _ waiting _ => exact other (by rw [unheard, Option.bind_none]) waiting
    | beside noTask heard noAnswer _ server =>
      refine other ?_ (by rw [noTask, server, Option.toList_none, List.append_nil])
      rw [heard, Option.bind_some, Host.Event.handedTask?_eq_none noAnswer]
    | reported noTask heard _ answered _ =>
      refine other (by rw [heard]; rfl) ?_
      rw [noTask, (Server.report_eq answered).1, Option.toList_none, List.append_nil]
    | @polled tick answer noTask heard answered _ =>
      rcases (Server.poll_eq answered).2 with ⟨task, rfl, taken⟩ | ⟨none, waiting⟩
      · rw [enqueued_snoc, handed_snoc run, noTask, heard, Option.toList_none, List.append_nil]
        exact ⟨drawn ++ [task], drawing.draw taken⟩
      · refine other ?_ (by rw [noTask, waiting, Option.toList_none, List.append_nil])
        rw [heard]
        rcases answer with error | task | task
        · rfl
        · rfl
        · exact absurd rfl (none task)

/-- **The server recorded what it took.** -/
theorem reported_eq (run : s₀.replay es = some s) (fresh : s₀.server = .new) :
    s.server.reported = (s₀.recorded es).map Prod.snd := by
  refine snocInduction (P := fun es s => s.server.reported = (s₀.recorded es).map Prod.snd)
    ?_ ?_ run
  · rw [fresh]
    rfl
  · intro es s s' e run recorded step
    have other (silent : (s.hostEvent? e).bind Host.Event.accepts? = none)
        (reported : s'.server.reported = s.server.reported) :
        s'.server.reported = (s₀.recorded (es ++ [e])).map Prod.snd := by
      rw [recorded_snoc run, silent, reported, recorded, Option.bind_none, Option.toList_none,
        List.append_nil]
    cases step?_turn step with
    | told unheard _ _ reported => exact other (by rw [unheard, Option.bind_none]) reported
    | beside _ heard noAnswer _ server =>
      refine other ?_ (congrArg Server.reported server)
      rw [heard, Option.bind_some, Host.Event.accepts?_eq_none noAnswer]
    | polled _ heard answered _ =>
      exact other (by rw [heard]; rfl) (Server.poll_eq answered).1
    | @reported n result answer told _ heard sent answered _ =>
      rw [recorded_snoc run, heard, List.map_append, ← recorded, (Server.report_eq answered).2]
      cases answer with
      | ok _ =>
        rw [Option.bind_some, Host.Event.accepts?, Option.bind_some, sent]
        rfl
      | error _ => rfl

/-- **Every task is in one place.** The tasks that a queue was given are, in their order, those that
were drawn and those that wait, and each task that was drawn was handed to one execution, which is
under way with it or has ended. No handler ends its work on a task twice. Each result that the
server recorded is of one execution, and an execution that ended has its result recorded, once,
exactly if its report was taken. -/
theorem every_task_in_one_place (built : Host.build handlers settings = .ok h₀)
    (run : (start h₀).replay es = some s)
    (bounded : ∀ task ∈ enqueued es, task.pollCount.toNat + 1 < UInt32.size) :
    (∃ drawn : List Task,
      (∀ t d, (enqueued es).filter (Server.isFor t d) =
        drawn.filter (Server.isFor t d) ++ s.server.queue t d) ∧
      List.Forall₂ (fun task x => ∃ w, x.2 = Server.handOut task w ∧
        x.2.pollCount.toNat = task.pollCount.toNat + 1) drawn ((start h₀).handed es)) ∧
    (((start h₀).handed es).map Prod.fst).Nodup ∧
    (((start h₀).handed es).map Prod.fst).Perm
      (s.host.dispatcher.endings.map Prod.fst ++
        s.host.dispatcher.executions.map Execution.number) ∧
    (∀ x ∈ s.host.dispatcher.executions, (x.number, x.task) ∈ (start h₀).handed es) ∧
    (((start h₀).hostEvents es).filterMap Host.Event.finishes?).Nodup ∧
    s.server.reported = ((start h₀).recorded es).map Prod.snd ∧
    (((start h₀).recorded es).map Prod.fst).Nodup ∧
    ∀ n fate, (n, fate) ∈ s.host.dispatcher.endings →
      (((start h₀).recorded es).map Prod.fst).count n = if fate.isAccepted then 1 else 0 := by
  have hostRun : Host.Run h₀ ((start h₀).hostEvents es) s.host := run_hostEvents run
  obtain ⟨drawn, drawing⟩ := exists_drawn run rfl
  have numbers : ((start h₀).handed es).map Prod.fst =
      List.range' 1 s.host.dispatcher.dispatched := hostRun.map_fst_handed built
  refine ⟨⟨drawn, drawing.queues, ?_⟩, ?_, ?_, hostRun.mem_handed built,
    (hostRun.finished built).nodup, reported_eq run rfl, hostRun.nodup_recorded built,
    fun n fate => hostRun.count_recorded built⟩
  · have small (task : Task) (mem : task ∈ drawn) : task.pollCount.toNat + 1 < UInt32.size :=
      bounded task (drawing.mem mem)
    have both := (List.forall₂_and_left drawn _).mpr ⟨small, drawing.handed⟩
    refine List.Forall₂.imp (fun task x ⟨small, w, out⟩ => ⟨w, out, ?_⟩) both
    rw [out, Server.pollCount_handOut w small]
  · rw [numbers]
    exact List.nodup_range'
  · rw [numbers]
    exact hostRun.numbered built

/-- A task that is given twice, and a report that fails first and is then taken. -/
def sampleEvents : List Event :=
  [.enqueue Host.sampleTask, .host (.init true), .failReports 1, .enqueue Host.sampleTask,
    .host (.elapse 1000), .host (.loopTicks "parcel" false none), .pollServed 0,
    .host (.handlerDone 1 (.returned (.completed Host.sampleTask .null)) (.returned none) .epoch),
    .reportServed 1 (.returned ()), .host (.elapse 10000), .host (.pauseDone 1),
    .reportServed 1 (.returned ())]

def sampleSite : Site Unit := ((start Host.sample).replay sampleEvents).get (by decide)

/-- The result of the sample was recorded once; the second task waits. -/
theorem sample_every_task_in_one_place :
    (((start Host.sample).recorded sampleEvents).map Prod.fst).count 1 = 1 ∧
      sampleSite.server.reported.length = 1 ∧
      (sampleSite.server.queue "parcel" none).length = 1 := by
  have run : (start Host.sample).replay sampleEvents = some sampleSite := (Option.some_get _).symm
  have place := every_task_in_one_place Host.build_sample run (by decide)
  have ended : (1, Fate.delivered (.reported 2)) ∈ sampleSite.host.dispatcher.endings := by decide
  exact ⟨place.2.2.2.2.2.2.2 _ _ ended, by decide, by decide⟩

end Site

end TaskWorker
