import TaskWorker.Proofs.Holders
/-!
# How executions go on

An execution begins when a task is handed over, comes from its handler to its report, and ends. As
far as executions are concerned, an event does one of four things; what it does to ticks, slots and
counts is left out here.

* `Host.Event.handedTask?`, `Host.Event.doneWith?`, `Host.Event.isCalm`: what can be read off
  events;
* `Dispatcher.endings`, the executions that ended; `Dispatcher.others`, all executions but one;
* `Dispatcher.Turn`, what an event does to executions; **`Move.turn`**: every event does so;
* **`Host.Run.numbered`**: every task that was handed over has one execution, which ended or is
  under way.
-/

namespace TaskWorker

variable {α : Type}

/-! ## Events -/

namespace Host.Event

/-- The task that an event brings. -/
def handedTask? : Event → Option Task
  | .pollAnswered _ (.ok (some task)) => some task
  | _ => none

/-- The execution whose handler is done and has said who it is. -/
def doneWith? : Event → Option Nat
  | .handlerDone n _ (.returned _) _ => some n
  | _ => none

/-- Whether nothing panics but the work of a handler while it is waited for, which is caught and is
an outcome. This is more than that only a handler's execution panics: the call that hands it the
task may also panic before there is any work to wait for, and then the execution unwinds. -/
def isCalm : Event → Bool
  | .loopPanics _ | .pollPanics _ | .executionPanics _ => false
  | .handlerDone _ _ .panicked _ | .reportAnswered _ _ .panicked => false
  | _ => true

end Host.Event

/-- The execution that ended, with the way in which it did. -/
def Entry.ending? : Entry → Option (Nat × Fate)
  | .ended n fate => some (n, fate)
  | _ => none

namespace Dispatcher

variable {d d' d₁ : Dispatcher α} {tick : Tick α} {x : Execution α} {e : Host.Event}

/-- The executions that ended, with the ways in which they did, the latest first. -/
def endings (d : Dispatcher α) : List (Nat × Fate) := d.journal.filterMap Entry.ending?

theorem mem_endings {n : Nat} {fate : Fate} :
    (n, fate) ∈ d.endings ↔ Entry.ended n fate ∈ d.journal := by
  rw [endings, List.mem_filterMap]
  constructor
  · rintro ⟨entry, mem, same⟩
    cases entry <;> cases same
    exact mem
  · intro mem
    exact ⟨_, mem, rfl⟩

def others (d : Dispatcher α) (x : Execution α) : List (Execution α) :=
  d.executions.filter fun y => y.number ≠ x.number

theorem perm_others (o : d.Orderly) (mem : x ∈ d.executions) :
    d.executions.Perm (x :: d.others x) :=
  perm_cons_filter_ne Execution.number o.numbers mem

theorem perm_setPhase (o : d.Orderly) (mem : x ∈ d.executions) (phase : Phase) :
    (d.setPhase x.number phase).executions.Perm ({ x with phase } :: d.others x) := by
  have moved := (perm_others o mem).map fun y =>
    if y.number = x.number then { y with phase } else y
  refine moved.trans ?_
  rw [List.map_cons, if_pos rfl]
  have same : (d.others x).map (fun y => if y.number = x.number then { y with phase } else y) =
      d.others x := by
    refine (List.map_congr_left fun y hy => ?_).trans (List.map_id _)
    have : y.number ≠ x.number := by simpa using (List.mem_filter.mp hy).2
    rw [if_neg this, id]
  rw [same]

/-- The task whose execution an event ends while the task is with its handler, with the number of
the execution. -/
def cutShort? (d : Dispatcher α) : Host.Event → Option (Nat × Task)
  | .handlerDone n _ .panicked _ | .abandoned n | .executionPanics n =>
    ((d.execution? n).filter fun x => x.phase.isHandling).map fun x => (x.number, x.task)
  | _ => none

/-! ## Turns -/

/-- **What an event does to executions.** -/
inductive Turn (d : Dispatcher α) (e : Host.Event) (d' : Dispatcher α) : Prop where
  | stays (brings : e.handedTask? = none) (done : e.doneWith? = none)
      (executions : d'.executions = d.executions) (dispatched : d'.dispatched = d.dispatched)
      (running : d'.running = d.running) (endings : d'.endings = d.endings)
      (cutShort : d.cutShort? e = none)
  | begins (x : Execution α) (brings : e.handedTask? = some x.task) (done : e.doneWith? = none)
      (number : x.number = d.dispatched + 1) (handling : x.phase.isHandling = true)
      (executions : d'.executions = d.executions ++ [x]) (dispatched : d'.dispatched = x.number)
      (running : d'.running = d.running + 1) (endings : d'.endings = d.endings)
      (cutShort : d.cutShort? e = none)
  | goesOn (x : Execution α) (phase : Phase) (mem : x ∈ d.executions)
      (brings : e.handedTask? = none)
      (done : e.doneWith? = if x.phase.isHandling then some x.number else none)
      (reporting : phase.isHandling = false)
      (executions : d'.executions = (d.setPhase x.number phase).executions)
      (dispatched : d'.dispatched = d.dispatched) (running : d'.running = d.running)
      (endings : d'.endings = d.endings) (cutShort : d.cutShort? e = none)
  | ends (x : Execution α) (fate : Fate) (mem : x ∈ d.executions) (brings : e.handedTask? = none)
      (done : e.doneWith? = none)
      (reported : ∀ outcome, fate = .delivered outcome → x.phase.isHandling = false)
      (forced : ∀ handling, fate = .abandoned handling → d.forced = true)
      (panic : fate = .lost → e.isCalm = false)
      (executions : d'.executions = d.others x) (dispatched : d'.dispatched = d.dispatched)
      (running : d'.running = d.running - if fate = .lost then 0 else 1)
      (endings : d'.endings = (x.number, fate) :: d.endings)
      (cutShort : d.cutShort? e = if x.phase.isHandling then some (x.number, x.task) else none)

/-- An execution that an event ends is cut short if its task is with its handler. -/
theorem cutShort?_of_found {n : Nat} (found : d.execution? n = some x) :
    ((d.execution? n).filter fun x => x.phase.isHandling).map (fun x => (x.number, x.task)) =
      if x.phase.isHandling then some (x.number, x.task) else none := by
  rw [found, Option.filter_some]
  split_ifs <;> rfl

/-- **Every event takes one of these turns.** -/
theorem Move.turn (move : d.Move e d') : d.Turn e d' := by
  cases move with
  | aside kind same =>
    refine .stays ?_ ?_ same.executions same.dispatched same.running ?_ ?_
    · cases e <;> first | rfl | cases kind
    · cases e <;> first | rfl | cases kind
    · rw [endings, same.journal, endings]
    · cases e <;> first | rfl | cases kind
  | idle _ | noSlot _ _ _ | noTask _ | pollFailed _ | cut _ _ | pollLost _ =>
    exact .stays rfl rfl rfl rfl rfl rfl rfl
  | poll _ _ _ taken =>
    obtain ⟨_, _, _, _, rfl⟩ := acquire?_eq_some taken
    exact .stays rfl rfl rfl rfl rfl rfl rfl
  | handOver found => exact .begins _ rfl rfl rfl rfl rfl rfl rfl rfl rfl
  | @handled n since outcome identity now result x d₁ found stage concluded =>
    obtain ⟨_, rfl⟩ := conclude_eq concluded
    obtain ⟨mem, rfl⟩ := mem_of_execution? found
    refine .goesOn x _ mem rfl ?_ rfl rfl rfl rfl rfl rfl
    rw [stage]
    rfl
  | @lostConcluding n since outcome now result x d₁ found stage concluded =>
    obtain ⟨_, rfl⟩ := conclude_eq concluded
    have mem := (mem_of_execution? found).1
    refine .ends x .lost mem rfl rfl nofun nofun (fun _ => rfl) rfl rfl ?_ rfl
      (cutShort?_of_found found)
    rw [if_pos rfl, Int.sub_zero]
    rfl
  | @pauses n attempt since answer told result x phase found stage again =>
    obtain ⟨mem, rfl⟩ := mem_of_execution? found
    obtain ⟨-, _, _, rfl⟩ := afterReport_goOn again
    refine .goesOn x _ mem rfl ?_ rfl rfl rfl rfl rfl rfl
    rw [stage]
    rfl
  | @delivered n attempt since answer told result x outcome d₁ found stage finished =>
    obtain ⟨_, _, rfl, undelivered⟩ := afterReport_over finished
    have mem := (mem_of_execution? found).1
    have reporting : x.phase.isHandling = false := by
      rw [stage]
      rfl
    refine .ends x (.delivered outcome) mem rfl rfl (fun _ _ => reporting) nofun nofun rfl rfl rfl
      ?_ ?_
    · exact congrArg (List.cons _) (filterMap_news rfl undelivered)
    · rw [reporting]
      rfl
  | @lostTelling n attempt since answer result x outcome d₁ found stage finished _ =>
    obtain ⟨_, _, rfl, undelivered⟩ := afterReport_over finished
    have mem := (mem_of_execution? found).1
    refine .ends x .lost mem rfl rfl nofun nofun (fun _ => rfl) rfl rfl ?_ ?_ ?_
    · rw [if_pos rfl, Int.sub_zero]
      rfl
    · exact congrArg (List.cons _) (filterMap_news rfl undelivered)
    · rw [stage]
      rfl
  | @resumes n attempt due result x found stage =>
    obtain ⟨mem, rfl⟩ := mem_of_execution? found
    refine .goesOn x _ mem rfl ?_ rfl rfl rfl rfl rfl rfl
    rw [stage]
    rfl
  | @abandoned n x found forced =>
    have mem := (mem_of_execution? found).1
    exact .ends x (.abandoned _) mem rfl rfl nofun (fun _ _ => forced) nofun rfl rfl rfl rfl
      (cutShort?_of_found found)
  | @lost n x found =>
    have mem := (mem_of_execution? found).1
    refine .ends x .lost mem rfl rfl nofun nofun (fun _ => rfl) rfl rfl ?_ rfl
      (cutShort?_of_found found)
    rw [if_pos rfl, Int.sub_zero]
    rfl

/-! ## What turns keep -/

/-- Every number that was given out belongs to an execution that ended or is under way. -/
def Numbered (d : Dispatcher α) : Prop :=
  (List.range' 1 d.dispatched).Perm
    (d.endings.map Prod.fst ++ d.executions.map Execution.number)

theorem Turn.numbered (turn : d.Turn e d') (o : d.Orderly) (numbered : d.Numbered) :
    d'.Numbered := by
  unfold Numbered at numbered ⊢
  cases turn with
  | stays _ _ executions dispatched _ endings =>
    rw [dispatched, endings, executions]
    exact numbered
  | begins x _ _ number _ executions dispatched _ endings =>
    rw [dispatched, endings, executions, number, List.range'_concat, List.map_append,
      ← List.append_assoc]
    refine numbered.append (.of_eq ?_)
    rw [List.map_singleton, number, Nat.one_mul, Nat.add_comm]
  | goesOn x phase _ _ _ _ executions dispatched _ endings =>
    rw [dispatched, endings, executions, numbers_setPhase]
    exact numbered
  | ends x fate mem _ _ _ _ _ executions dispatched _ endings =>
    -- The number goes from those under way to those that ended.
    rw [dispatched, endings, executions]
    refine numbered.trans ?_
    refine (((perm_others o mem).map Execution.number).append_left _).trans ?_
    exact List.perm_middle

end Dispatcher

/-! ## Runs -/

namespace Host

variable {h₀ h h' : Host α} {e : Event} {es : List Event} {handlers : List (Handler α)}
  {settings : Settings}

theorem step?_turn (step : h.step? e = some h') : h.dispatcher.Turn e h'.dispatcher :=
  (step?_move step).turn

/-- **Every number that was given out in a run belongs to one execution,** which ended or is under
way. -/
theorem Run.numbered (built : build handlers settings = .ok h₀) (run : Run h₀ es h) :
    h.dispatcher.Numbered := by
  refine run.snocInduction (P := fun _ h => h.dispatcher.Numbered) ?_ ?_
  · obtain ⟨hs, a, rfl, _⟩ := build_eq_ok built
    exact .nil
  · intro es h h' e run numbered step
    exact (step?_turn step).numbered (run.orderly built) numbered

theorem Run.nodup_endings (built : build handlers settings = .ok h₀) (run : Run h₀ es h) :
    (h.dispatcher.endings.map Prod.fst).Nodup :=
  (List.nodup_append.mp ((run.numbered built).nodup_iff.mp List.nodup_range')).1

/-- An execution ends once. -/
theorem Run.fate_eq (built : build handlers settings = .ok h₀) (run : Run h₀ es h) {n : Nat}
    {fate fate' : Fate} (ended : (n, fate) ∈ h.dispatcher.endings)
    (ended' : (n, fate') ∈ h.dispatcher.endings) : fate = fate' :=
  congrArg Prod.snd (List.inj_on_of_nodup_map (run.nodup_endings built) ended ended' rfl)

/-- The tasks that were handed over in a run, with the numbers of their executions. -/
def handed (h : Host α) (es : List Event) : List (Nat × Task) :=
  h.along (fun h e => e.handedTask?.map fun task => (h.dispatcher.dispatched + 1, task)) es

theorem handed_snoc (run : Run h₀ es h) :
    h₀.handed (es ++ [e]) = h₀.handed es ++
      (e.handedTask?.map fun task => (h.dispatcher.dispatched + 1, task)).toList :=
  along_snoc _ run

/-- The tasks that were handed over are numbered in their order, from one. -/
theorem Run.map_fst_handed (built : build handlers settings = .ok h₀) (run : Run h₀ es h) :
    (h₀.handed es).map Prod.fst = List.range' 1 h.dispatcher.dispatched := by
  refine run.snocInduction
    (P := fun es h => (h₀.handed es).map Prod.fst = List.range' 1 h.dispatcher.dispatched) ?_ ?_
  · obtain ⟨hs, a, rfl, _⟩ := build_eq_ok built
    rfl
  · intro es h h' e run numbers step
    rw [handed_snoc run, List.map_append, numbers]
    cases step?_turn step with
    | stays brings _ _ dispatched _ _ | goesOn _ _ _ brings _ _ _ dispatched _ _
    | ends _ _ _ brings _ _ _ _ _ dispatched _ _ =>
      rw [brings, dispatched]
      exact List.append_nil _
    | begins x brings _ number _ _ dispatched _ _ =>
      rw [brings, dispatched, number, List.range'_concat, Nat.one_mul, Nat.add_comm]
      rfl

/-- The tasks whose handlers did their work in a run, with the numbers of their executions. -/
def executed (h : Host α) (es : List Event) : List (Nat × Task) :=
  h.along (fun h e => (e.doneWith?.bind h.dispatcher.execution?).map fun x => (x.number, x.task)) es

theorem executed_snoc (run : Run h₀ es h) :
    h₀.executed (es ++ [e]) = h₀.executed es ++
      ((e.doneWith?.bind h.dispatcher.execution?).map fun x => (x.number, x.task)).toList :=
  along_snoc _ run

/-- The tasks in a run whose executions ended while they were with their handlers, with the numbers
of the executions. -/
def cutShort (h : Host α) (es : List Event) : List (Nat × Task) :=
  h.along (fun h e => h.dispatcher.cutShort? e) es

theorem cutShort_snoc (run : Run h₀ es h) :
    h₀.cutShort (es ++ [e]) = h₀.cutShort es ++ (h.dispatcher.cutShort? e).toList :=
  along_snoc _ run

end Host

end TaskWorker
