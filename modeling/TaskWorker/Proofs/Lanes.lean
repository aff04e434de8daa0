import Mathlib.Data.List.Find
import TaskWorker.Clock
/-!
# What a task type has to itself

A lane is the part of a site that belongs to one task type: its loop, its slots, its executions and
the tasks that wait for it, with what somebody told the host and the server. Executions have places
instead of numbers, in the order in which the type got them, and results have no log times. A lane
goes on by marks, and each mark but a call is due at some time.

* `Sight`, what can be seen of a type; `Mark`, what happens to it; `Stage`, `Lane`;
* `Lane.next`, the lane after a mark; `Lane.sights`, what is seen of it; `Lane.due?`, when it is due;
* **`Lane.due?_next`**: what is due stays so until it happens.
-/

namespace TaskWorker

variable {α : Type}

/-! ## Results without log times -/

/-- A result without the times of its log. -/
def TaskResult.untimed (r : TaskResult) : TaskResult :=
  { r with logs := r.logs.map fun line => { line with time := .epoch } }

def Outcome.untimed : Outcome → Outcome
  | .returned r => .returned r.untimed
  | o => o

def Phase.untimed : Phase → Phase
  | .handling since => .handling since
  | .reporting result attempt since => .reporting result.untimed attempt since
  | .pausing result attempt due => .pausing result.untimed attempt due

@[simp]
theorem TaskResult.untimed_untimed (r : TaskResult) : r.untimed.untimed = r.untimed := by
  simp [untimed]

@[simp]
theorem TaskResult.untimed_signedBy (r : TaskResult) (workerId : String) :
    (r.signedBy workerId).untimed = r.untimed.signedBy workerId := rfl

/-- Log times apart, a result does not depend on the clock of the log. -/
theorem Outcome.untimed_result (o : Outcome) (task : Task) (now : Moment) :
    (o.result task now).untimed = (o.untimed.result task .epoch).untimed := by
  cases o with
  | returned r => exact (TaskResult.untimed_untimed r).symm
  | failed e =>
    simp only [untimed, result, HandlerError.result]
    split <;> rfl
  | panicked p => rfl

/-! ## Sights and marks -/

/-- What can be seen of a task type. -/
inductive Sight where
  | ticked (outcome : TickOutcome)
  | polled (record : PollRecord)
  /-- The server accepts a result, seen without its log times. -/
  | accepted (result : TaskResult)
  /-- So many slots are busy from now on. -/
  | busy (slots : Int)

/-- What happens to a task type. -/
inductive Mark where
  /-- The `k`-th call that has to do with the type. -/
  | call (k : Nat) (c : Call)
  | tick
  | served
  /-- The handler is done with the task that the type got in the `k`-th place. -/
  | done (k : Nat)
  /-- The server sees the report of that task's result. -/
  | reported (k : Nat)

def Mark.isCall : Mark → Bool
  | .call _ _ => true
  | _ => false

/-! ## Lanes -/

/-- Where the loop of a type stands. -/
inductive Stage (α : Type) where
  | unstarted
  | sleeping (g : Handler α) (due : Nat)
  | polling (g : Handler α) (workerId : String) (domain : Option String) (since : Nat)
  /-- There is no loop, or it has ended. -/
  | ended

/-- What a task type has to itself, and what it hears of others. -/
structure Lane (α : Type) where
  handler : Option (Handler α)
  settings : Settings
  stopping : Bool
  gate : Option Bool
  slots : Option Slots
  stage : Stage α
  /-- The executions of the type; their numbers are places. -/
  executions : List (Execution α)
  /-- The number of tasks that the type got so far. -/
  begun : Nat
  calls : Nat
  failPolls : Bool
  waiting : List Task

namespace Lane

def busy (L : Lane α) : Int :=
  match L.slots with
  | none => 0
  | some s => s.busy

/-- The server as far as it serves this type. -/
def server (L : Lane α) : Server :=
  { Server.new with waiting := L.waiting, failPolls := L.failPolls }

def execution? (L : Lane α) (k : Nat) : Option (Execution α) :=
  L.executions.find? fun x => x.number = k

/-- The stage of a loop after a tick. -/
def restStage (g : Handler α) (now : Nat) (outcome : TickOutcome) : Stage α :=
  if outcome = .shuttingDown then .ended else .sleeping g (now + g.interval.ticks)

def startStage (L : Lane α) (now : Nat) : Stage α :=
  match L.handler with
  | none => .ended
  | some g => .sleeping g (now + g.interval.ticks)

/-! ## Steps of a lane -/

def heed (L : Lane α) (now : Nat) : Call → Lane α
  | .init inRuntime =>
    match inRuntime, L.stage with
    | true, .unstarted => { L with stage := L.startStage now }
    | _, _ => L
  | .enqueue task => { L with waiting := L.waiting ++ [task] }
  | .gate available => { L with gate := some available }
  | .failPolls b => { L with failPolls := b }

/-- A tick that ends before its poll. -/
def endTick (L : Lane α) (g : Handler α) (now : Nat) (outcome : TickOutcome) :
    Lane α × List Sight :=
  ({ L with stage := restStage g now outcome }, [.ticked outcome])

def tick (env : Surroundings α) (L : Lane α) (now : Nat) : Lane α × List Sight :=
  match L.stage with
  | .sleeping g _ =>
    if L.stopping then L.endTick g now .shuttingDown
    else if !L.gate.getD true then L.endTick g now .serverUnavailable
    else if env.paused g now then L.endTick g now .paused
    else
      match L.slots.bind Slots.acquire? with
      | none => L.endTick g now .noCapacity
      | some s =>
        ({ L with
          slots := some s
          stage := .polling g ((env.identity g now).getD L.settings.workerId)
            (L.settings.domainFor g.taskType) now }, [])
  | _ => (L, [])

/-- The lane after a poll was answered, and the outcome of the tick. -/
def answer (L : Lane α) (g : Handler α) (workerId : String) (now : Nat) :
    Except ServerError (Option Task) → TickOutcome × Lane α
  | .ok (some task) =>
    (.dispatched task.id, { L with
      executions := L.executions ++ [⟨L.begun, g, workerId, task, .handling now⟩]
      begun := L.begun + 1 })
  | .ok none => (.noTask, { L with slots := L.slots.map Slots.release })
  | .error _ => (.pollFailed, { L with slots := L.slots.map Slots.release })

def serve (L : Lane α) (now : Nat) : Lane α × List Sight :=
  match L.stage with
  | .polling g workerId domain _ =>
    let (answered, server) := L.server.poll g.taskType workerId domain
    let (outcome, L) := { L with waiting := server.waiting }.answer g workerId now answered
    ({ L with stage := restStage g now outcome },
      [.ticked outcome, .polled ⟨g.taskType, workerId, domain⟩])
  | _ => (L, [])

/-- The result of a task that a handler is done with, without its log times. -/
def resultOf (env : Surroundings α) (L : Lane α) (x : Execution α) (since now : Nat) : TaskResult :=
  (((env.work x.handler x.task since).2.result x.task .epoch).signedBy
    ((env.identity x.handler now).getD L.settings.workerId)).untimed

def setPhase (L : Lane α) (k : Nat) (phase : Phase) : Lane α :=
  { L with executions := L.executions.map fun x => if x.number = k then { x with phase } else x }

/-- The handler is done with the task in a place. -/
def finish (env : Surroundings α) (L : Lane α) (now k : Nat) : Lane α :=
  match L.execution? k with
  | some x =>
    match x.phase with
    | .handling since => L.setPhase k (.reporting (L.resultOf env x since now) 1 now)
    | _ => L
  | none => L

/-- The server takes the result of the task in a place. -/
def deliver (L : Lane α) (k : Nat) : Lane α × List Sight :=
  match L.execution? k with
  | some x =>
    match x.phase with
    | .reporting result _ _ =>
      ({ L with
        slots := L.slots.map Slots.release
        executions := L.executions.filter fun y => y.number ≠ k }, [.accepted result])
    | _ => (L, [])
  | none => (L, [])

/-- The lane after a mark, and what is seen apart from its slots. -/
def go (env : Surroundings α) (L : Lane α) (now : Nat) : Mark → Lane α × List Sight
  | .call _ c => ({ L.heed now c with calls := L.calls + 1 }, [])
  | .tick => L.tick env now
  | .served => L.serve now
  | .done k => (L.finish env now k, [])
  | .reported k => L.deliver k

def next (env : Surroundings α) (L : Lane α) (now : Nat) (m : Mark) : Lane α := (L.go env now m).1

/-- What is seen of busy slots between two lanes. -/
def busySight (before after : Int) : List Sight := if after = before then [] else [.busy after]

def sights (env : Surroundings α) (L : Lane α) (now : Nat) (m : Mark) : List Sight :=
  (L.go env now m).2 ++ busySight L.busy (L.next env now m).busy

/-- When a mark is due; calls never are. -/
def due? (env : Surroundings α) (L : Lane α) : Mark → Option Nat
  | .call _ _ => none
  | .tick =>
    match L.stage with
    | .sleeping _ due => some due
    | _ => none
  | .served =>
    match L.stage with
    | .polling g _ _ since => some (since + env.pollDelay g since)
    | _ => none
  | .done k =>
    (L.execution? k).bind fun x =>
      match x.phase with
      | .handling since => some (since + (env.work x.handler x.task since).1)
      | _ => none
  | .reported k =>
    (L.execution? k).bind fun x =>
      match x.phase with
      | .reporting _ _ since => some (since + env.reportDelay x.handler since)
      | _ => none

variable {env : Surroundings α} {L : Lane α} {now : Nat} {m m' : Mark}

theorem executions_heed (c : Call) : (L.heed now c).executions = L.executions := by
  cases c with
  | init inRuntime => simp only [heed]; split <;> rfl
  | enqueue _ | gate _ | failPolls _ => rfl

theorem heed_init (started : L.stage ≠ .unstarted) (inRuntime : Bool) :
    L.heed now (.init inRuntime) = L := by
  simp only [heed]
  split
  · rename_i unstarted
    exact absurd unstarted started
  · rfl

theorem stage_heed {c : Call} (started : L.stage ≠ .unstarted) :
    (L.heed now c).stage = L.stage := by
  cases c with
  | init inRuntime => rw [heed_init started]
  | enqueue _ | gate _ | failPolls _ => rfl

theorem executions_tick : (L.tick env now).1.executions = L.executions := by
  simp only [tick]
  split
  · split_ifs
    · rfl
    · rfl
    · rfl
    · split <;> rfl
  · rfl

theorem serve_eq {g : Handler α} {workerId : String} {domain : Option String} {since : Nat}
    {answer : Except ServerError (Option Task)} {server : Server} {outcome : TickOutcome}
    {L' : Lane α} (stage : L.stage = .polling g workerId domain since)
    (answered : L.server.poll g.taskType workerId domain = (answer, server))
    (taken : { L with waiting := server.waiting }.answer g workerId now answer = (outcome, L')) :
    L.serve now = ({ L' with stage := restStage g now outcome },
      [.ticked outcome, .polled ⟨g.taskType, workerId, domain⟩]) := by
  simp only [stage] at taken
  simp only [serve, stage, answered, taken]

theorem stage_finish (k : Nat) : (L.finish env now k).stage = L.stage := by
  simp only [finish]
  split
  · split <;> rfl
  · rfl

theorem stage_deliver (k : Nat) : (L.deliver k).1.stage = L.stage := by
  simp only [deliver]
  split
  · split <;> rfl
  · rfl

/-! ## What stays due -/

variable {k j : Nat} {x : Execution α}

theorem number_of_execution? (found : L.execution? k = some x) : x.number = k := by
  simpa using List.find?_some found

theorem execution?_serve (found : L.execution? k = some x) :
    (L.serve now).1.execution? k = some x := by
  simp only [serve]
  split
  · rename_i g workerId domain since _
    rcases (L.server.poll g.taskType workerId domain).1 with error | task | task
    · exact found
    · exact found
    · have older := congrArg (Option.or · ([⟨L.begun, g, workerId, task, .handling now⟩].find?
        fun y => y.number = k)) found
      simpa only [execution?, answer, List.find?_append, Option.some_or] using older
  · exact found

theorem execution?_setPhase (found : L.execution? k = some x) (other : k ≠ j) (phase : Phase) :
    (L.setPhase j phase).execution? k = some x := by
  have elsewhere : x.number ≠ j := by rwa [number_of_execution? found]
  have same : ∀ y : Execution α, (if y.number = j then { y with phase } else y).number = y.number :=
    fun y => by split_ifs <;> rfl
  simp only [execution?, setPhase, List.find?_map, Function.comp_def, same]
  rw [execution?] at found
  rw [found, Option.map_some, if_neg elsewhere]

theorem execution?_finish (found : L.execution? k = some x) (other : k ≠ j) :
    (L.finish env now j).execution? k = some x := by
  simp only [finish]
  split
  · split
    · exact execution?_setPhase found other _
    · exact found
  · exact found

theorem execution?_deliver (found : L.execution? k = some x) (other : k ≠ j) :
    (L.deliver j).1.execution? k = some x := by
  simp only [deliver]
  split
  · split
    · simp only [execution?, List.find?_filter]
      rw [← found, execution?]
      refine List.find?_congr fun y _ => ?_
      by_cases here : y.number = k
      · simp [here, other]
      · simp [here]
    · exact found
  · exact found

/-- What happens elsewhere leaves an execution in its place. -/
theorem execution?_next (found : L.execution? k = some x) (other : m ≠ .done k)
    (other' : m ≠ .reported k) : (L.next env now m).execution? k = some x := by
  cases m with
  | call i c =>
    simp only [next, go, execution?, executions_heed]
    exact found
  | tick =>
    simp only [next, go, execution?, executions_tick]
    exact found
  | served => exact execution?_serve found
  | done j => exact execution?_finish found fun same => other (by rw [same])
  | reported j => exact execution?_deliver found fun same => other' (by rw [same])

theorem stage_next_of_sleeping {g : Handler α} {due : Nat} (asleep : L.stage = .sleeping g due)
    (other : m ≠ .tick) : (L.next env now m).stage = .sleeping g due := by
  have started : L.stage ≠ .unstarted := by
    rw [asleep]
    nofun
  rw [← asleep]
  cases m with
  | call _ c => exact stage_heed started
  | tick => exact absurd rfl other
  | served => simp only [next, go, serve, asleep]
  | done j => exact stage_finish j
  | reported j => exact stage_deliver j

theorem stage_next_of_polling {g : Handler α} {workerId : String} {domain : Option String}
    {since : Nat} (polling : L.stage = .polling g workerId domain since) (other : m ≠ .served) :
    (L.next env now m).stage = .polling g workerId domain since := by
  have started : L.stage ≠ .unstarted := by
    rw [polling]
    nofun
  rw [← polling]
  cases m with
  | call _ c => exact stage_heed started
  | tick => simp only [next, go, tick, polling]
  | served => exact absurd rfl other
  | done j => exact stage_finish j
  | reported j => exact stage_deliver j

/-- A report that is not out is not seen. -/
theorem next_reported_of_handling {since : Nat} (found : L.execution? k = some x)
    (working : x.phase = .handling since) : L.next env now (.reported k) = L := by
  simp only [next, go, deliver, found, working]

/-- A handler that is done is not done again. -/
theorem next_done_of_reporting {result : TaskResult} {attempt since : Nat}
    (found : L.execution? k = some x) (sending : x.phase = .reporting result attempt since) :
    L.next env now (.done k) = L := by
  simp only [next, go, finish, found, sending]

/-- **What is due stays due** until it happens. -/
theorem due?_next {d : Nat} (due : L.due? env m = some d) (other : m' ≠ m) :
    (L.next env now m').due? env m = some d := by
  cases m with
  | call _ _ => cases due
  | tick =>
    simp only [due?] at due ⊢
    split at due
    · rename_i asleep
      rw [stage_next_of_sleeping asleep other]
      exact due
    · cases due
  | served =>
    simp only [due?] at due ⊢
    split at due
    · rename_i polling
      rw [stage_next_of_polling polling other]
      exact due
    · cases due
  | done k =>
    simp only [due?, Option.bind_eq_some_iff] at due ⊢
    obtain ⟨x, found, due⟩ := due
    refine ⟨x, ?_, due⟩
    split at due
    · rename_i working
      by_cases sent : m' = .reported k
      · rw [sent, next_reported_of_handling found working, found]
      · exact execution?_next found other sent
    · cases due
  | reported k =>
    simp only [due?, Option.bind_eq_some_iff] at due ⊢
    obtain ⟨x, found, due⟩ := due
    refine ⟨x, ?_, due⟩
    split at due
    · rename_i sending
      by_cases finished : m' = .done k
      · rw [finished, next_done_of_reporting found sending, found]
      · exact execution?_next found finished other
    · cases due

end Lane

end TaskWorker
