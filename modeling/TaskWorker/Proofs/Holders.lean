import Mathlib.Data.List.Nodup
import TaskWorker.Proofs.Moves
/-!
# Who holds the slots

A slot is held by a tick whose poll is out, or by an execution. Ticks are told apart by their ids
and executions by their numbers, and neither is ever used again, so that one can follow a holder
through a run and say when it came and when it went.

* `Dispatcher.Orderly`: ticks have different ids and executions different numbers, all of them used
  up; **`Move.orderly`**: a move keeps it so;
* `Holder`, `Dispatcher.holders`, with one permutation lemma for each way in which they change;
* `SlotUse`, `Dispatcher.slotUse`: what an event does with a slot;
* `SlotUse.taker`, `SlotUse.giver`: whom it makes a holder, and who is a holder no longer.
-/

namespace TaskWorker

variable {α : Type}

/-! ## Ids and numbers -/

namespace Dispatcher

variable {d d' d₁ : Dispatcher α} {tick : Tick α} {x : Execution α}

/-- Ticks have different ids and executions different numbers, and all of these are used up. -/
structure Orderly (d : Dispatcher α) : Prop where
  ids : (d.ticks.map Tick.id).Nodup
  ids_lt : ∀ k ∈ d.ticks, k.id < d.sentPolls
  numbers : (d.executions.map Execution.number).Nodup
  numbers_le : ∀ x ∈ d.executions, x.number ≤ d.dispatched

theorem orderly_start (s : Settings) (a : Allocation) : (start s a : Dispatcher α).Orderly :=
  ⟨by simp [start], by simp [start], by simp [start], by simp [start]⟩

/-- Only ticks, executions and their counts matter. -/
theorem Orderly.congr (o : d.Orderly) (ticks : d'.ticks = d.ticks)
    (executions : d'.executions = d.executions) (sentPolls : d'.sentPolls = d.sentPolls)
    (dispatched : d'.dispatched = d.dispatched) : d'.Orderly :=
  ⟨by rw [ticks]; exact o.ids, by rw [ticks, sentPolls]; exact o.ids_lt,
    by rw [executions]; exact o.numbers, by rw [executions, dispatched]; exact o.numbers_le⟩

theorem Orderly.dropTick (o : d.Orderly) (tick : Tick α) : (d.dropTick tick).Orderly :=
  { o with
    ids := (List.filter_sublist.map _).nodup o.ids
    ids_lt := fun k hk => o.ids_lt k (List.mem_of_mem_filter hk) }

theorem Orderly.sendPoll (o : d.Orderly) (g : Handler α) (identity : Option String) :
    (d.sendPoll g identity).Orderly := by
  refine ⟨?_, ?_, o.numbers, o.numbers_le⟩
  · simp only [Dispatcher.sendPoll, List.map_append, List.map_cons, List.map_nil]
    refine List.nodup_append.mpr ⟨o.ids, List.nodup_singleton _, ?_⟩
    rintro i hi j hj rfl
    obtain ⟨k, hk, rfl⟩ := List.mem_map.mp hi
    have := o.ids_lt k hk
    have := List.mem_singleton.mp hj
    omega
  · intro k hk
    simp only [Dispatcher.sendPoll, List.mem_append, List.mem_singleton] at hk ⊢
    rcases hk with hk | rfl
    · exact Nat.lt_succ_of_lt (o.ids_lt k hk)
    · exact Nat.lt_succ_self _

theorem Orderly.dispatch (o : d.Orderly) (tick : Tick α) (task : Task) :
    (d.dispatch tick task).Orderly := by
  refine ⟨o.ids, o.ids_lt, ?_, ?_⟩
  · simp only [Dispatcher.dispatch, List.map_append, List.map_cons, List.map_nil]
    refine List.nodup_append.mpr ⟨o.numbers, List.nodup_singleton _, ?_⟩
    rintro i hi j hj rfl
    obtain ⟨y, hy, rfl⟩ := List.mem_map.mp hi
    have := o.numbers_le y hy
    have := List.mem_singleton.mp hj
    omega
  · intro y hy
    simp only [Dispatcher.dispatch, List.mem_append, List.mem_singleton] at hy ⊢
    rcases hy with hy | rfl
    · exact Nat.le_succ_of_le (o.numbers_le y hy)
    · exact Nat.le_refl _

@[simp]
theorem numbers_setPhase (d : Dispatcher α) (n : Nat) (phase : Phase) :
    (d.setPhase n phase).executions.map Execution.number = d.executions.map Execution.number := by
  simp only [setPhase, List.map_map]
  refine List.map_congr_left fun y _ => ?_
  simp only [Function.comp_apply]
  split_ifs <;> rfl

theorem Orderly.setPhase (o : d.Orderly) (n : Nat) (phase : Phase) :
    (d.setPhase n phase).Orderly := by
  refine ⟨o.ids, o.ids_lt, by rw [numbers_setPhase]; exact o.numbers, fun y hy => ?_⟩
  have hn := List.mem_map_of_mem (f := Execution.number) hy
  rw [numbers_setPhase] at hn
  obtain ⟨z, hz, hzy⟩ := List.mem_map.mp hn
  rw [← hzy]
  exact o.numbers_le z hz

theorem Orderly.closeExecution (o : d.Orderly) (x : Execution α) (fate : Fate) :
    (d.closeExecution x fate).Orderly :=
  { o with
    numbers := (List.filter_sublist.map _).nodup o.numbers
    numbers_le := fun y hy => o.numbers_le y (List.mem_of_mem_filter hy) }

theorem Orderly.endExecution (o : d.Orderly) (x : Execution α) (fate : Fate) :
    (d.endExecution x fate).Orderly :=
  (o.closeExecution x fate).congr rfl rfl rfl rfl

/-- **A move keeps ids and numbers apart.** -/
theorem Move.orderly {e : Host.Event} (move : d.Move e d') (o : d.Orderly) : d'.Orderly := by
  cases move with
  | aside _ same => exact o.congr same.ticks same.executions same.sentPolls same.dispatched
  | idle _ => exact o
  | noSlot _ _ _ => exact o.congr rfl rfl rfl rfl
  | poll _ _ _ taken =>
    obtain ⟨_, _, _, _, rfl⟩ := acquire?_eq_some taken
    refine Orderly.sendPoll ?_ _ _
    exact o.congr rfl rfl rfl rfl
  | handOver _ => exact (o.dropTick _).dispatch _ _
  | noTask _ | pollFailed _ | cut _ _ | pollLost _ => exact (o.dropTick _).congr rfl rfl rfl rfl
  | handled _ _ concluded =>
    obtain ⟨_, rfl⟩ := conclude_eq concluded
    refine Orderly.setPhase ?_ _ _
    exact o.congr rfl rfl rfl rfl
  | lostConcluding _ _ concluded =>
    obtain ⟨_, rfl⟩ := conclude_eq concluded
    refine Orderly.closeExecution ?_ _ _
    exact o.congr rfl rfl rfl rfl
  | pauses _ _ _ => exact o.setPhase _ _
  | delivered _ _ finished =>
    obtain ⟨_, _, rfl, _⟩ := afterReport_over finished
    refine Orderly.endExecution ?_ _ _
    exact o.congr rfl rfl rfl rfl
  | lostTelling _ _ finished _ =>
    obtain ⟨_, _, rfl, _⟩ := afterReport_over finished
    refine Orderly.closeExecution ?_ _ _
    exact o.congr rfl rfl rfl rfl
  | resumes _ _ =>
    refine Orderly.setPhase ?_ _ _
    exact o.congr rfl rfl rfl rfl
  | abandoned _ _ => exact o.endExecution _ _
  | lost _ => exact o.closeExecution _ _

end Dispatcher

theorem Host.Run.orderly {handlers : List (Handler α)} {settings : Settings} {h₀ h : Host α}
    {es : List Host.Event} (built : Host.build handlers settings = .ok h₀)
    (run : Host.Run h₀ es h) : h.dispatcher.Orderly := by
  obtain ⟨hs, a, rfl, _⟩ := Host.build_eq_ok built
  exact run.keeps (P := fun h => h.dispatcher.Orderly)
    (fun o step => (Host.step?_move step).orderly o) (Dispatcher.orderly_start settings a)

/-! ## Holders -/

inductive Holder where
  | tick (id : Nat) (taskType : String)
  | execution (number : Nat) (taskType : String)
  deriving DecidableEq

def Holder.taskType : Holder → String
  | .tick _ t => t
  | .execution _ t => t

def Tick.holder (k : Tick α) : Holder := .tick k.id k.handler.taskType

def Execution.holder (x : Execution α) : Holder := .execution x.number x.handler.taskType

/-- Taking one element out of a list in which its key is the only one of its kind. -/
theorem perm_cons_filter_ne {β κ : Type} [DecidableEq κ] (key : β → κ) {l : List β} {b : β}
    (nodup : (l.map key).Nodup) (mem : b ∈ l) :
    List.Perm l (b :: l.filter fun c => key c ≠ key b) := by
  induction l with
  | nil => cases mem
  | cons a as ih =>
    simp only [List.map_cons, List.nodup_cons] at nodup
    obtain ⟨fresh, nodup⟩ := nodup
    rcases List.mem_cons.mp mem with rfl | mem
    · have others : as.filter (fun c => key c ≠ key b) = as := by
        refine List.filter_eq_self.mpr fun c hc => ?_
        have : key c ≠ key b := fun h => fresh (h ▸ List.mem_map_of_mem hc)
        simpa using this
      rw [List.filter_cons_of_neg (by simp), others]
    · have hab : key a ≠ key b := fun h => fresh (h ▸ List.mem_map_of_mem mem)
      rw [List.filter_cons_of_pos (by simpa using hab)]
      exact ((ih nodup mem).cons a).trans (List.Perm.swap b a _)

/-- The element of a key is found if it is the only one of its kind. -/
theorem find?_key {β κ : Type} [DecidableEq κ] (key : β → κ) {l : List β} {b : β}
    (nodup : (l.map key).Nodup) (mem : b ∈ l) : (l.find? fun c => key c = key b) = some b := by
  cases found : l.find? fun c => key c = key b with
  | none =>
    have := List.find?_eq_none.mp found b mem
    simp at this
  | some c =>
    have same : key c = key b := by simpa using List.find?_some found
    rw [List.inj_on_of_nodup_map nodup (List.mem_of_find?_eq_some found) mem same]

namespace Dispatcher

variable {d d' d₁ : Dispatcher α} {tick : Tick α} {x : Execution α}

theorem tick?_of_mem (o : d.Orderly) (mem : tick ∈ d.ticks) : d.tick? tick.id = some tick :=
  find?_key Tick.id o.ids mem

theorem execution?_of_mem (o : d.Orderly) (mem : x ∈ d.executions) :
    d.execution? x.number = some x :=
  find?_key Execution.number o.numbers mem

def holders (d : Dispatcher α) : List Holder :=
  d.ticks.map Tick.holder ++ d.executions.map Execution.holder

/-- The number of those who hold a slot of a type. -/
def holding (d : Dispatcher α) (taskType : String) : Nat :=
  d.holders.countP fun c => c.taskType = taskType

theorem holding_eq (d : Dispatcher α) (taskType : String) :
    d.holding taskType = (d.ticks.countP fun k => k.handler.taskType = taskType) +
      d.executions.countP fun x => x.handler.taskType = taskType := by
  simp only [holding, holders, List.countP_append, List.countP_map]
  rfl

theorem holding_of_perm {c : Holder} (perm : d.holders.Perm (c :: d'.holders)) (t : String) :
    d.holding t = d'.holding t + if c.taskType = t then 1 else 0 := by
  simp only [holding, perm.countP_eq, List.countP_cons, decide_eq_true_eq]

theorem holders_congr (ticks : d'.ticks = d.ticks) (executions : d'.executions = d.executions) :
    d'.holders = d.holders := by
  rw [holders, ticks, executions, holders]

theorem tick_mem_holders (mem : tick ∈ d.ticks) : tick.holder ∈ d.holders :=
  List.mem_append_left _ (List.mem_map_of_mem mem)

theorem execution_mem_holders (mem : x ∈ d.executions) : x.holder ∈ d.holders :=
  List.mem_append_right _ (List.mem_map_of_mem mem)

theorem holders_dropTick (o : d.Orderly) (mem : tick ∈ d.ticks) :
    d.holders.Perm (tick.holder :: (d.dropTick tick).holders) := by
  have perm := (perm_cons_filter_ne Tick.id o.ids mem).map Tick.holder
  exact perm.append_right _

theorem holders_sendPoll (d : Dispatcher α) (g : Handler α) (identity : Option String) :
    (d.sendPoll g identity).holders.Perm (.tick d.sentPolls g.taskType :: d.holders) := by
  simp only [holders, sendPoll, List.map_append, List.map_cons, List.map_nil, List.append_assoc,
    List.singleton_append]
  exact List.perm_middle

theorem holders_dispatch (d : Dispatcher α) (tick : Tick α) (task : Task) :
    (d.dispatch tick task).holders.Perm
      (.execution (d.dispatched + 1) tick.handler.taskType :: d.holders) := by
  simp only [holders, dispatch, List.map_append, List.map_cons, List.map_nil]
  rw [← List.append_assoc]
  exact List.perm_append_singleton _ _

@[simp]
theorem holders_setPhase (d : Dispatcher α) (n : Nat) (phase : Phase) :
    (d.setPhase n phase).holders = d.holders := by
  simp only [holders, setPhase, List.map_map]
  congr 1
  refine List.map_congr_left fun y _ => ?_
  simp only [Function.comp_apply]
  split_ifs <;> rfl

theorem holders_closeExecution (o : d.Orderly) (mem : x ∈ d.executions) (fate : Fate) :
    d.holders.Perm (x.holder :: (d.closeExecution x fate).holders) := by
  have perm := (perm_cons_filter_ne Execution.number o.numbers mem).map Execution.holder
  exact (perm.append_left _).trans List.perm_middle

end Dispatcher

/-! ## Uses of slots -/

/-- What an event does with a slot. -/
inductive SlotUse where
  | untouched
  | taken (c : Holder)
  /-- The slot is passed on from one holder to another. -/
  | passed (c c' : Holder)
  | returned (c : Holder)
  deriving DecidableEq

namespace SlotUse

/-- Who becomes a holder. -/
def taker : SlotUse → Option Holder
  | .taken c => some c
  | .passed _ c => some c
  | _ => none

/-- Who is a holder no longer. -/
def giver : SlotUse → Option Holder
  | .passed c _ => some c
  | .returned c => some c
  | _ => none

/-- The slot of a tick or an execution comes back, if there is one. -/
def returnedBy : Option Holder → SlotUse
  | some c => .returned c
  | none => .untouched

@[simp]
theorem taker_returnedBy (c? : Option Holder) : (returnedBy c?).taker = none := by
  cases c? <;> rfl

end SlotUse

/-- **What an event does with a slot.** A tick takes one before it polls. A task that is handed over
brings its execution the slot of the tick. The slot comes back when a poll brings no task, fails, is
cut or panics, when the last report is answered, and when an execution is abandoned or panics. -/
def Dispatcher.slotUse (d : Dispatcher α) : Host.Event → SlotUse
  | .loopTicks t paused _ =>
    if d.stopping || !d.isAvailable || paused || (d.acquire? t).isNone then .untouched
    else .taken (.tick d.sentPolls t)
  | .pollAnswered id (.ok (some _)) =>
    match d.tick? id with
    | some tick => .passed tick.holder (.execution (d.dispatched + 1) tick.handler.taskType)
    | none => .untouched
  | .pollAnswered id (.ok none) | .pollAnswered id (.error _) | .pollCut id | .pollPanics id =>
    .returnedBy ((d.tick? id).map Tick.holder)
  | .handlerDone n _ .panicked _ | .abandoned n | .executionPanics n =>
    .returnedBy ((d.execution? n).map Execution.holder)
  | .reportAnswered n answer _ =>
    match d.execution? n with
    | some x =>
      match x.phase with
      | .reporting result attempt _ =>
        match (d.afterReport result attempt answer).1 with
        | .over _ => .returned x.holder
        | .goOn _ => .untouched
      | _ => .untouched
    | none => .untouched
  | _ => .untouched

end TaskWorker
