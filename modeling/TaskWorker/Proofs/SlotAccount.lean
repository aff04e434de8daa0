import TaskWorker.Proofs.Holders
/-!
# The account of the slots

Every slot that is busy has its holder, and every holder has its slot. A slot is taken by a tick,
may be passed on to the execution of the task that the tick brings, and comes back once.

* `Dispatcher.Accounted`: busy slots are those of the holders, and the others are free;
* `SlotUse.Performed`: what the use of a slot does to holders, busy slots and free slots;
* **`Move.performed`**: an event does with a slot what `slotUse` says, and nothing else;
* `Host.slotUses`, `Host.takers`, `Host.givers`: the uses of a run; **`Host.Run.perm_takers`**,
  `Host.Run.nodup_takers`: whoever took a slot has given it up or holds it, and took it once;
* **`Host.slots_accounted_for`**: all this for the runs of a built host.
-/

namespace TaskWorker

variable {α : Type}

/-! ## Busy slots and free slots -/

/-- How much of a type's slots a holder has. -/
def Holder.share (c : Holder) (taskType : String) : Nat := if c.taskType = taskType then 1 else 0

namespace Dispatcher

variable {d d' d₁ : Dispatcher α} {tick : Tick α} {x : Execution α} {a : Allocation}

def freeSlots (d : Dispatcher α) (taskType : String) : Nat :=
  match d.slots.get? taskType with
  | none => 0
  | some s => s.available

theorem busySlots_congr (slots : d'.slots = d.slots) (t : String) :
    d'.busySlots t = d.busySlots t := by
  rw [busySlots, slots, busySlots]

theorem freeSlots_congr (slots : d'.slots = d.slots) (t : String) :
    d'.freeSlots t = d.freeSlots t := by
  rw [freeSlots, slots, freeSlots]

@[simp]
theorem busySlots_closeSlots (d : Dispatcher α) (t : String) :
    d.closeSlots.busySlots t = d.busySlots t := by
  simp only [busySlots, closeSlots, Table.get?_map]
  cases d.slots.get? t <;> rfl

@[simp]
theorem freeSlots_closeSlots (d : Dispatcher α) (t : String) :
    d.closeSlots.freeSlots t = d.freeSlots t := by
  simp only [freeSlots, closeSlots, Table.get?_map]
  cases d.slots.get? t <;> rfl

/-- An event that leaves tasks where they are leaves busy and free slots as they are. -/
theorem Aside.slotCounts (same : d.Aside d') (t : String) :
    d'.busySlots t = d.busySlots t ∧ d'.freeSlots t = d.freeSlots t := by
  rcases same.slots with slots | slots
  · exact ⟨busySlots_congr slots t, freeSlots_congr slots t⟩
  · rw [← busySlots_closeSlots d, ← freeSlots_closeSlots d]
    exact ⟨busySlots_congr slots t, freeSlots_congr slots t⟩

theorem slotCounts_release {c : Holder} (known : d.slots.get? c.taskType ≠ none) (t : String) :
    (d.release c.taskType).busySlots t + c.share t = d.busySlots t ∧
      (d.release c.taskType).freeSlots t = d.freeSlots t + c.share t := by
  simp only [busySlots, freeSlots, release, Table.get?_modify, Holder.share]
  by_cases ht : c.taskType = t
  · subst ht
    obtain ⟨s, hs⟩ := Option.ne_none_iff_exists'.mp known
    simp [hs, Slots.release, Slots.countDown, Slots.returnPermit]
  · simp [ht, Ne.symm ht]

theorem slotCounts_acquire? {c : Holder} (taken : d.acquire? c.taskType = some d₁) (t : String) :
    d₁.busySlots t = d.busySlots t + c.share t ∧ d₁.freeSlots t + c.share t = d.freeSlots t := by
  obtain ⟨s, s', known, free, rfl⟩ := acquire?_eq_some taken
  obtain ⟨-, pos, rfl⟩ := Slots.acquire?_eq_some free
  simp only [busySlots, freeSlots, Table.get?_insert, Holder.share]
  by_cases ht : c.taskType = t
  · subst ht
    simp only [known, if_true]
    refine ⟨rfl, ?_⟩
    omega
  · simp [ht]

/-! ## The account -/

/-- The busy slots are those of the holders, and the others are free. -/
def Accounted (a : Allocation) (d : Dispatcher α) : Prop :=
  ∀ t, d.busySlots t = d.holding t ∧ d.freeSlots t + d.holding t = (a.get t).toNat

theorem accounted_start (s : Settings) (a : Allocation) :
    (start s a : Dispatcher α).Accounted a := by
  intro t
  have none_holds : (start s a : Dispatcher α).holding t = 0 := by
    simp [holding, holders, start]
  rw [none_holds]
  simp only [busySlots, freeSlots, start, Table.get?_map, Allocation.get]
  cases a.counts.get? t <;> simp [Slots.ofCapacity]

theorem Accounted.known (acc : d.Accounted a) {c : Holder} (mem : c ∈ d.holders) :
    d.slots.get? c.taskType ≠ none := by
  intro unknown
  have none_busy : d.busySlots c.taskType = 0 := by rw [busySlots, unknown]
  have some_holds : 0 < d.holding c.taskType :=
    List.countP_pos_iff.mpr ⟨c, mem, by simp⟩
  have := (acc c.taskType).1
  omega

end Dispatcher

/-- **What the use of a slot does** to the holders, the busy slots and the free slots. -/
def SlotUse.Performed (d d' : Dispatcher α) : SlotUse → Prop
  | .untouched =>
    d'.holders = d.holders ∧
      ∀ t, d'.busySlots t = d.busySlots t ∧ d'.freeSlots t = d.freeSlots t
  | .taken c =>
    d'.holders.Perm (c :: d.holders) ∧
      ∀ t, d'.busySlots t = d.busySlots t + c.share t ∧ d'.freeSlots t + c.share t = d.freeSlots t
  | .passed c c' =>
    c'.taskType = c.taskType ∧ d'.slots = d.slots ∧
      ∃ others, d.holders.Perm (c :: others) ∧ d'.holders.Perm (c' :: others)
  | .returned c =>
    d.holders.Perm (c :: d'.holders) ∧
      ∀ t, d'.busySlots t + c.share t = d.busySlots t ∧ d'.freeSlots t = d.freeSlots t + c.share t

namespace Dispatcher

variable {d d' d₁ : Dispatcher α} {tick : Tick α} {x : Execution α} {a : Allocation}

theorem Accounted.of_performed {u : SlotUse} (acc : d.Accounted a) (performed : u.Performed d d') :
    d'.Accounted a := by
  intro t
  obtain ⟨busy, free⟩ := acc t
  cases u with
  | untouched =>
    obtain ⟨holders, counts⟩ := performed
    obtain ⟨hb, hf⟩ := counts t
    rw [hb, hf, holding, holders]
    exact ⟨busy, free⟩
  | taken c =>
    obtain ⟨holders, counts⟩ := performed
    obtain ⟨hb, hf⟩ := counts t
    have := holding_of_perm holders t
    simp only [Holder.share] at hb hf
    constructor <;> omega
  | passed c c' =>
    obtain ⟨type, slots, others, before, after⟩ := performed
    -- The new holder has the type of the old one, so no type gains or loses one.
    have same : d'.holding t = d.holding t := by
      simp only [holding, before.countP_eq, after.countP_eq, List.countP_cons, type]
    rw [busySlots_congr slots, freeSlots_congr slots, same]
    exact ⟨busy, free⟩
  | returned c =>
    obtain ⟨holders, counts⟩ := performed
    obtain ⟨hb, hf⟩ := counts t
    have := holding_of_perm holders t
    simp only [Holder.share] at hb hf
    constructor <;> omega

/-! ## Every move uses slots as it should -/

theorem performed_untouched (slots : d'.slots = d.slots) (holders : d'.holders = d.holders) :
    SlotUse.untouched.Performed d d' :=
  ⟨holders, fun t => ⟨busySlots_congr slots t, freeSlots_congr slots t⟩⟩

theorem performed_dropTick (o : d.Orderly) (acc : d.Accounted a) (mem : tick ∈ d.ticks)
    (slots : d'.slots = ((d.dropTick tick).release tick.handler.taskType).slots)
    (ticks : d'.ticks = (d.dropTick tick).ticks) (executions : d'.executions = d.executions) :
    (SlotUse.returned tick.holder).Performed d d' := by
  refine ⟨?_, fun t => ?_⟩
  · rw [holders_congr (d := d.dropTick tick) ticks executions]
    exact holders_dropTick o mem
  · rw [busySlots_congr slots, freeSlots_congr slots]
    exact slotCounts_release (d := d.dropTick tick) (c := tick.holder)
      (acc.known (tick_mem_holders mem)) t

theorem performed_closeExecution (o : d.Orderly) (acc : d.Accounted a) (mem : x ∈ d.executions)
    (slots : d'.slots = (d.release x.handler.taskType).slots) (ticks : d'.ticks = d.ticks)
    (executions : d'.executions = d.executions.filter fun y => y.number ≠ x.number) :
    (SlotUse.returned x.holder).Performed d d' := by
  refine ⟨?_, fun t => ?_⟩
  · rw [holders_congr (d := d.closeExecution x .lost) ticks executions]
    exact holders_closeExecution o mem .lost
  · rw [busySlots_congr slots, freeSlots_congr slots]
    exact slotCounts_release (c := x.holder) (acc.known (execution_mem_holders mem)) t

/-- **An event does with a slot what its use says.** -/
theorem Move.performed {e : Host.Event} (move : d.Move e d') (o : d.Orderly)
    (acc : d.Accounted a) : (d.slotUse e).Performed d d' := by
  cases move with
  | aside kind same =>
    have untouched : d.slotUse e = .untouched := by
      cases e <;> first | rfl | cases kind
    rw [untouched]
    exact ⟨holders_congr same.ticks same.executions, same.slotCounts⟩
  | idle objection =>
    have untouched : ∀ t paused identity,
        (d.stopping = true ∨ d.isAvailable = false ∨ paused = true) →
          d.slotUse (.loopTicks t paused identity) = .untouched := by
      rintro t paused identity (h | h | h) <;> simp [slotUse, h]
    rw [untouched _ _ _ objection]
    exact performed_untouched rfl rfl
  | noSlot _ _ none =>
    simp only [slotUse, none, Option.isNone_none, Bool.or_true, if_true]
    exact performed_untouched rfl rfl
  | poll type running available taken =>
    subst type
    simp only [slotUse, running, available, taken, Option.isNone_some, Bool.not_true, Bool.or_self,
      Bool.false_eq_true, if_false]
    have counts := slotCounts_acquire? (c := .tick d.sentPolls _) taken
    obtain ⟨_, _, _, _, rfl⟩ := acquire?_eq_some taken
    exact ⟨holders_sendPoll _ _ _, counts⟩
  | handOver found =>
    simp only [slotUse, found]
    -- The slot is not given back in between: no other tick can take it.
    exact ⟨rfl, rfl, _, holders_dropTick o (mem_of_tick? found).1, holders_dispatch _ _ _⟩
  | noTask found | pollFailed found | cut found _ | pollLost found =>
    simp only [slotUse, found, Option.map_some, SlotUse.returnedBy]
    exact performed_dropTick o acc (mem_of_tick? found).1 rfl rfl rfl
  | handled found _ concluded =>
    obtain ⟨_, rfl⟩ := conclude_eq concluded
    exact performed_untouched rfl (holders_setPhase _ _ _)
  | lostConcluding found _ concluded =>
    obtain ⟨_, rfl⟩ := conclude_eq concluded
    simp only [slotUse, found, Option.map_some, SlotUse.returnedBy]
    exact performed_closeExecution o acc (mem_of_execution? found).1 rfl rfl rfl
  | pauses found stage again =>
    simp only [slotUse, found, stage, again]
    exact performed_untouched rfl (holders_setPhase _ _ _)
  | delivered found stage finished | lostTelling found stage finished _ =>
    simp only [slotUse, found, stage, finished]
    obtain ⟨_, _, rfl, _⟩ := afterReport_over finished
    exact performed_closeExecution o acc (mem_of_execution? found).1 rfl rfl rfl
  | resumes _ _ => exact performed_untouched rfl (holders_setPhase _ _ _)
  | abandoned found _ | lost found =>
    simp only [slotUse, found, Option.map_some, SlotUse.returnedBy]
    exact performed_closeExecution o acc (mem_of_execution? found).1 rfl rfl rfl

end Dispatcher

/-! ## Nobody takes a slot twice -/

/-- The id or the number of a holder has been given out. -/
def Holder.Used (d : Dispatcher α) : Holder → Prop
  | .tick id _ => id < d.sentPolls
  | .execution n _ => n ≤ d.dispatched

namespace Dispatcher

variable {d d' : Dispatcher α}

theorem Move.counts_le {e : Host.Event} (move : d.Move e d') :
    d.sentPolls ≤ d'.sentPolls ∧ d.dispatched ≤ d'.dispatched := by
  cases move with
  | aside _ same => rw [same.sentPolls, same.dispatched]; exact ⟨Nat.le_refl _, Nat.le_refl _⟩
  | poll _ _ _ taken =>
    obtain ⟨_, _, _, _, rfl⟩ := acquire?_eq_some taken
    exact ⟨Nat.le_succ _, Nat.le_refl _⟩
  | handOver _ => exact ⟨Nat.le_refl _, Nat.le_succ _⟩
  | handled _ _ concluded | lostConcluding _ _ concluded =>
    obtain ⟨_, rfl⟩ := conclude_eq concluded
    exact ⟨Nat.le_refl _, Nat.le_refl _⟩
  | delivered _ _ finished | lostTelling _ _ finished _ =>
    obtain ⟨_, _, rfl, _⟩ := afterReport_over finished
    exact ⟨Nat.le_refl _, Nat.le_refl _⟩
  | _ => exact ⟨Nat.le_refl _, Nat.le_refl _⟩

/-- A poll is only sent under a slot that has just been taken for it. -/
theorem Move.sends_poll {e : Host.Event} (move : d.Move e d')
    (sent : d'.sentPolls ≠ d.sentPolls) : ∃ t, d.slotUse e = .taken (.tick d.sentPolls t) := by
  cases move with
  | aside _ same => exact absurd same.sentPolls sent
  | @poll t identity g d₁ type running available taken =>
    refine ⟨t, ?_⟩
    simp only [slotUse, running, available, taken, Option.isNone_some, Bool.not_true, Bool.or_self,
      Bool.false_eq_true, if_false]
  | handled _ _ concluded | lostConcluding _ _ concluded =>
    obtain ⟨_, rfl⟩ := conclude_eq concluded
    exact absurd rfl sent
  | delivered _ _ finished | lostTelling _ _ finished _ =>
    obtain ⟨_, _, rfl, _⟩ := afterReport_over finished
    exact absurd rfl sent
  | _ => exact absurd rfl sent

/-- **A task comes to a tick, and its execution takes over the slot of that tick.** Nothing else
begins an execution. -/
theorem Move.begins_execution {e : Host.Event} (move : d.Move e d') :
    (∃ tick ∈ d.ticks, ∃ task, e = .pollAnswered tick.id (.ok (some task)) ∧
        d.slotUse e = .passed tick.holder (.execution (d.dispatched + 1) tick.handler.taskType) ∧
        d'.executions = d.executions ++
          [⟨d.dispatched + 1, tick.handler, tick.workerId, task, .handling d.now⟩]) ∨
      (∀ id task, e ≠ .pollAnswered id (.ok (some task))) ∧
        (d'.executions.map Execution.number).Sublist (d.executions.map Execution.number) := by
  cases move with
  | aside kind same =>
    refine .inr ⟨?_, by rw [same.executions]⟩
    rintro id task rfl
    cases kind
  | poll _ _ _ taken =>
    obtain ⟨_, _, _, _, rfl⟩ := acquire?_eq_some taken
    exact .inr ⟨nofun, .refl _⟩
  | @handOver id task tick found =>
    obtain ⟨mem, rfl⟩ := mem_of_tick? found
    refine .inl ⟨tick, mem, task, rfl, ?_, rfl⟩
    simp only [slotUse, found]
  | handled _ _ concluded =>
    obtain ⟨_, rfl⟩ := conclude_eq concluded
    refine .inr ⟨nofun, ?_⟩
    rw [numbers_setPhase]
    exact .refl _
  | lostConcluding _ _ concluded =>
    obtain ⟨_, rfl⟩ := conclude_eq concluded
    exact .inr ⟨nofun, List.filter_sublist.map _⟩
  | pauses _ _ _ => exact .inr ⟨nofun, by rw [numbers_setPhase]⟩
  | resumes _ _ =>
    refine .inr ⟨nofun, ?_⟩
    rw [numbers_setPhase]
    exact .refl _
  | delivered _ _ finished | lostTelling _ _ finished _ =>
    obtain ⟨_, _, rfl, _⟩ := afterReport_over finished
    exact .inr ⟨nofun, List.filter_sublist.map _⟩
  | abandoned _ _ | lost _ => exact .inr ⟨nofun, List.filter_sublist.map _⟩
  | _ => exact .inr ⟨nofun, .refl _⟩

theorem Move.used {e : Host.Event} {c : Holder} (move : d.Move e d') (used : c.Used d) :
    c.Used d' := by
  obtain ⟨polls, numbers⟩ := move.counts_le
  cases c with
  | tick id t => exact Nat.lt_of_lt_of_le used polls
  | execution n t => exact Nat.le_trans used numbers

theorem Orderly.used (o : d.Orderly) {c : Holder} (mem : c ∈ d.holders) : c.Used d := by
  rcases List.mem_append.mp mem with mem | mem
  · obtain ⟨k, hk, rfl⟩ := List.mem_map.mp mem
    exact o.ids_lt k hk
  · obtain ⟨x, hx, rfl⟩ := List.mem_map.mp mem
    exact o.numbers_le x hx

/-- Only a new tick or a new execution takes a slot. -/
theorem taker_slotUse {e : Host.Event} {c : Holder} (takes : (d.slotUse e).taker = some c) :
    (∃ t, c = .tick d.sentPolls t) ∨ ∃ t, c = .execution (d.dispatched + 1) t := by
  cases e with
  | loopTicks t paused identity =>
    simp only [slotUse] at takes
    split_ifs at takes
    · cases takes
    · cases takes
      exact .inl ⟨t, rfl⟩
  | pollAnswered id answer =>
    rcases answer with error | none | task
    · rw [slotUse, SlotUse.taker_returnedBy] at takes
      cases takes
    · rw [slotUse, SlotUse.taker_returnedBy] at takes
      cases takes
    · simp only [slotUse] at takes
      split at takes
      · cases takes
        exact .inr ⟨_, rfl⟩
      · cases takes
  | handlerDone n outcome identity now =>
    cases identity with
    | returned _ => cases takes
    | panicked =>
      rw [slotUse, SlotUse.taker_returnedBy] at takes
      cases takes
  | reportAnswered n answer told =>
    simp only [slotUse] at takes
    repeat' split at takes
    all_goals cases takes
  | pollCut _ | pollPanics _ | abandoned _ | executionPanics _ =>
    rw [slotUse, SlotUse.taker_returnedBy] at takes
    cases takes
  | _ => cases takes

theorem not_used_of_taker {e : Host.Event} {c : Holder} (takes : (d.slotUse e).taker = some c) :
    ¬ c.Used d := by
  rcases taker_slotUse takes with ⟨t, rfl⟩ | ⟨t, rfl⟩
  · exact Nat.lt_irrefl _
  · exact Nat.not_succ_le_self _

end Dispatcher

namespace SlotUse

variable {d d' : Dispatcher α} {u : SlotUse}

/-- Holders come and go as the use of a slot says. -/
theorem Performed.perm (performed : u.Performed d d') :
    (d.holders ++ u.taker.toList).Perm (u.giver.toList ++ d'.holders) := by
  cases u with
  | untouched =>
    obtain ⟨holders, -⟩ := performed
    simp only [taker, giver, Option.toList_none, List.append_nil, List.nil_append]
    rw [holders]
  | taken c =>
    obtain ⟨holders, -⟩ := performed
    exact (List.perm_append_singleton c d.holders).trans holders.symm
  | passed c c' =>
    obtain ⟨-, -, others, before, after⟩ := performed
    have middle : (c :: others ++ [c']).Perm (c :: c' :: others) :=
      (List.perm_append_singleton c' others).cons c
    exact (before.append_right _).trans (middle.trans (after.symm.cons c))
  | returned c =>
    obtain ⟨holders, -⟩ := performed
    simpa only [taker, giver, Option.toList_none, Option.toList_some, List.append_nil,
      List.singleton_append] using holders

theorem Performed.taker_mem (performed : u.Performed d d') {c : Holder}
    (takes : u.taker = some c) : c ∈ d'.holders := by
  cases u with
  | untouched | returned _ => cases takes
  | taken b =>
    cases takes
    exact performed.1.mem_iff.mpr List.mem_cons_self
  | passed b b' =>
    cases takes
    obtain ⟨-, -, others, -, after⟩ := performed
    exact after.mem_iff.mpr List.mem_cons_self

/-- Nobody lets go of a slot but the one whose slot is returned or passed on. -/
theorem Performed.giver_of_gone (performed : u.Performed d d') {c : Holder}
    (held : c ∈ d.holders) (gone : c ∉ d'.holders) : u.giver = some c := by
  have mem := performed.perm.mem_iff.mp (List.mem_append_left _ held)
  rcases List.mem_append.mp mem with gives | still
  · exact Option.mem_toList.mp gives
  · exact absurd still gone

end SlotUse

/-! ## The runs of a host -/

namespace Host

variable {h₀ h h' : Host α} {e : Event} {es : List Event} {handlers : List (Handler α)}
  {settings : Settings}

def slotUses (h : Host α) (es : List Event) : List SlotUse :=
  h.along (fun h e => some (h.dispatcher.slotUse e)) es

/-- Who takes a slot in a run. -/
def takers (h : Host α) (es : List Event) : List Holder :=
  (h.slotUses es).filterMap SlotUse.taker

/-- Whose slot comes back in a run, or is passed on. -/
def givers (h : Host α) (es : List Event) : List Holder :=
  (h.slotUses es).filterMap SlotUse.giver

theorem slotUses_snoc (run : Run h₀ es h) :
    h₀.slotUses (es ++ [e]) = h₀.slotUses es ++ [h.dispatcher.slotUse e] :=
  along_snoc _ run

theorem takers_snoc (run : Run h₀ es h) :
    h₀.takers (es ++ [e]) = h₀.takers es ++ (h.dispatcher.slotUse e).taker.toList := by
  rw [takers, slotUses_snoc run, List.filterMap_append, takers]
  rfl

theorem givers_snoc (run : Run h₀ es h) :
    h₀.givers (es ++ [e]) = h₀.givers es ++ (h.dispatcher.slotUse e).giver.toList := by
  rw [givers, slotUses_snoc run, List.filterMap_append, givers]
  rfl

/-- **The account is right after every run.** -/
theorem Run.accounted (built : build handlers settings = .ok h₀) (run : Run h₀ es h) :
    h.dispatcher.Accounted h₀.allocation := by
  refine run.snocInduction (P := fun _ h => h.dispatcher.Accounted h₀.allocation) ?_ ?_
  · obtain ⟨hs, a, rfl, _⟩ := build_eq_ok built
    exact Dispatcher.accounted_start settings a
  · intro es h h' e run acc step
    exact acc.of_performed ((step?_move step).performed (run.orderly built) acc)

theorem Run.performed (built : build handlers settings = .ok h₀) (run : Run h₀ es h)
    (step : h.step? e = some h') :
    (h.dispatcher.slotUse e).Performed h.dispatcher h'.dispatcher :=
  (step?_move step).performed (run.orderly built) (run.accounted built)

/-- **Whoever took a slot in a run has given it up or passed it on, or else holds it.** -/
theorem Run.perm_takers (built : build handlers settings = .ok h₀) (run : Run h₀ es h) :
    (h₀.takers es).Perm (h₀.givers es ++ h.dispatcher.holders) := by
  refine run.snocInduction
    (P := fun es h => (h₀.takers es).Perm (h₀.givers es ++ h.dispatcher.holders)) ?_ ?_
  · obtain ⟨hs, a, rfl, _⟩ := build_eq_ok built
    exact .nil
  · intro es h h' e run perm step
    rw [takers_snoc run, givers_snoc run, List.append_assoc]
    refine (perm.append_right _).trans ?_
    rw [List.append_assoc]
    exact (run.performed built step).perm.append_left _

/-- **Nobody takes a slot twice.** -/
theorem Run.nodup_takers (built : build handlers settings = .ok h₀) (run : Run h₀ es h) :
    (h₀.takers es).Nodup := by
  -- Whoever took a slot has a used id or number, and the next one to take a slot has a new one.
  have nodup_used : (h₀.takers es).Nodup ∧ ∀ c ∈ h₀.takers es, c.Used h.dispatcher := by
    refine run.snocInduction
      (P := fun es h => (h₀.takers es).Nodup ∧ ∀ c ∈ h₀.takers es, c.Used h.dispatcher) ?_ ?_
    · exact ⟨.nil, by simp [takers, slotUses, along]⟩
    · rintro es h h' e run ⟨nodup, used⟩ step
      rw [takers_snoc run]
      constructor
      · refine List.nodup_append.mpr ⟨nodup, by cases (h.dispatcher.slotUse e).taker <;> simp, ?_⟩
        rintro c hc b hb rfl
        exact Dispatcher.not_used_of_taker (Option.mem_toList.mp hb) (used c hc)
      · intro c hc
        rcases List.mem_append.mp hc with hc | hc
        · exact (step?_move step).used (used c hc)
        · have orderly := (run.snoc step).orderly built
          exact orderly.used ((run.performed built step).taker_mem (Option.mem_toList.mp hc))
  exact nodup_used.1

/-- A slot comes back once at most, and not while it is held. -/
theorem Run.nodup_givers (built : build handlers settings = .ok h₀) (run : Run h₀ es h) :
    (h₀.givers es ++ h.dispatcher.holders).Nodup :=
  (run.perm_takers built).nodup_iff.mp (run.nodup_takers built)

/-- **The slots are accounted for in every run of a built host.** The busy slots of a type are those
of its ticks and its executions, and these never have more than the allocation gives. A poll is only
sent under a slot taken for it, a task only comes to a tick, and its execution takes over the slot
of that tick. An event does with a slot what its `slotUse` says, and whoever holds a slot no longer
has given it up by that event: however a tick or an execution ends, its slot comes back then,
once. -/
theorem slots_accounted_for (built : build handlers settings = .ok h₀) (run : Run h₀ es h) :
    (∀ t, h.dispatcher.busySlots t =
        ((h.dispatcher.ticks.countP fun k => k.handler.taskType = t) +
          (h.dispatcher.executions.countP fun x => x.handler.taskType = t) : Nat)) ∧
      (∀ t, (h.dispatcher.ticks.countP fun k => k.handler.taskType = t) +
        (h.dispatcher.executions.countP fun x => x.handler.taskType = t) ≤
          (h₀.allocation.get t).toNat) ∧
      (∀ e h', h.step? e = some h' →
        (h.dispatcher.slotUse e).Performed h.dispatcher h'.dispatcher ∧
        (∀ c ∈ h.dispatcher.holders, c ∉ h'.dispatcher.holders →
          (h.dispatcher.slotUse e).giver = some c) ∧
        (h'.dispatcher.sentPolls ≠ h.dispatcher.sentPolls →
          ∃ t, h.dispatcher.slotUse e = .taken (.tick h.dispatcher.sentPolls t)) ∧
        ((∃ tick ∈ h.dispatcher.ticks, ∃ task, e = .pollAnswered tick.id (.ok (some task)) ∧
            h.dispatcher.slotUse e =
              .passed tick.holder (.execution (h.dispatcher.dispatched + 1) tick.handler.taskType) ∧
            h'.dispatcher.executions = h.dispatcher.executions ++
              [⟨h.dispatcher.dispatched + 1, tick.handler, tick.workerId, task,
                .handling h.now⟩]) ∨
          (∀ id task, e ≠ .pollAnswered id (.ok (some task))) ∧
            (h'.dispatcher.executions.map Execution.number).Sublist
              (h.dispatcher.executions.map Execution.number))) ∧
      (h₀.takers es).Perm (h₀.givers es ++ h.dispatcher.holders) ∧ (h₀.takers es).Nodup := by
  have account := run.accounted built
  refine ⟨fun t => ?_, fun t => ?_, fun e h' step => ?_, run.perm_takers built,
    run.nodup_takers built⟩
  · rw [← Dispatcher.holding_eq]
    exact (account t).1
  · rw [← Dispatcher.holding_eq]
    have := (account t).2
    omega
  · have move := step?_move step
    have performed := run.performed built step
    exact ⟨performed, fun c held gone => performed.giver_of_gone held gone, move.sends_poll,
      move.begins_execution⟩

/-- The sample at work: its only slot has passed from a tick to an execution. -/
theorem sample_slots_accounted_for :
    sampleAtWork.dispatcher.busySlots "parcel" = 1 ∧
      (sample.takers sampleWork).Perm [.tick 0 "parcel", .execution 1 "parcel"] := by
  have account := slots_accounted_for build_sample run_sampleWork
  refine ⟨account.1 "parcel", ?_⟩
  exact account.2.2.2.1

end Host

end TaskWorker
