import TaskWorker.Proofs.Calls
import TaskWorker.Simulation.Step
/-!
# Ticks from start to end

A tick whose poll is answered before anything else happens is over at once. It polls exactly if
nothing objects, and if it hands no task over, it leaves nothing behind but what it counted.

* `Dispatcher.tickAtOnce?`, a tick over a client that answers at once; `TickOutcome.ofAnswer`, what
  it comes to;
* `PollRecord.Asks`, `TickOutcome.Counts`, `Dispatcher.Ready`, `Dispatcher.Frame`,
  `Dispatcher.HandsOver`, put together in `WholeTick`: what a tick is to do;
* `Dispatcher.objection?`, the first thing that keeps a tick from its poll;
* `Slots.release_of_acquire?`, `Dispatcher.release_sendPoll`: a tick that gives its slot back leaves
  all slots as they were;
* `Dispatcher.tickAtOnce?_of_objection`, `Dispatcher.tickAtOnce?_of_taken`: the two ways of a tick;
* `Host.Run.open_slots`: slots are open until the loops are told to stop;
* **`Host.tick_at_once`**: every tick does what it is to do;
* **`World.tickAtOnce?_of_beginTick`**: a tick by hand in a simulated world is such a tick.
-/

namespace TaskWorker

variable {α σ : Type}

/-- What answers polls at once, with a state of its own. -/
abbrev PollClient (σ : Type) := PollRecord → σ → Except ServerError (Option Task) × σ

/-- The server in memory. -/
def Server.client : PollClient Server := fun p s => s.poll p.taskType p.workerId p.domain

namespace TickOutcome

/-- What a tick comes to when its poll is answered. -/
def ofAnswer : Except ServerError (Option Task) → TickOutcome
  | .ok (some task) => .dispatched task.id
  | .ok none => .noTask
  | .error _ => .pollFailed

/-- Whether a tick sent its poll. -/
def hasPolled : TickOutcome → Bool
  | .noTask | .pollFailed | .dispatched _ => true
  | .shuttingDown | .serverUnavailable | .paused | .noCapacity => false

/-- **What is counted for a tick:** its poll, if it sent one, and what the poll came to if it
brought no task; otherwise that it found no free slot, if that is what it came to. -/
structure Counts (o : TickOutcome) (t t' : Tally) : Prop where
  polls : t'.polls = t.polls + if o.hasPolled then 1 else 0
  emptyPolls : t'.emptyPolls = t.emptyPolls + if o = .noTask then 1 else 0
  pollErrors : t'.pollErrors = t.pollErrors + if o = .pollFailed then 1 else 0
  withoutSlot : t'.withoutSlot = t.withoutSlot + if o = .noCapacity then 1 else 0
  executed : t'.executed = t.executed
  failures : t'.failures = t.failures
  reported : t'.reported = t.reported
  retries : t'.retries = t.retries
  dropped : t'.dropped = t.dropped
  rejected : t'.rejected = t.rejected

end TickOutcome

/-! ## What a tick is to do -/

/-- A poll for tasks of a handler's type, under the identity of the handler or else the worker id of
the settings, and in the domain that the settings name for the type, unless its name is empty. -/
structure PollRecord.Asks (p : PollRecord) (s : Settings) (g : Handler α)
    (identity : Option String) : Prop where
  taskType : p.taskType = g.taskType
  workerId : p.workerId = identity.getD s.workerId
  domain : ∀ domain, p.domain = some domain ↔
    s.domains.get? g.taskType = some domain ∧ domain.isEmpty = false

namespace Dispatcher

/-- Nothing objects to a poll for a handler: nobody told the dispatcher to stop, no gate is shut,
the handler is not paused, and one of the slots of its type is free. -/
structure Ready (d : Dispatcher α) (a : Allocation) (g : Handler α) (paused : Bool) : Prop where
  running : d.stopping = false
  gate : d.gate ≠ some false
  awake : paused = false
  free : d.busySlots g.taskType < (a.get g.taskType).toNat

/-- What every tick leaves as it was. -/
structure Frame (d d' : Dispatcher α) : Prop where
  settings : d'.settings = d.settings
  gate : d'.gate = d.gate
  stopping : d'.stopping = d.stopping
  forced : d'.forced = d.forced
  now : d'.now = d.now
  ticks : d'.ticks = d.ticks

/-- What a tick leaves as it was that hands no task over. -/
structure TaskFrame (d d' : Dispatcher α) : Prop where
  slots : d'.slots = d.slots
  executions : d'.executions = d.executions
  dispatched : d'.dispatched = d.dispatched
  running : d'.running = d.running

/-- A task is handed over: an execution of it begins, and it takes one slot of its type. -/
structure HandsOver (d : Dispatcher α) (g : Handler α) (workerId : String) (task : Task)
    (d' : Dispatcher α) : Prop where
  executions : d'.executions =
    d.executions ++ [⟨d.dispatched + 1, g, workerId, task, .handling d.now⟩]
  dispatched : d'.dispatched = d.dispatched + 1
  running : d'.running = d.running + 1
  busy : ∀ t, d'.busySlots t = d.busySlots t + if t = g.taskType then 1 else 0
  free : ∀ t, d'.freeSlots t + (if t = g.taskType then 1 else 0) = d.freeSlots t

end Dispatcher

/-- **What a tick is to do** that is over at once, if `poll` is the poll that it may send: what it
comes to, and what becomes of the dispatcher and of the client. -/
structure WholeTick (d : Dispatcher α) (a : Allocation) (g : Handler α) (paused : Bool)
    (poll : PollRecord) (client : PollClient σ) (c : σ)
    (outcome : TickOutcome) (d' : Dispatcher α) (c' : σ) : Prop where
  /-- It polls once if nothing objects, and goes by the answer. -/
  polls : d.Ready a g paused → d.forced = false ∧ c' = (client poll c).2 ∧
    d'.polls = .polled d.now poll.taskType poll.workerId poll.domain :: d.polls ∧
    outcome = .ofAnswer (client poll c).1
  /-- Otherwise it does not poll, and comes to the first objection. -/
  objects : ¬d.Ready a g paused → c' = c ∧ d'.polls = d.polls ∧
    outcome = if d.stopping then .shuttingDown
      else if d.gate = some false then .serverUnavailable
      else if paused then .paused else .noCapacity
  counts : outcome.Counts d.tally d'.tally
  frame : d.Frame d'
  quiet : (∀ id, outcome ≠ .dispatched id) → d.TaskFrame d'
  /-- The task that is handed over is the one that the poll brought. -/
  handsOver : ∀ id, outcome = .dispatched id → ∃ task, (client poll c).1 = .ok (some task) ∧
    id = task.id ∧ d.HandsOver g poll.workerId task d'

theorem Slots.release_of_acquire? {s s' : Slots} (taken : s.acquire? = some s') :
    s'.release = s := by
  obtain ⟨-, free, rfl⟩ := acquire?_eq_some taken
  have permits : s.available - 1 + 1 = s.available := Nat.sub_add_cancel free
  have busy : s.busy + 1 - 1 = s.busy := Int.add_sub_cancel _ _
  simp only [release, countDown, returnPermit, permits, busy]

namespace Dispatcher

variable {d d' d₁ : Dispatcher α} {g : Handler α} {paused : Bool} {identity : Option String}
  {client : PollClient σ} {c : σ}

/-! ## A tick with its poll -/

/-- A tick whose poll is answered before anything else happens: what it comes to, and what becomes
of the dispatcher and of the client. -/
def tickAtOnce? (d : Dispatcher α) (g : Handler α) (paused : Bool) (identity : Option String)
    (client : PollClient σ) (c : σ) : Option (TickOutcome × Dispatcher α × σ) :=
  match d.beginTick g paused identity with
  | (.over outcome, d) => some (outcome, d, c)
  | (.sent id, d) =>
    (d.tick? id).map fun k =>
      let (answer, c) := client ⟨k.handler.taskType, k.workerId, k.domain⟩ c
      let (outcome, d) := d.answerPoll k answer
      (outcome, d, c)

/-- The poll that a tick of a handler sends. -/
def pollOf (d : Dispatcher α) (g : Handler α) (identity : Option String) : PollRecord :=
  ⟨g.taskType, d.workerIdFor identity, d.settings.domainFor g.taskType⟩

/-- The poll that a tick sends is the one to send. -/
theorem asks_pollOf (d : Dispatcher α) (g : Handler α) (identity : Option String) :
    (d.pollOf g identity).Asks d.settings g identity where
  taskType := rfl
  workerId := rfl
  domain domain := by
    show d.settings.domainFor g.taskType = some domain ↔ _
    rw [Settings.domainFor, Option.filter_eq_some_iff, Bool.not_eq_true']

/-- The tick that waits for that poll. -/
def tickOf (d : Dispatcher α) (g : Handler α) (identity : Option String) : Tick α :=
  ⟨d.sentPolls, g, d.workerIdFor identity, d.settings.domainFor g.taskType, d.now⟩

/-- The dispatcher after a poll of which nothing is left but that it was sent and counted. -/
def polled (d : Dispatcher α) (g : Handler α) (identity : Option String) : Dispatcher α :=
  let p := d.pollOf g identity
  { d with
    sentPolls := d.sentPolls + 1
    tally := d.tally.poll
    journal := .polled d.now p.taskType p.workerId p.domain :: d.journal }

/-- The first thing that keeps a tick from its poll. -/
def objection? (d : Dispatcher α) (g : Handler α) (paused : Bool) : Option TickOutcome :=
  if d.stopping then some .shuttingDown
  else if d.gate = some false then some .serverUnavailable
  else if paused then some .paused
  else if d.acquire? g.taskType = none then some .noCapacity
  else none

theorem objection?_eq_none_iff : d.objection? g paused = none ↔
    d.stopping = false ∧ d.gate ≠ some false ∧ paused = false ∧ d.acquire? g.taskType ≠ none := by
  rw [objection?]
  split_ifs <;> simp_all

theorem objection?_eq_some {outcome : TickOutcome}
    (objects : d.objection? g paused = some outcome) :
    (∀ id, outcome ≠ .dispatched id) ∧
      outcome = if d.stopping then .shuttingDown
        else if d.gate = some false then .serverUnavailable
        else if paused then .paused else .noCapacity := by
  simp only [objection?] at objects
  split_ifs at objects ⊢
  all_goals
    cases objects
    exact ⟨nofun, rfl⟩

theorem isAvailable_iff : d.isAvailable = true ↔ d.gate ≠ some false := by
  rw [isAvailable]
  rcases d.gate with _ | _ | _ <;> simp

theorem ticks_sendPoll (taken : d.acquire? g.taskType = some d₁) (identity : Option String) :
    (d₁.sendPoll g identity).ticks = d.ticks ++ [d.tickOf g identity] ∧
      d₁.sentPolls = d.sentPolls := by
  obtain ⟨s, s', -, -, rfl⟩ := acquire?_eq_some taken
  exact ⟨rfl, rfl⟩

theorem tick?_sendPoll (o : d.Orderly) (taken : d.acquire? g.taskType = some d₁) :
    (d₁.sendPoll g identity).tick? d₁.sentPolls = some (d.tickOf g identity) := by
  obtain ⟨ticks, sent⟩ := ticks_sendPoll taken identity
  have before : d.ticks.find? (fun k => k.id = d.sentPolls) = none := by
    refine List.find?_eq_none.mpr fun k mem same => ?_
    have := o.ids_lt k mem
    simp only [decide_eq_true_eq] at same
    omega
  rw [tick?, ticks, sent, List.find?_append, before, Option.none_or]
  exact List.find?_cons_of_pos (by simp [tickOf])

theorem tick?_of_beginTick {id : Nat} (o : d.Orderly)
    (begun : d.beginTick g paused identity = (.sent id, d')) :
    d'.tick? id = some (d.tickOf g identity) := by
  simp only [beginTick] at begun
  split_ifs at begun
  · cases begun
  · cases begun
  · cases begun
  · split at begun
    · cases begun
    · rename_i d₁ taken
      cases begun
      exact tick?_sendPoll o taken

/-- The ticks after a poll that is over are those before it. -/
theorem ticks_dropTick_sendPoll (o : d.Orderly) (taken : d.acquire? g.taskType = some d₁)
    (identity : Option String) :
    ((d₁.sendPoll g identity).dropTick (d.tickOf g identity)).ticks = d.ticks := by
  have others : d.ticks.filter (fun k => k.id ≠ d.sentPolls) = d.ticks := by
    refine List.filter_eq_self.mpr fun k mem => decide_eq_true ?_
    exact Nat.ne_of_lt (o.ids_lt k mem)
  have own : [d.tickOf g identity].filter (fun k => k.id ≠ d.sentPolls) = [] :=
    List.filter_cons_of_neg (by simp [tickOf])
  show (d₁.sendPoll g identity).ticks.filter (fun k => k.id ≠ d.sentPolls) = d.ticks
  rw [(ticks_sendPoll taken identity).1, List.filter_append, others, own, List.append_nil]

theorem slots_release_of_taken {t : String} (taken : d.acquire? t = some d₁) :
    (d₁.release t).slots = d.slots := by
  obtain ⟨s, s', known, free, rfl⟩ := acquire?_eq_some taken
  refine Table.ext_get? fun u => ?_
  simp only [release, Table.get?_modify, Table.get?_insert]
  by_cases same : u = t
  · subst same
    simp only [if_true, Option.map_some, Slots.release_of_acquire? free, known]
  · simp only [if_neg same, if_neg (Ne.symm same)]

/-- **A tick that gives its slot back leaves everything as it was,** but for its poll. -/
theorem release_sendPoll (o : d.Orderly) (taken : d.acquire? g.taskType = some d₁) :
    ((d₁.sendPoll g identity).dropTick (d.tickOf g identity)).release g.taskType =
      d.polled g identity := by
  have ticks := ticks_dropTick_sendPoll o taken identity
  have slots := slots_release_of_taken taken
  obtain ⟨s, s', -, -, rfl⟩ := acquire?_eq_some taken
  simp only [release, dropTick] at ticks slots ⊢
  rw [ticks]
  simp only [sendPoll, slots]
  rfl

/-! ## The two ways of a tick -/

/-- A tick that does not get to its poll. -/
theorem tickAtOnce?_of_objection {outcome : TickOutcome}
    (objects : d.objection? g paused = some outcome) :
    d.tickAtOnce? g paused identity client c =
      some (outcome, if outcome = .noCapacity then d.count .noSlot else d, c) := by
  simp only [objection?] at objects
  rw [tickAtOnce?, beginTick]
  split_ifs at objects with stopping gate asleep none
  · cases objects
    rw [if_pos stopping]
    rfl
  · cases objects
    rw [if_neg stopping, if_pos (by simp [isAvailable, gate])]
    rfl
  · cases objects
    rw [if_neg stopping, if_neg (by simp [isAvailable_iff.mpr gate]), if_pos asleep]
    rfl
  · cases objects
    rw [if_neg stopping, if_neg (by simp [isAvailable_iff.mpr gate]), if_neg asleep, none]
    rfl

/-- **A tick to which something objects does what it is to do.** -/
theorem wholeTick_of_objection {outcome : TickOutcome} {a : Allocation} {poll : PollRecord}
    (objects : d.objection? g paused = some outcome) (unready : ¬d.Ready a g paused) :
    WholeTick d a g paused poll client c outcome
      (if outcome = .noCapacity then d.count .noSlot else d) c := by
  obtain ⟨undispatched, first⟩ := objection?_eq_some objects
  refine ⟨fun ready => absurd ready unready, fun _ => ⟨rfl, ?_, first⟩, ?_, ?_, fun _ => ?_,
    fun id is => absurd is (undispatched id)⟩
  · split_ifs <;> rfl
  · simp only [objection?] at objects
    split_ifs at objects <;> cases objects <;> constructor <;> rfl
  · split_ifs <;> constructor <;> rfl
  · split_ifs <;> constructor <;> rfl

/-- What a tick leaves that took a slot and whose poll was answered. -/
def afterPoll (d d₁ : Dispatcher α) (g : Handler α) (identity : Option String) :
    Except ServerError (Option Task) → Dispatcher α
  | .ok (some task) =>
    { (d.polled g identity).dispatch (d.tickOf g identity) task with slots := d₁.slots }
  | .ok none => (d.polled g identity).count .emptyPoll
  | .error _ => (d.polled g identity).count .pollError

theorem answerPoll_sendPoll (o : d.Orderly) (taken : d.acquire? g.taskType = some d₁)
    (answer : Except ServerError (Option Task)) :
    (d₁.sendPoll g identity).answerPoll (d.tickOf g identity) answer =
      (.ofAnswer answer, d.afterPoll d₁ g identity answer) := by
  have type : (d.tickOf g identity).handler.taskType = g.taskType := rfl
  rcases answer with error | task | task
  · simp only [answerPoll, type, release_sendPoll o taken]
    rfl
  · simp only [answerPoll, type, release_sendPoll o taken]
    rfl
  · have ticks := ticks_dropTick_sendPoll o taken identity
    obtain ⟨s, s', -, -, rfl⟩ := acquire?_eq_some taken
    simp only [dropTick] at ticks
    simp only [answerPoll, dropTick, dispatch, ticks]
    rfl

/-- A tick to which nothing objects. -/
theorem tickAtOnce?_of_taken (o : d.Orderly) (silent : d.objection? g paused = none)
    (identity : Option String) (client : PollClient σ) (c : σ) :
    ∃ d₁, d.acquire? g.taskType = some d₁ ∧
      d.tickAtOnce? g paused identity client c =
        some (.ofAnswer (client (d.pollOf g identity) c).1,
          d.afterPoll d₁ g identity (client (d.pollOf g identity) c).1,
          (client (d.pollOf g identity) c).2) := by
  obtain ⟨running, gate, awake, free⟩ := objection?_eq_none_iff.mp silent
  obtain ⟨d₁, taken⟩ := Option.ne_none_iff_exists'.mp free
  refine ⟨d₁, taken, ?_⟩
  have begun : d.beginTick g paused identity =
      (.sent d₁.sentPolls, d₁.sendPoll g identity) := by
    simp [beginTick, running, isAvailable_iff.mpr gate, awake, taken]
  have asked : (⟨(d.tickOf g identity).handler.taskType, (d.tickOf g identity).workerId,
      (d.tickOf g identity).domain⟩ : PollRecord) = d.pollOf g identity := rfl
  simp only [tickAtOnce?, begun, tick?_sendPoll o taken, Option.map_some, asked,
    answerPoll_sendPoll o taken]

/-- **A tick to which nothing objects does what it is to do.** -/
theorem wholeTick_of_taken {a : Allocation} (taken : d.acquire? g.taskType = some d₁)
    (ready : d.Ready a g paused) (unforced : d.forced = false) (identity : Option String)
    (client : PollClient σ) (c : σ) :
    WholeTick d a g paused (d.pollOf g identity) client c
      (.ofAnswer (client (d.pollOf g identity) c).1)
      (d.afterPoll d₁ g identity (client (d.pollOf g identity) c).1)
      (client (d.pollOf g identity) c).2 := by
  refine ⟨fun _ => ⟨unforced, rfl, ?_, rfl⟩, fun unready => absurd ready unready, ?_, ?_, ?_, ?_⟩
  · rcases (client (d.pollOf g identity) c).1 with error | task | task <;> rfl
  · rcases (client (d.pollOf g identity) c).1 with error | task | task <;> constructor <;> rfl
  · rcases (client (d.pollOf g identity) c).1 with error | task | task <;> constructor <;> rfl
  · rcases (client (d.pollOf g identity) c).1 with error | task | task
    · exact fun _ => ⟨rfl, rfl, rfl, rfl⟩
    · exact fun _ => ⟨rfl, rfl, rfl, rfl⟩
    · exact fun is => absurd rfl (is task.id)
  · intro id is
    rcases answer : (client (d.pollOf g identity) c).1 with error | task | task
    · rw [answer] at is
      cases is
    · rw [answer] at is
      cases is
    · rw [answer] at is
      cases is
      have counts := slotCounts_acquire? (c := .tick 0 g.taskType) taken
      have share (t : String) :
          (Holder.tick 0 g.taskType).share t = if t = g.taskType then 1 else 0 :=
        if_congr eq_comm rfl rfl
      refine ⟨task, rfl, rfl, rfl, rfl, rfl, fun t => ?_, fun t => ?_⟩
      · refine (counts t).1.trans ?_
        rw [share]
        split_ifs <;> rfl
      · rw [← share]
        exact (counts t).2

/-! ## Open slots -/

/-- No slots are closed. -/
def Open (d : Dispatcher α) : Prop := ∀ t s, d.slots.get? t = some s → s.closed = false

theorem Open.congr (isOpen : d.Open) (slots : d'.slots = d.slots) : d'.Open := by
  rw [Open, slots]
  exact isOpen

theorem Open.release (isOpen : d.Open) (taskType : String) : (d.release taskType).Open := by
  intro t s found
  rw [Dispatcher.release, Table.get?_modify] at found
  split_ifs at found
  · obtain ⟨s, old, rfl⟩ := Option.map_eq_some_iff.mp found
    exact isOpen t s old
  · exact isOpen t s found

theorem Open.acquire? {t : String} (isOpen : d.Open) (taken : d.acquire? t = some d₁) :
    d₁.Open := by
  obtain ⟨s, s', known, free, rfl⟩ := acquire?_eq_some taken
  obtain ⟨stillOpen, -, rfl⟩ := Slots.acquire?_eq_some free
  intro u v found
  rw [Table.get?_insert] at found
  split_ifs at found
  · cases found
    exact stillOpen
  · exact isOpen u v found

/-- Whatever has to do with tasks leaves open slots open. -/
theorem Move.open_slots {e : Host.Event} (move : d.Move e d') (busy : e.isAside = false)
    (isOpen : d.Open) : d'.Open := by
  cases move with
  | aside kind _ =>
    rw [busy] at kind
    cases kind
  | poll _ _ _ taken => exact (isOpen.acquire? taken).congr rfl
  | noTask _ | pollFailed _ | cut _ _ | pollLost _ =>
    exact (isOpen.release _).congr rfl
  | handled _ _ concluded =>
    obtain ⟨_, rfl⟩ := conclude_eq concluded
    exact isOpen.congr rfl
  | lostConcluding _ _ concluded =>
    obtain ⟨_, rfl⟩ := conclude_eq concluded
    exact (isOpen.release _).congr rfl
  | delivered _ _ finished | lostTelling _ _ finished _ =>
    obtain ⟨_, _, rfl, _⟩ := afterReport_over finished
    exact (isOpen.release _).congr rfl
  | abandoned _ _ | lost _ => exact (isOpen.release _).congr rfl
  | _ => exact isOpen.congr rfl

/-- Open slots are handed out as long as one is free. -/
theorem Open.acquire?_eq_none_iff {a : Allocation} (isOpen : d.Open) (account : d.Accounted a)
    (t : String) : d.acquire? t = none ↔ ¬d.busySlots t < (a.get t).toNat := by
  obtain ⟨busy, free⟩ := account t
  have none_free : ¬d.busySlots t < (a.get t).toNat ↔ d.freeSlots t = 0 := by omega
  rw [none_free]
  cases known : d.slots.get? t with
  | none => simp only [Dispatcher.acquire?, freeSlots, known]
  | some s =>
    have handsOut := Slots.acquire?_isSome_iff (s := s)
    rw [isOpen t s known, eq_self, true_and, Nat.pos_iff_ne_zero] at handsOut
    cases taken : s.acquire? with
    | none =>
      simp only [Dispatcher.acquire?, freeSlots, known, taken, true_iff]
      simpa [taken] using handsOut
    | some s' =>
      simp only [Dispatcher.acquire?, freeSlots, known, taken, reduceCtorEq, false_iff]
      exact handsOut.mp (by rw [taken]; rfl)

end Dispatcher

/-! ## Ticks of a host -/

namespace Host

variable {h₀ h h' : Host α} {e : Event} {es : List Event} {handlers : List (Handler α)}
  {settings : Settings}

/-- Slots are closed by nobody but a shutdown, which tells the loops to stop. -/
theorem open_of_aside (step : h.step? e = some h') (aside : e.isAside = true) :
    h'.dispatcher.slots = h.dispatcher.slots ∨ h'.dispatcher.stopping = true := by
  cases e with
  | elapse _ | gate _ =>
    cases step
    exact .inl rfl
  | init inRuntime =>
    simp only [step?] at step
    split_ifs at step
    cases step
    exact .inl (by rw [dispatcher_init])
  | shutdown =>
    simp only [step?] at step
    split_ifs at step
    cases step
    simp only [beginShutdown]
    split
    · exact .inr rfl
    · exact .inl rfl
  | drained | graceOver =>
    simp only [step?] at step
    split at step
    · split_ifs at step
      cases step
      exact .inl rfl
    · cases step
  | shutdownGivenUp =>
    simp only [step?] at step
    split at step
    · rename_i waiting
      cases step
      rw [giveUpShutdown_eq waiting]
      exact .inl rfl
    · cases step
  | dropped =>
    simp only [step?] at step
    split at step
    · cases step
    · cases step
      exact .inl rfl
  | loopStops t | loopPanics t =>
    simp only [step?] at step
    split at step
    · split_ifs at step
      cases step
      exact .inl rfl
    · cases step
  | _ => cases aside

/-- **Slots are open until the loops are told to stop.** -/
theorem Run.open_slots (built : build handlers settings = .ok h₀) (run : Run h₀ es h)
    (running : h.dispatcher.stopping = false) : h.dispatcher.Open := by
  refine run.snocInduction
    (P := fun _ h => h.dispatcher.stopping = false → h.dispatcher.Open) ?_ ?_ running
  · obtain ⟨hs, a, rfl, _⟩ := build_eq_ok built
    intro _ t s found
    simp only [assemble, Dispatcher.start, Table.get?_map] at found
    obtain ⟨n, -, rfl⟩ := Option.map_eq_some_iff.mp found
    rfl
  · intro es h h' e run ih step running
    have move := step?_move step
    have before : h.dispatcher.stopping = false := by
      by_contra stopping
      rw [(move.no_poll (by simpa using stopping)).1] at running
      cases running
    cases kind : e.isAside with
    | false => exact move.open_slots kind (ih before)
    | true =>
      rcases open_of_aside step kind with slots | stopping
      · exact (ih before).congr slots
      · rw [running] at stopping
        cases stopping

/-- As long as the loops are not told to stop, nothing is abandoned by force. -/
theorem Run.unforced_of_running (built : build handlers settings = .ok h₀) (run : Run h₀ es h)
    (running : h.dispatcher.stopping = false) : h.dispatcher.forced = false := by
  by_contra forced
  have stopped := (run.lawful built).forced (by simpa using forced)
  rw [(run.closed built (.inr stopped)).1] at running
  cases running

/-- **Nothing objects exactly if a tick is ready.** -/
theorem Run.objection?_eq_none_iff (built : build handlers settings = .ok h₀) (run : Run h₀ es h)
    (g : Handler α) (paused : Bool) :
    h.dispatcher.objection? g paused = none ↔ h.dispatcher.Ready h₀.allocation g paused := by
  have free (running : h.dispatcher.stopping = false) :
      h.dispatcher.acquire? g.taskType = none ↔
        ¬h.dispatcher.busySlots g.taskType < (h₀.allocation.get g.taskType).toNat :=
    (run.open_slots built running).acquire?_eq_none_iff (run.accounted built) g.taskType
  rw [Dispatcher.objection?_eq_none_iff]
  constructor
  · rintro ⟨running, gate, awake, some⟩
    exact ⟨running, gate, awake, not_not.mp (mt (free running).mpr some)⟩
  · rintro ⟨running, gate, awake, some⟩
    exact ⟨running, gate, awake, fun none => (free running).mp none some⟩

/-- **A tick polls exactly if nothing objects,** and then once, for the handler's type, under its
worker id and in the domain of the type. Otherwise it comes to the first objection. Whatever it
comes to is counted and changes nothing else, unless a task is handed over: then one slot of the
type is taken, and an execution of that task has begun. -/
theorem tick_at_once (built : build handlers settings = .ok h₀) (run : Run h₀ es h)
    (g : Handler α) (paused : Bool) (identity : Option String) (client : PollClient σ) (c : σ) :
    ∃ poll outcome d' c', poll.Asks h.dispatcher.settings g identity ∧
      h.dispatcher.tickAtOnce? g paused identity client c = some (outcome, d', c') ∧
      WholeTick h.dispatcher h₀.allocation g paused poll client c outcome d' c' := by
  have ready_iff := run.objection?_eq_none_iff built g paused
  cases objects : h.dispatcher.objection? g paused with
  | some outcome =>
    have unready : ¬h.dispatcher.Ready h₀.allocation g paused := by
      rw [← ready_iff, objects]
      exact Option.some_ne_none outcome
    exact ⟨_, _, _, _, Dispatcher.asks_pollOf _ g identity,
      Dispatcher.tickAtOnce?_of_objection objects,
      Dispatcher.wholeTick_of_objection objects unready⟩
  | none =>
    have ready := ready_iff.mp objects
    obtain ⟨d₁, taken, ticked⟩ :=
      Dispatcher.tickAtOnce?_of_taken (run.orderly built) objects identity client c
    have unforced := run.unforced_of_running built ready.running
    exact ⟨_, _, _, _, Dispatcher.asks_pollOf _ g identity, ticked,
      Dispatcher.wholeTick_of_taken taken ready unforced identity client c⟩

/-- The sample when its loop is about to make its first tick. -/
def sampleReady : Host Unit := (sample.replay (sampleWork.take 2)).get (by decide)

/-- Somebody who has a task for every poll, and counts the polls. -/
def sampleClient : PollClient Nat := fun _ n => (.ok (some sampleTask), n + 1)

/-- A tick of the sample takes the only slot and hands its task over. -/
theorem sample_tick_at_once : ∃ d' : Dispatcher Unit,
    sampleReady.dispatcher.tickAtOnce? sampleHandler false none sampleClient 0 =
        some (.dispatched "p1", d', 1) ∧
      d'.polls.length = 1 ∧ d'.busySlots "parcel" = 1 := by
  have run : Run sample (sampleWork.take 2) sampleReady := run_get _
  have ready : sampleReady.dispatcher.Ready sample.allocation sampleHandler false :=
    ⟨rfl, nofun, rfl, by decide⟩
  obtain ⟨poll, outcome, d', n, -, ticked, does⟩ :=
    tick_at_once build_sample run sampleHandler false none sampleClient 0
  obtain ⟨-, rfl, asked, rfl⟩ := does.polls ready
  obtain ⟨task, -, -, handsOver⟩ := does.handsOver sampleTask.id rfl
  refine ⟨d', ticked, ?_, handsOver.busy "parcel"⟩
  have none_before : sampleReady.dispatcher.polls.length = 0 := by decide
  rw [asked, List.length_cons, none_before]

end Host

/-! ## Ticks in simulated worlds -/

namespace World

/-- **A tick by hand whose poll takes no time on its way is such a tick,** with the server in
memory. -/
theorem tickAtOnce?_of_beginTick {w w' : World} {g : Handler Script}
    {start : Dispatcher.TickStart} (o : w.host.dispatcher.Orderly) (immediate : w.pollDelay = 0)
    (begun : w.beginTick g = (start, w')) :
    w.host.dispatcher.tickAtOnce? g (w.isPaused g) g.logic.identity Server.client w.server =
      (w'.outcome? start).map fun outcome => (outcome, w'.host.dispatcher, w'.server) := by
  simp only [beginTick, Prod.mk.injEq] at begun
  obtain ⟨rfl, rfl⟩ := begun
  rw [Dispatcher.tickAtOnce?]
  rcases first : w.host.dispatcher.beginTick g (w.isPaused g) g.logic.identity with
    ⟨outcome | id, d⟩
  · rfl
  · have found := Dispatcher.tick?_of_beginTick o first
    obtain ⟨-, rfl⟩ := Dispatcher.mem_of_tick? found
    simp only [found, answerAtOnce, immediate, withDispatcher, if_true, Option.map_some,
      Option.bind_some, answer, happen, Host.step?, Option.getD_some, outcome?, List.find?_cons,
      decide_true]
    rfl

end World

end TaskWorker
