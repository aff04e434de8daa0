import TaskWorker.Proofs.Calls
import TaskWorker.Proofs.Tables
/-!
# Stopping step by step

On its way to a poll, a loop looks at the word to stop, then at the gate, asks its handler, takes a
slot and sends the poll. On its way to its wait, a shutdown looks at the status, says the word to
stop and closes the slots, one type after the other. Where several threads make these steps, each of
them may be overtaken by others between two of its own. So a loop that looked before the word may
still send its poll after it, but only this one, and with closed slots only if it has a slot.

* `Stride`, `Closing`, `Stepwise`: a host, with the loops and the shutdown that are on their way;
  `Dispatcher.stride`, `Stepwise.step?`, single steps; `Stepwise.replay`, steps in any order;
* `Dispatcher.closeSlots_eq`, `Dispatcher.walk_looked`, `Stepwise.replay_loopTick`,
  `Stepwise.replay_beginShutdown`, **`Stepwise.replay_of_run`**: what happens in one event is steps
  with nothing in between;
* `Stepwise.Turn`, what a step does to the ways of loops; `Stepwise.MayPoll`: a loop may still poll
  when it is told to stop; **`Turn.mayPoll`**: no loop comes to those that may;
* `Stepwise.Since`, what is so since the word; **`Since.step`**: a step keeps it so;
* **`Stepwise.polls_after_word`**: which polls are sent after the word to stop, in any order of
  steps; `Stepwise.no_poll_after_word`: none, if no loop was on its way.
-/

namespace TaskWorker

variable {α : Type}

/-- How far a loop has got on its way to a poll. -/
inductive Stride where
  /-- It was not told to stop. -/
  | looked
  /-- The server is in service. -/
  | served
  /-- Its handler is not paused. -/
  | willing
  /-- It has a slot. -/
  | equipped
  deriving DecidableEq, Repr

/-- How far a shutdown has got on its way to its wait. -/
inductive Closing where
  /-- The status says that it has begun. -/
  | noted
  /-- The loops are told to stop. -/
  | told
  deriving DecidableEq, Repr

/-! ## Steps -/

namespace Dispatcher

/-- The next stride of a loop, or the end of its way. The handler says whether it is paused, or what
its identity is. -/
def stride (d : Dispatcher α) (g : Handler α) (paused : Bool) (identity : Option String) :
    Stride → (Stride ⊕ TickStart) × Dispatcher α
  | .looked =>
    if d.isAvailable then (.inl .served, d) else (.inr (.over .serverUnavailable), d)
  | .served => if paused then (.inr (.over .paused), d) else (.inl .willing, d)
  | .willing =>
    match d.acquire? g.taskType with
    | none => (.inr (.over .noCapacity), d.count .noSlot)
    | some d' => (.inl .equipped, d')
  | .equipped => (.inr (.sent d.sentPolls), d.sendPoll g identity)

/-- Hands out no more slots of a type. -/
def closeSlotsFor (d : Dispatcher α) (taskType : String) : Dispatcher α :=
  { d with slots := d.slots.modify taskType Slots.close }

/-- Whether all slots are closed. -/
def areClosed (d : Dispatcher α) : Bool := d.slots.values.all Slots.closed

end Dispatcher

/-- The loop of a host after the first part of its tick. -/
def Host.settle (h : Host α) (l : PollLoop α) : Dispatcher.TickStart → Host α
  | .sent id => h.setLoop l.handler.taskType (.polling id)
  | .over outcome =>
    h.setLoop l.handler.taskType
      (if outcome = .shuttingDown then .ended else h.resting l.handler)

/-- A host, with the loops on their way to a poll and the shutdown on its way to its wait. -/
structure Stepwise (α : Type) where
  host : Host α
  /-- How far the loop of a type has got, if it is on its way. -/
  onWay : String → Option Stride
  closing : Option Closing

namespace Stepwise

open Function (update)

/-- A host in which nobody is on the way. -/
def still (h : Host α) : Stepwise α := ⟨h, fun _ => none, none⟩

/-- A single step. -/
inductive Event where
  /-- The loop of a type wakes up and looks whether it is to stop. -/
  | looks (taskType : String)
  /-- The loop of a type makes its next stride. -/
  | strides (taskType : String) (paused : Bool) (identity : Option String)
  /-- The loop of a type panics on its way, in the gate or in its handler. -/
  | falls (taskType : String)
  /-- The loop of a type does not send its poll, as it sees that everything is abandoned. -/
  | cuts (taskType : String)
  /-- Somebody shuts the host down and looks at its status. -/
  | notes
  /-- The shutdown tells the loops to stop. -/
  | tells
  /-- The shutdown closes the slots of a type. -/
  | closes (taskType : String)
  /-- The shutdown comes to its wait. -/
  | waits
  /-- Something else happens, in one step. -/
  | other (e : Host.Event)

/-- Whether something else can happen in one step while others are on their way. -/
def isSingle (u : Stepwise α) : Host.Event → Bool
  | .shutdown | .loopTicks _ _ _ | .loopPanics _ => false
  | .loopStops t => (u.onWay t).isNone
  | .dropped => u.closing.isNone
  | _ => true

/-- The state after a step, if the step is possible. -/
def step? (u : Stepwise α) : Event → Option (Stepwise α)
  | .looks t =>
    match u.onWay t, u.host.sleeper? t with
    | none, some (_, due) =>
      if due ≤ u.host.now then
        if u.host.dispatcher.stopping then some { u with host := u.host.setLoop t .ended }
        else some { u with onWay := update u.onWay t (some .looked) }
      else none
    | _, _ => none
  | .strides t paused identity =>
    match u.onWay t, u.host.loop? t with
    | some s, some l =>
      match u.host.dispatcher.stride l.handler paused identity s with
      | (.inl next, dispatcher) =>
        some { u with
          host := { u.host with dispatcher }
          onWay := update u.onWay t (some next) }
      | (.inr start, dispatcher) =>
        some { u with
          host := { u.host with dispatcher }.settle l start
          onWay := update u.onWay t none }
    | _, _ => none
  | .falls t =>
    match u.onWay t with
    | none | some .willing => none
    | some .equipped =>
      some { u with
        host := { u.host with dispatcher := u.host.dispatcher.release t }.setLoop t .ended
        onWay := update u.onWay t none }
    | some .looked | some .served =>
      some { u with host := u.host.setLoop t .ended, onWay := update u.onWay t none }
  | .cuts t =>
    if u.onWay t = some .equipped ∧ u.host.dispatcher.forced = true then
      some { u with
        host := { u.host with
          dispatcher := (u.host.dispatcher.count .poll).release t }.setLoop t .ended
        onWay := update u.onWay t none }
    else none
  | .notes =>
    if u.host.gone then none
    else if u.host.status = .running then
      some { u with host := { u.host with status := .shuttingDown }, closing := some .noted }
    else some u
  | .tells =>
    if u.closing = some .noted then
      some { u with
        host := { u.host with dispatcher := { u.host.dispatcher with stopping := true } }
        closing := some .told }
    else none
  | .closes t =>
    if u.closing = some .told then
      some { u with
        host := { u.host with dispatcher := u.host.dispatcher.closeSlotsFor t } }
    else none
  | .waits =>
    if u.closing = some .told ∧ u.host.dispatcher.areClosed = true then
      some { u with
        host := { u.host with
          drain := .waiting (u.host.now + u.host.dispatcher.settings.gracePeriod.ticks) }
        closing := none }
    else none
  | .other e => if u.isSingle e then (u.host.step? e).map fun host => { u with host } else none

/-- The state after some steps, if each of them is possible in its turn. -/
def replay (u : Stepwise α) (es : List Event) : Option (Stepwise α) := es.foldlM step? u

end Stepwise

/-! ## Events are steps with nothing in between -/

theorem Host.loopTick_eq (h : Host α) (l : PollLoop α) (paused : Bool)
    (identity : Option String) :
    h.loopTick l paused identity =
      { h with dispatcher := (h.dispatcher.beginTick l.handler paused identity).2 }.settle l
        (h.dispatcher.beginTick l.handler paused identity).1 := by
  simp only [loopTick]
  split <;> rename_i begun <;> rw [begun] <;> rfl

namespace Dispatcher

variable {d : Dispatcher α} {t : String}

theorem closeSlotsFor_foldl (names : List String) (d : Dispatcher α) :
    names.foldl closeSlotsFor d =
      { d with slots := names.foldl (fun slots t => slots.modify t Slots.close) d.slots } := by
  induction names generalizing d with
  | nil => rfl
  | cons t names ih => exact ih _

theorem get?_foldl_close (names : List String) (slots : Table Slots) (t : String) :
    (names.foldl (fun slots t => slots.modify t Slots.close) slots).get? t =
      if t ∈ names then (slots.get? t).map Slots.close else slots.get? t := by
  induction names generalizing slots with
  | nil => rfl
  | cons name names ih =>
    rw [List.foldl_cons, ih, Table.get?_modify]
    by_cases same : t = name
    · subst same
      have twice : Slots.close ∘ Slots.close = Slots.close := rfl
      by_cases again : t ∈ names <;> simp [again, twice]
    · simp [same]

/-- **To close all slots is to close those of one type after the other.** -/
theorem closeSlots_eq (d : Dispatcher α) : d.closeSlots = d.slots.keys.foldl closeSlotsFor d := by
  rw [closeSlotsFor_foldl, closeSlots]
  congr 1
  refine Table.ext_get? fun t => ?_
  rw [get?_foldl_close, Table.get?_map]
  split_ifs with known
  · rfl
  · rw [not_not.mp (mt Table.mem_keys_iff.mpr known)]
    rfl

theorem areClosed_closeSlots (d : Dispatcher α) : d.closeSlots.areClosed = true := by
  simp [areClosed, closeSlots, Table.values, Table.map, Slots.close]

/-- What comes of the strides of a loop from one on, with nothing in between, if so many are
enough. -/
def walk (d : Dispatcher α) (g : Handler α) (paused : Bool) (identity : Option String) :
    Nat → Stride → Option (TickStart × Dispatcher α)
  | 0, _ => none
  | n + 1, s =>
    match d.stride g paused identity s with
    | (.inl next, d') => d'.walk g paused identity n next
    | (.inr start, d') => some (start, d')

/-- **The first part of a tick is four strides at most,** after the look at the word to stop. -/
theorem walk_looked (d : Dispatcher α) (g : Handler α) (paused : Bool) (identity : Option String)
    (untold : ¬ d.stopping = true) :
    d.walk g paused identity 4 .looked = some (d.beginTick g paused identity) := by
  rw [beginTick, if_neg untold]
  by_cases available : d.isAvailable = true
  · by_cases pause : paused = true
    · simp [walk, stride, available, pause]
    · cases taken : d.acquire? g.taskType <;> simp [walk, stride, available, pause, taken]
  · simp [walk, stride, available]

end Dispatcher

namespace Stepwise

variable {u v w : Stepwise α} {e : Event} {es : List Event} {h h' : Host α} {t : String}

theorem replay_append (es fs : List Event) :
    u.replay (es ++ fs) = (u.replay es).bind fun v => v.replay fs :=
  List.foldlM_append

theorem replay_single (e : Event) : u.replay [e] = u.step? e := by
  simp [replay]

theorem replay_cons (e : Event) (es : List Event) :
    u.replay (e :: es) = (u.step? e).bind fun v => v.replay es :=
  List.foldlM_cons

/-- A host in which one loop is on its way, and nobody else. -/
def walking (h : Host α) (t : String) (s : Stride) : Stepwise α :=
  ⟨h, Function.update (fun _ => none) t (some s), none⟩

/-- A loop that wakes up is on its way, unless it is told to stop. -/
theorem step?_looks {l : PollLoop α} {due : Nat} (asleep : h.sleeper? t = some (l, due))
    (late : due ≤ h.now) :
    (still h).step? (.looks t) =
      some (if h.dispatcher.stopping then still (h.setLoop t .ended) else walking h t .looked) := by
  by_cases told : h.dispatcher.stopping = true <;> simp [step?, still, asleep, late, told, walking]

section Strides

variable {l : PollLoop α} {paused : Bool} {identity : Option String} {s : Stride}
  {d : Dispatcher α} {start : Dispatcher.TickStart} (found : h.loop? t = some l)

include found

theorem step?_on {next : Stride}
    (strode : h.dispatcher.stride l.handler paused identity s = (.inl next, d)) :
    (walking h t s).step? (.strides t paused identity) =
      some (walking { h with dispatcher := d } t next) := by
  simp only [step?, walking, Function.update_self, found, strode, Function.update_idem]

theorem step?_over (strode : h.dispatcher.stride l.handler paused identity s = (.inr start, d)) :
    (walking h t s).step? (.strides t paused identity) =
      some (still ({ h with dispatcher := d }.settle l start)) := by
  have nobody : Function.update (fun _ => none) t none = fun _ : String => (none : Option Stride) :=
    Function.update_eq_self t _
  simp only [step?, walking, Function.update_self, found, strode, Function.update_idem, nobody,
    still]

/-- **The whole way of a loop is made of strides.** -/
theorem replay_walk {n : Nat}
    (walked : h.dispatcher.walk l.handler paused identity n s = some (start, d)) :
    ∃ k ≤ n, (walking h t s).replay (List.replicate k (.strides t paused identity)) =
      some (still ({ h with dispatcher := d }.settle l start)) := by
  induction n generalizing h s with
  | zero => cases walked
  | succ n ih =>
    cases strode : h.dispatcher.stride l.handler paused identity s with
    | mk r d₁ =>
      rw [Dispatcher.walk, strode] at walked
      cases r with
      | inl next =>
        obtain ⟨k, le, steps⟩ := ih (h := { h with dispatcher := d₁ }) found walked
        refine ⟨k + 1, Nat.succ_le_succ le, ?_⟩
        rw [List.replicate_succ, replay_cons, step?_on found strode, Option.bind_some, steps]
      | inr start =>
        cases walked
        exact ⟨1, Nat.le_add_left 1 n, (replay_single _).trans (step?_over found strode)⟩

end Strides

/-- **A tick is a look and up to four strides**, with nothing in between. -/
theorem replay_loopTick {l : PollLoop α} {due : Nat} (asleep : h.sleeper? t = some (l, due))
    (late : due ≤ h.now) (paused : Bool) (identity : Option String) :
    ∃ n ≤ 4, (still h).replay (.looks t :: List.replicate n (.strides t paused identity)) =
      some (still (h.loopTick l paused identity)) := by
  have found := Host.loop?_of_sleeper? asleep
  obtain ⟨-, rfl, -⟩ := Host.sleeper?_eq_some asleep
  by_cases told : h.dispatcher.stopping = true
  · refine ⟨0, Nat.zero_le 4, ?_⟩
    rw [Host.loopTick_eq, Dispatcher.beginTick, if_pos told, List.replicate_zero, replay_single,
      step?_looks asleep late, if_pos told]
    rfl
  · have walked := h.dispatcher.walk_looked l.handler paused identity told
    cases begun : h.dispatcher.beginTick l.handler paused identity with
    | mk start d =>
      rw [begun] at walked
      obtain ⟨n, le, steps⟩ := replay_walk found walked
      refine ⟨n, le, ?_⟩
      rw [Host.loopTick_eq, begun, replay_cons, step?_looks asleep late, if_neg told,
        Option.bind_some, steps]

theorem replay_closes (told : u.closing = some .told) (names : List String) :
    u.replay (names.map .closes) =
      some { u with host := { u.host with
        dispatcher := names.foldl Dispatcher.closeSlotsFor u.host.dispatcher } } := by
  induction names generalizing u with
  | nil => rfl
  | cons t names ih =>
    rw [List.map_cons, replay, List.foldlM_cons, step?, if_pos told]
    exact ih told

/-- **A shutdown begins with a look, a word and the closing of slots**, with nothing in between. -/
theorem replay_beginShutdown (here : h.gone = false) (running : h.status = .running) :
    (still h).replay ([.notes, .tells] ++ h.dispatcher.slots.keys.map .closes ++ [.waits]) =
      some (still h.beginShutdown) := by
  -- The slots are closed after the word was said.
  let d : Dispatcher α := { h.dispatcher with stopping := true }
  have told : (still h).replay [.notes, .tells] =
      some ⟨{ h with status := .shuttingDown, dispatcher := d }, fun _ => none, some .told⟩ := by
    simp [replay, step?, still, here, running, d]
  rw [replay_append, replay_append, told, Option.bind_some, replay_closes rfl, Option.bind_some,
    replay_single, step?]
  have closed : h.dispatcher.slots.keys.foldl Dispatcher.closeSlotsFor d = d.closeSlots :=
    d.closeSlots_eq.symm
  rw [if_pos ⟨rfl, by rw [closed]; exact d.areClosed_closeSlots⟩, Host.beginShutdown, running,
    closed]
  rfl

theorem replay_other {e : Host.Event} (single : (still h).isSingle e = true)
    (step : h.step? e = some h') : (still h).replay [.other e] = some (still h') := by
  rw [replay_single, step?, if_pos single]
  exact congrArg (Option.map still) step

/-- **What happens in one event is single steps**, with nothing in between. -/
theorem replay_of_step {e : Host.Event} (step : h.step? e = some h') :
    ∃ es, (still h).replay es = some (still h') := by
  cases e with
  | shutdown =>
    simp only [Host.step?] at step
    split_ifs at step with gone
    cases step
    have here : h.gone = false := by simpa using gone
    by_cases running : h.status = .running
    · exact ⟨_, replay_beginShutdown here running⟩
    · refine ⟨[.notes], ?_⟩
      rw [replay_single, Host.beginShutdown_of_ne running]
      simp [step?, still, here, running]
  | loopTicks t paused identity =>
    simp only [Host.step?] at step
    split at step
    · rename_i l due asleep
      split_ifs at step with late
      cases step
      obtain ⟨n, -, steps⟩ := replay_loopTick asleep late paused identity
      exact ⟨_, steps⟩
    · cases step
  | loopPanics t =>
    simp only [Host.step?] at step
    split at step
    · rename_i l due asleep
      split_ifs at step with late
      cases step
      by_cases told : h.dispatcher.stopping = true
      · exact ⟨[.looks t], by rw [replay_single, step?_looks asleep late, if_pos told]⟩
      · refine ⟨[.looks t, .falls t], ?_⟩
        rw [replay_cons, step?_looks asleep late, if_neg told, Option.bind_some, replay_single]
        simp [step?, walking, still]
    · cases step
  | _ => exact ⟨_, replay_other rfl step⟩

/-- **A run is a run of single steps.** -/
theorem replay_of_run {es : List Host.Event} (run : Host.Run h es h') :
    ∃ fs, (still h).replay fs = some (still h') := by
  induction run with
  | nil h => exact ⟨[], rfl⟩
  | cons first rest ih =>
    obtain ⟨fs, steps⟩ := ih
    obtain ⟨es, one⟩ := replay_of_step first
    exact ⟨es ++ fs, by rw [replay_append, one, Option.bind_some, steps]⟩

end Stepwise

/-! ## Polls -/

/-- The type of a poll that was sent. -/
def Entry.polledType? : Entry → Option String
  | .polled _ taskType _ _ => some taskType
  | _ => none

namespace Dispatcher

variable {d d' : Dispatcher α} {g : Handler α} {paused : Bool} {identity : Option String}
  {s : Stride} {t : String}

/-- The types of the polls that were sent, the latest first. -/
def polledTypes (d : Dispatcher α) : List String := d.journal.filterMap Entry.polledType?

/-- Only ticks send polls. -/
theorem Move.polledTypes_eq {e : Host.Event} (move : d.Move e d')
    (other : ∀ t paused identity, e ≠ .loopTicks t paused identity) :
    d'.polledTypes = d.polledTypes := by
  cases move with
  | aside _ same => rw [polledTypes, same.journal, polledTypes]
  | idle _ | noSlot _ _ _ | poll _ _ _ _ => exact absurd rfl (other _ _ _)
  | handled _ _ concluded | lostConcluding _ _ concluded =>
    obtain ⟨_, rfl⟩ := conclude_eq concluded
    rfl
  | delivered _ _ finished | lostTelling _ _ finished _ =>
    obtain ⟨_, _, rfl, undelivered⟩ := afterReport_over finished
    exact filterMap_news rfl undelivered
  | _ => rfl

/-- What is never taken back: the word to stop, and the closing of slots. -/
structure Keeps (d d' : Dispatcher α) : Prop where
  stopping : d.stopping = true → d'.stopping = true
  closed : ∀ t, d.ClosedFor t → d'.ClosedFor t

theorem Keeps.refl (d : Dispatcher α) : d.Keeps d := ⟨id, fun _ closed => closed⟩

theorem Move.keeps {e : Host.Event} (move : d.Move e d') : d.Keeps d' :=
  ⟨fun stopping => (move.no_poll stopping).1, fun _ => move.closedFor⟩

theorem keeps_release (d : Dispatcher α) (taskType : String) : d.Keeps (d.release taskType) :=
  ⟨id, fun _ closed => closed.release taskType⟩

theorem keeps_closeSlotsFor (d : Dispatcher α) (taskType : String) :
    d.Keeps (d.closeSlotsFor taskType) :=
  ⟨id, fun _ closed => closed.modify (f := Slots.close) (fun _ _ => rfl) taskType rfl⟩

theorem keeps_acquire? {taskType : String} (taken : d.acquire? taskType = some d') :
    d.Keeps d' := by
  refine ⟨?_, fun _ closed => closed.acquire taken⟩
  obtain ⟨_, _, _, _, rfl⟩ := acquire?_eq_some taken
  exact id

theorem keeps_stride {r : Stride ⊕ TickStart} (strode : d.stride g paused identity s = (r, d')) :
    d.Keeps d' := by
  cases s with
  | looked | served =>
    simp only [stride] at strode
    split_ifs at strode <;> cases strode <;> exact .refl d
  | willing =>
    simp only [stride] at strode
    split at strode
    · cases strode
      exact ⟨id, fun _ closed => closed⟩
    · rename_i d₁ taken
      cases strode
      exact keeps_acquire? taken
  | equipped =>
    cases strode
    exact ⟨id, fun _ closed => closed⟩

/-- A loop that has no slot sends no poll, and gets a slot only if those of its type are open. -/
theorem stride_unequipped {r : Stride ⊕ TickStart} (unequipped : s ≠ .equipped)
    (strode : d.stride g paused identity s = (r, d')) :
    d'.polledTypes = d.polledTypes ∧ (r = .inl .equipped → ¬ d.ClosedFor g.taskType) := by
  cases s with
  | looked | served =>
    simp only [stride] at strode
    split_ifs at strode <;> cases strode <;> exact ⟨rfl, nofun⟩
  | willing =>
    simp only [stride] at strode
    split at strode
    · cases strode
      exact ⟨rfl, nofun⟩
    · rename_i d₁ taken
      cases strode
      refine ⟨?_, fun _ closed => ?_⟩
      · obtain ⟨_, _, _, _, rfl⟩ := acquire?_eq_some taken
        rfl
      · rw [closed.acquire?_eq_none] at taken
        cases taken
  | equipped => exact absurd rfl unequipped

end Dispatcher

theorem Host.dispatcher_settle (h : Host α) (l : PollLoop α) (start : Dispatcher.TickStart) :
    (h.settle l start).dispatcher = h.dispatcher := by
  cases start <;> rfl

namespace Stepwise

variable {u v w : Stepwise α} {e : Event} {es : List Event}

open Function (update)

/-! ## What a step does -/

/-- What a step does to the ways of loops, and the poll that it sends. -/
inductive Turn (u v : Stepwise α) : Prop where
  | aside (onWay : v.onWay = u.onWay)
      (sent : v.host.dispatcher.polledTypes = u.host.dispatcher.polledTypes)
  | begins (t : String) (untold : u.host.dispatcher.stopping = false)
      (onWay : v.onWay = update u.onWay t (some .looked))
      (sent : v.host.dispatcher.polledTypes = u.host.dispatcher.polledTypes)
  | goesOn (t : String) (s next : Stride) (before : u.onWay t = some s)
      (slots : next = .equipped → ¬ u.host.dispatcher.ClosedFor t)
      (onWay : v.onWay = update u.onWay t (some next))
      (sent : v.host.dispatcher.polledTypes = u.host.dispatcher.polledTypes)
  | leaves (t : String) (onWay : v.onWay = update u.onWay t none)
      (sent : v.host.dispatcher.polledTypes = u.host.dispatcher.polledTypes)
  | polls (t : String) (before : u.onWay t = some .equipped)
      (onWay : v.onWay = update u.onWay t none)
      (sent : v.host.dispatcher.polledTypes = t :: u.host.dispatcher.polledTypes)

theorem turn_strides {t : String} {paused : Bool} {identity : Option String}
    (step : u.step? (.strides t paused identity) = some v) :
    u.host.dispatcher.Keeps v.host.dispatcher ∧ u.Turn v := by
  simp only [step?] at step
  split at step
  · rename_i s l before found
    obtain ⟨-, rfl⟩ := Host.loop?_eq_some found
    split at step
    · rename_i next d strode
      obtain rfl := Option.some.inj step
      have unequipped : s ≠ .equipped := by
        rintro rfl
        cases strode
      obtain ⟨sent, slots⟩ := Dispatcher.stride_unequipped unequipped strode
      exact ⟨Dispatcher.keeps_stride strode,
        .goesOn _ s next before (fun same => slots (congrArg _ same)) rfl sent⟩
    · rename_i start d strode
      obtain rfl := Option.some.inj step
      have settled := Host.dispatcher_settle { u.host with dispatcher := d } l start
      refine ⟨by rw [settled]; exact Dispatcher.keeps_stride strode, ?_⟩
      by_cases equipped : s = .equipped
      · subst equipped
        cases strode
        exact .polls _ before rfl rfl
      · refine .leaves _ rfl ?_
        rw [settled]
        exact (Dispatcher.stride_unequipped equipped strode).1
  · cases step

/-- **Every step does one of these things,** and takes nothing back. -/
theorem step?_turn (step : u.step? e = some v) :
    u.host.dispatcher.Keeps v.host.dispatcher ∧ u.Turn v := by
  cases e with
  | strides t paused identity => exact turn_strides step
  | looks t =>
    simp only [step?] at step
    split at step
    · split_ifs at step with late stopping
      · obtain rfl := Option.some.inj step
        exact ⟨.refl _, .aside rfl rfl⟩
      · obtain rfl := Option.some.inj step
        exact ⟨.refl _, .begins t (by simpa using stopping) rfl rfl⟩
    · cases step
  | falls t =>
    simp only [step?] at step
    split at step
    · cases step
    · cases step
    · obtain rfl := Option.some.inj step
      exact ⟨Dispatcher.keeps_release _ t, .leaves t rfl rfl⟩
    all_goals
      obtain rfl := Option.some.inj step
      exact ⟨.refl _, .leaves t rfl rfl⟩
  | cuts t =>
    simp only [step?] at step
    split_ifs at step
    obtain rfl := Option.some.inj step
    exact ⟨⟨id, fun _ closed => (closed.congr rfl).release t⟩, .leaves t rfl rfl⟩
  | notes =>
    simp only [step?] at step
    split_ifs at step
    all_goals
      obtain rfl := Option.some.inj step
      exact ⟨.refl _, .aside rfl rfl⟩
  | tells =>
    simp only [step?] at step
    split_ifs at step
    obtain rfl := Option.some.inj step
    exact ⟨⟨fun _ => rfl, fun _ closed => closed⟩, .aside rfl rfl⟩
  | closes t =>
    simp only [step?] at step
    split_ifs at step
    obtain rfl := Option.some.inj step
    exact ⟨Dispatcher.keeps_closeSlotsFor _ t, .aside rfl rfl⟩
  | waits =>
    simp only [step?] at step
    split_ifs at step
    obtain rfl := Option.some.inj step
    exact ⟨.refl _, .aside rfl rfl⟩
  | other e =>
    simp only [step?] at step
    split_ifs at step with single
    obtain ⟨h, one, rfl⟩ := Option.map_eq_some_iff.mp step
    have move := Host.step?_move one
    refine ⟨move.keeps, .aside rfl (move.polledTypes_eq fun t paused identity same => ?_)⟩
    subst same
    cases single

/-! ## After the word -/

/-- Whether the loop of a type may still poll when it is told to stop: it is on its way, and has a
slot if the slots of its type are closed. -/
def MayPoll (u : Stepwise α) (t : String) : Prop :=
  u.onWay t ≠ none ∧ (u.host.dispatcher.ClosedFor t → u.onWay t = some .equipped)

theorem not_mayPoll_of_leave {t : String} (onWay : v.onWay = update u.onWay t none) :
    ¬ v.MayPoll t :=
  fun may => may.1 (by rw [onWay, Function.update_self])

/-- The way of another loop is as it was. -/
theorem mayPoll_of_ne {t t' : String} {s : Option Stride} (other : t' ≠ t)
    (keeps : u.host.dispatcher.Keeps v.host.dispatcher) (onWay : v.onWay = update u.onWay t s)
    (may : v.MayPoll t') : u.MayPoll t' := by
  rw [MayPoll, onWay, Function.update_of_ne other] at may
  exact ⟨may.1, fun closed => may.2 (keeps.closed t' closed)⟩

/-- **After the word, no loop comes to those that may still poll.** -/
theorem Turn.mayPoll {t : String} (turn : u.Turn v)
    (keeps : u.host.dispatcher.Keeps v.host.dispatcher)
    (told : u.host.dispatcher.stopping = true) (may : v.MayPoll t) : u.MayPoll t := by
  cases turn with
  | aside onWay _ =>
    rw [MayPoll, onWay] at may
    exact ⟨may.1, fun closed => may.2 (keeps.closed t closed)⟩
  | begins _ untold =>
    rw [told] at untold
    cases untold
  | goesOn t' s next before slots onWay _ =>
    by_cases same : t = t'
    · subst same
      refine ⟨by rw [before]; nofun, fun closed => ?_⟩
      have equipped := may.2 (keeps.closed t closed)
      rw [onWay, Function.update_self, Option.some.injEq] at equipped
      exact absurd closed (slots equipped)
    · exact mayPoll_of_ne same keeps onWay may
  | leaves t' onWay _ | polls t' _ onWay _ =>
    by_cases same : t = t'
    · subst same
      exact absurd may (not_mayPoll_of_leave onWay)
    · exact mayPoll_of_ne same keeps onWay may

/-- What is so since the loops were told to stop: whoever may poll now might have done so then, and
so might those that have sent a poll, who may not any more. -/
structure Since (u v : Stepwise α) : Prop where
  told : v.host.dispatcher.stopping = true
  mayPoll : ∀ t, v.MayPoll t → u.MayPoll t
  polls : ∃ new, v.host.dispatcher.polledTypes = new ++ u.host.dispatcher.polledTypes ∧
    new.Nodup ∧ ∀ t ∈ new, u.MayPoll t ∧ ¬ v.MayPoll t

theorem Since.refl (told : u.host.dispatcher.stopping = true) : u.Since u :=
  ⟨told, fun _ may => may, [], rfl, .nil, nofun⟩

/-- **A step keeps it so.** -/
theorem Since.step (since : u.Since v) (step : v.step? e = some w) : u.Since w := by
  obtain ⟨keeps, turn⟩ := step?_turn step
  obtain ⟨new, polls, nodup, senders⟩ := since.polls
  have mayPoll t (may : w.MayPoll t) : v.MayPoll t := turn.mayPoll keeps since.told may
  have senders' t (mem : t ∈ new) : u.MayPoll t ∧ ¬ w.MayPoll t :=
    (senders t mem).imp_right fun may_not may => may_not (mayPoll t may)
  refine ⟨keeps.stopping since.told, fun t may => since.mayPoll t (mayPoll t may), ?_⟩
  cases turn with
  | aside _ sent | begins _ _ _ sent | goesOn _ _ _ _ _ _ sent | leaves _ _ sent =>
    exact ⟨new, sent.trans polls, nodup, senders'⟩
  | polls t before onWay sent =>
    have may : v.MayPoll t := ⟨by rw [before]; nofun, fun _ => before⟩
    have fresh : t ∉ new := fun mem => (senders t mem).2 may
    refine ⟨t :: new, by rw [sent, polls, List.cons_append], nodup.cons fresh, ?_⟩
    exact List.forall_mem_cons.mpr ⟨⟨since.mayPoll t may, not_mayPoll_of_leave onWay⟩, senders'⟩

/-- **After the word to stop, only loops that were on their way send a poll, and only one.** If the
slots of its type were closed already, such a loop had a slot. -/
theorem polls_after_word (told : u.host.dispatcher.stopping = true)
    (later : u.replay es = some v) :
    ∃ new, v.host.dispatcher.polledTypes = new ++ u.host.dispatcher.polledTypes ∧ new.Nodup ∧
      ∀ t ∈ new, u.MayPoll t ∧ ¬ v.MayPoll t := by
  have since : u.Since v :=
    foldlM_induction (P := fun _ v => u.Since v) (.refl told) (fun _ since step => since.step step)
      later
  exact since.polls

/-- No poll is sent after the word, in any order of steps, if no loop was on its way. -/
theorem no_poll_after_word (told : u.host.dispatcher.stopping = true)
    (nobody : ∀ t, u.onWay t = none) (later : u.replay es = some v) :
    v.host.dispatcher.polledTypes = u.host.dispatcher.polledTypes := by
  obtain ⟨new, polls, -, senders⟩ := polls_after_word told later
  have none : new = [] :=
    List.eq_nil_iff_forall_not_mem.mpr fun t mem => (senders t mem).1.1 (nobody t)
  rw [polls, none, List.nil_append]

/-- The loop of the sample makes its first steps, up to its slot. -/
def sampleSteps : List Event :=
  .looks "parcel" :: List.replicate 3 (.strides "parcel" false none)

/-- A shutdown overtakes the loop, says the word, closes all slots and waits. Then the poll is
sent. -/
example :
    let steps := [.other (.init true), .other (.elapse 1000)] ++ sampleSteps ++
      [.notes, .tells, .closes "parcel", .waits]
    ((still Host.sample).replay steps).map
        (fun u => (u.host.drain, u.host.dispatcher.polledTypes)) =
      some (.waiting 11000, []) ∧
    ((still Host.sample).replay (steps ++ [.strides "parcel" false none])).map
        (fun u => (u.host.drain, u.host.dispatcher.polledTypes)) =
      some (.waiting 11000, ["parcel"]) := by
  decide

/-- A loop that looks after the shutdown has looked at the status, and before the word, polls
too. -/
example :
    ((still Host.sample).replay ([.other (.init true), .other (.elapse 1000), .notes] ++
        sampleSteps ++ [.strides "parcel" false none])).map
      (fun u => (u.host.status, u.host.dispatcher.polledTypes)) =
    some (.shuttingDown, ["parcel"]) := by
  decide

end Stepwise

end TaskWorker
