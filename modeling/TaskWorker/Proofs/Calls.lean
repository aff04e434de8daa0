import TaskWorker.Proofs.Drain
import TaskWorker.Proofs.Stopping
/-!
# Starts and shutdowns

A host may be started and shut down by anybody, at any time and as often as they like, and a
shutdown may be given up while it waits. One start does something, and one shutdown after it; all
other calls are refused and change nothing.

* `HostStatus.next?`, the order of the statuses; `LifeTurn.status`: an event goes one step at most;
* `startReplies`, `shutdownReplies`, what the callers of a run hear; **`Run.called`**: how many of
  them were let through can be read off the status;
* `Dispatcher.ClosedFor`, `Dispatcher.Closed`: the slots of a type are closed, or all slots;
  **`Run.closed`**: so they are from the shutdown on;
* **`Run.atRest_or_forced`**: a host that is stopped has nothing left to do, or abandons it;
* **`Host.one_start_one_shutdown`**: all this for the runs of a built host.
-/

namespace TaskWorker

variable {α : Type}

namespace HostStatus

/-- The status that follows another one. -/
def next? : HostStatus → Option HostStatus
  | .created => some .running
  | .running => some .shuttingDown
  | .shuttingDown => some .stopped
  | .stopped => none

/-- The starts that were let through before a status. -/
def starts : HostStatus → Nat
  | .created => 0
  | _ => 1

/-- The shutdowns that were let through before a status. -/
def shutdowns : HostStatus → Nat
  | .created | .running => 0
  | _ => 1

/-- The shutdowns that were over before a status. -/
def ends : HostStatus → Nat
  | .stopped => 1
  | _ => 0

end HostStatus

/-! ## Closed slots -/

namespace Dispatcher

variable {d d' : Dispatcher α} {e : Host.Event}

/-- No slot of a type is handed out any more. -/
def ClosedFor (d : Dispatcher α) (t : String) : Prop :=
  ∀ s, d.slots.get? t = some s → s.closed = true

/-- No slot is handed out any more. -/
def Closed (d : Dispatcher α) : Prop := ∀ t s, d.slots.get? t = some s → s.closed = true

variable {t : String}

theorem ClosedFor.congr (closed : d.ClosedFor t) (slots : d'.slots = d.slots) :
    d'.ClosedFor t := by
  rw [ClosedFor, slots]
  exact closed

theorem closed_of_map (slots : d'.slots = d.slots.map fun _ s => s.close) : d'.Closed := by
  intro t s found
  rw [slots, Table.get?_map, Option.map_eq_some_iff] at found
  obtain ⟨s, -, rfl⟩ := found
  rfl

/-- Slots stay closed whatever is done to slots that leaves closed ones closed. -/
theorem ClosedFor.modify {f : Slots → Slots} (closed : d.ClosedFor t)
    (keeps : ∀ s, s.closed = true → (f s).closed = true) (taskType : String)
    (slots : d'.slots = d.slots.modify taskType f) : d'.ClosedFor t := by
  intro s found
  rw [slots, Table.get?_modify] at found
  split_ifs at found
  · obtain ⟨s, old, rfl⟩ := Option.map_eq_some_iff.mp found
    exact keeps s (closed s old)
  · exact closed s found

theorem ClosedFor.release (closed : d.ClosedFor t) (taskType : String) :
    (d.release taskType).ClosedFor t :=
  closed.modify (f := Slots.release) (fun _ shut => shut) taskType rfl

theorem ClosedFor.acquire?_eq_none (closed : d.ClosedFor t) : d.acquire? t = none := by
  cases taken : d.acquire? t with
  | none => rfl
  | some d₁ =>
    obtain ⟨s, s', known, free, -⟩ := acquire?_eq_some taken
    have isOpen := (Slots.acquire?_eq_some free).1
    rw [closed s known] at isOpen
    cases isOpen

/-- A slot that is taken leaves those of closed slots as they are. -/
theorem ClosedFor.acquire (closed : d.ClosedFor t) {taskType : String}
    (taken : d.acquire? taskType = some d') : d'.ClosedFor t := by
  obtain ⟨s, s', known, free, rfl⟩ := acquire?_eq_some taken
  intro s₁ found
  rw [Table.get?_insert] at found
  split_ifs at found with same
  · subst same
    rw [closed.acquire?_eq_none] at taken
    cases taken
  · exact closed s₁ found

/-- **Closed slots of a type stay closed.** -/
theorem Move.closedFor (move : d.Move e d') (closed : d.ClosedFor t) : d'.ClosedFor t := by
  cases move with
  | aside _ same =>
    rcases same.slots with slots | slots
    · exact closed.congr slots
    · exact closed_of_map slots t
  | poll _ _ _ taken => exact (closed.acquire taken).congr rfl
  | noTask _ | pollFailed _ | cut _ _ | pollLost _ =>
    exact (closed.release _).congr rfl
  | handled _ _ concluded =>
    obtain ⟨_, rfl⟩ := conclude_eq concluded
    exact closed.congr rfl
  | lostConcluding _ _ concluded =>
    obtain ⟨_, rfl⟩ := conclude_eq concluded
    exact (closed.release _).congr rfl
  | delivered _ _ finished | lostTelling _ _ finished _ =>
    obtain ⟨_, _, rfl, _⟩ := afterReport_over finished
    exact (closed.release _).congr rfl
  | abandoned _ _ | lost _ => exact (closed.release _).congr rfl
  | _ => exact closed.congr rfl

/-- **Closed slots stay closed.** -/
theorem Move.closed (move : d.Move e d') (closed : d.Closed) : d'.Closed :=
  fun t => move.closedFor (closed t)

end Dispatcher

namespace Host

variable {h₀ h h' : Host α} {e : Event} {es : List Event} {handlers : List (Handler α)}
  {settings : Settings}

/-! ## Calls and the status -/

/-- What those hear who start the host in a run. -/
def startReplies (h : Host α) (es : List Event) : List (Except HostError Unit) :=
  h.along startReply? es

/-- What those hear at once who shut the host down in a run. -/
def shutdownReplies (h : Host α) (es : List Event) : List (Option ShutdownOutcome) :=
  h.along shutdownReply? es

theorem LifeTurn.status (turn : h.LifeTurn e h') (lawful : h.Lawful) :
    h'.status = h.status ∨ h.status.next? = some h'.status := by
  cases turn with
  | stays _ _ _ status _ _ => exact .inl status
  | starts _ created status _ _ => exact .inr (by rw [created, status, HostStatus.next?])
  | shuts _ running _ status _ => exact .inr (by rw [running, status, HostStatus.next?])
  | drains _ waiting finished =>
    exact .inr (by rw [lawful.waiting _ waiting, finished, HostStatus.next?, finishDrain])
  | forces _ waiting status _ _ _ =>
    exact .inr (by rw [lawful.waiting _ waiting, status, HostStatus.next?])

/-- **An event lets through a call, or ends a wait, exactly if the status goes on.** -/
theorem LifeTurn.passes (turn : h.LifeTurn e h') (lawful : h.Lawful) :
    h'.status.starts = h.status.starts + (h.startReply? e).toList.count (.ok ()) ∧
      h'.status.shutdowns = h.status.shutdowns + (h.shutdownReply? e).toList.count none ∧
      h'.status.ends = h.status.ends + [e].countP Event.endsDrain := by
  cases turn with
  | stays started shut ended status _ _ =>
    have none_starts : (h.startReply? e).toList.count (.ok ()) = 0 :=
      List.count_eq_zero.mpr fun mem => started (Option.mem_toList.mp mem)
    have none_shuts : (h.shutdownReply? e).toList.count none = 0 :=
      List.count_eq_zero.mpr fun mem => shut (Option.mem_toList.mp mem)
    have none_ends : [e].countP Event.endsDrain = 0 := by simp [ended]
    rw [status, none_starts, none_shuts, none_ends]
    exact ⟨rfl, rfl, rfl⟩
  | starts started created status _ _ =>
    rw [started, created, status]
    cases e with
    | init _ => exact ⟨rfl, rfl, rfl⟩
    | _ => cases started
  | shuts call running _ status _ =>
    subst call
    rw [shutdownReply?, refusal?, if_pos running, running, status]
    exact ⟨rfl, rfl, rfl⟩
  | drains call waiting finished =>
    subst call finished
    rw [lawful.waiting _ waiting]
    exact ⟨rfl, rfl, rfl⟩
  | forces ended waiting status _ _ _ =>
    rw [lawful.waiting _ waiting, status]
    cases e with
    | drained | graceOver | shutdownGivenUp => exact ⟨rfl, rfl, rfl⟩
    | _ => cases ended

/-- The calls of a run that were let through, and the ends of waits, are those before the status. -/
structure Called (h₀ : Host α) (es : List Event) (h : Host α) : Prop where
  starts : (h₀.startReplies es).count (.ok ()) = h.status.starts
  shutdowns : (h₀.shutdownReplies es).count none = h.status.shutdowns
  ends : es.countP Event.endsDrain = h.status.ends

/-- **What was let through can be read off the status.** -/
theorem Run.called (built : build handlers settings = .ok h₀) (run : Run h₀ es h) :
    Called h₀ es h := by
  refine run.snocInduction (P := Called h₀) ?_ ?_
  · obtain ⟨hs, a, rfl, _⟩ := build_eq_ok built
    exact ⟨rfl, rfl, rfl⟩
  · intro es h h' e run called step
    obtain ⟨starts, shutdowns, ends⟩ := (step?_lifeTurn step).2.passes (run.lawful built)
    constructor
    · rw [startReplies, along_snoc _ run, List.count_append, starts, ← called.starts, startReplies]
    · rw [shutdownReplies, along_snoc _ run, List.count_append, shutdowns, ← called.shutdowns,
        shutdownReplies]
    · rw [List.countP_append, ends, called.ends]

/-! ## What comes with the status -/

/-- **From the shutdown on, the loops are told to stop and all slots are closed.** -/
theorem Run.closed (built : build handlers settings = .ok h₀) (run : Run h₀ es h)
    (status : h.status = .shuttingDown ∨ h.status = .stopped) :
    h.dispatcher.stopping = true ∧ h.dispatcher.Closed := by
  refine run.snocInduction (P := fun _ h => h.status = .shuttingDown ∨ h.status = .stopped →
    h.dispatcher.stopping = true ∧ h.dispatcher.Closed) ?_ ?_ status
  · obtain ⟨hs, a, rfl, _⟩ := build_eq_ok built
    rintro (status | status) <;> cases status
  · intro es h h' e run ih step status
    have move := step?_move step
    have kept : (h.status = .shuttingDown ∨ h.status = .stopped) →
        h'.dispatcher.stopping = true ∧ h'.dispatcher.Closed := by
      intro before
      obtain ⟨stopping, closed⟩ := ih before
      exact ⟨(move.no_poll stopping).1, move.closed closed⟩
    cases (step?_lifeTurn step).2 with
    | stays _ _ _ same _ _ => exact kept (same ▸ status)
    | starts _ _ now _ _ =>
      rw [now] at status
      rcases status with status | status <;> cases status
    | shuts _ running begun _ _ =>
      rw [begun, beginShutdown, running]
      exact ⟨rfl, Dispatcher.closed_of_map rfl⟩
    | drains _ waiting _ | forces _ waiting _ _ _ _ =>
      exact kept (.inl ((run.lawful built).waiting _ waiting))

/-- **A host that is stopped has nothing left to do, or abandons what is left.** -/
theorem Run.atRest_or_forced (built : build handlers settings = .ok h₀) (run : Run h₀ es h)
    (stopped : h.status = .stopped) : h.dispatcher.forced = true ∨ h.AtRest := by
  refine run.snocInduction
    (P := fun _ h => h.status = .stopped → h.dispatcher.forced = true ∨ h.AtRest) ?_ ?_ stopped
  · obtain ⟨hs, a, rfl, _⟩ := build_eq_ok built
    nofun
  · intro es h h' e run ih step stopped
    cases (step?_lifeTurn step).2 with
    | stays _ _ _ status _ _ =>
      exact (ih (status ▸ stopped)).imp (step?_forced step) fun rest => (rest.step step).1
    | starts _ _ status _ _ | shuts _ _ _ status _ =>
      rw [status] at stopped
      cases stopped
    | drains call _ _ =>
      subst call
      exact .inr (atRest_of_drained built run step)
    | forces _ _ _ forced _ _ => exact .inl forced

/-! ## Calls that are refused -/

theorem init_of_error {inRuntime : Bool} {error : HostError}
    (refused : (h.init inRuntime).1 = .error error) : (h.init inRuntime).2 = h := by
  simp only [init] at refused ⊢
  split_ifs at refused ⊢
  · rfl
  · split at refused
    · cases refused
    all_goals simp_all

/-- A start that fails leaves the host as it was. -/
theorem step_of_start_refused (step : h.step? e = some h') {error : HostError}
    (refused : h.startReply? e = some (.error error)) : h' = h := by
  cases e with
  | init inRuntime =>
    simp only [step?] at step
    split_ifs at step
    cases step
    exact init_of_error (Option.some.inj refused)
  | _ => cases refused

/-- A shutdown is refused where the host is not running, and leaves it as it was. -/
theorem step_of_shutdown_refused (step : h.step? e = some h') {reply : ShutdownOutcome}
    (refused : h.shutdownReply? e = some (some reply)) : reply = .notRunning ∧ h' = h := by
  cases e with
  | shutdown =>
    simp only [step?] at step
    split_ifs at step
    cases step
    simp only [shutdownReply?, refusal?, Option.some.injEq] at refused
    split_ifs at refused with running
    cases refused
    exact ⟨rfl, beginShutdown_of_ne running⟩
  | _ => cases refused

/-- **One start does something, and one shutdown after it.** The status goes on one step at a time.
A start that fails leaves the host as it was, and so does a shutdown that is refused. There are no
loops before the start; from the shutdown on, loops are told to stop and slots are closed; and a
host that is stopped has nothing left to do, or abandons what is left. -/
theorem one_start_one_shutdown (built : build handlers settings = .ok h₀) (run : Run h₀ es h) :
    (∀ e h', h.step? e = some h' →
      (h'.status = h.status ∨ h.status.next? = some h'.status) ∧
      (∀ error, h.startReply? e = some (.error error) → h' = h) ∧
      ∀ reply, h.shutdownReply? e = some (some reply) → reply = .notRunning ∧ h' = h) ∧
    (h₀.startReplies es).count (.ok ()) ≤ 1 ∧
    (h₀.shutdownReplies es).count none ≤ 1 ∧
    es.countP Event.endsDrain ≤ (h₀.shutdownReplies es).count none ∧
    (h.loops ≠ [] → .ok () ∈ h₀.startReplies es) ∧
    (h.status = .shuttingDown ∨ h.status = .stopped →
      h.dispatcher.stopping = true ∧ h.dispatcher.Closed) ∧
    (h.status = .stopped →
      h.dispatcher.forced = true ∨
        (∀ l ∈ h.loops, l.state = .ended) ∧ h.dispatcher.executions = []) := by
  have lawful := run.lawful built
  have called := run.called built
  refine ⟨fun e h' step => ⟨(step?_lifeTurn step).2.status lawful,
    fun _ => step_of_start_refused step, fun _ => step_of_shutdown_refused step⟩, ?_, ?_, ?_,
    fun loops => ?_, run.closed built, fun stopped => ?_⟩
  · rw [called.starts]
    cases h.status <;> decide
  · rw [called.shutdowns]
    cases h.status <;> decide
  · rw [called.ends, called.shutdowns]
    cases h.status <;> decide
  · have started : h.status ≠ .created := fun created => loops (lawful.created created)
    refine List.count_pos_iff.mp ?_
    rw [called.starts]
    cases status : h.status with
    | created => exact absurd status started
    | _ => exact Nat.one_pos
  · exact (run.atRest_or_forced built stopped).imp_right fun rest => ⟨rest.loops, rest.executions⟩

/-- Everybody starts the sample and shuts it down. -/
def sampleCalls : List Event :=
  [.shutdown, .init false, .init true, .init true, .shutdown, .shutdown, .loopStops "parcel",
    .drained, .init true, .shutdown]

def sampleCalled : Host Unit := (sample.replay sampleCalls).get (by decide)

/-- Three of the four starts fail and three of the four shutdowns are refused; then the sample has
nothing left to do. -/
theorem sample_one_start_one_shutdown :
    sample.startReplies sampleCalls =
        [.error .noRuntime, .ok (), .error .alreadyStarted, .error .stopped] ∧
      (sample.shutdownReplies sampleCalls).count none ≤ 1 ∧
      (sampleCalled.dispatcher.forced = true ∨
        (∀ l ∈ sampleCalled.loops, l.state = .ended) ∧
          sampleCalled.dispatcher.executions = []) := by
  have order := one_start_one_shutdown build_sample (run_get (by decide) : Run sample sampleCalls _)
  exact ⟨rfl, order.2.2.1, order.2.2.2.2.2.2 rfl⟩

end Host

end TaskWorker
