import Mathlib.Algebra.Order.BigOperators.Group.List
import Mathlib.Algebra.Order.Ring.Nat
import TaskWorker.Proofs.Lifecycle
/-!
# Loops that are told to stop

A shutdown tells all loops to stop, and so does the one who lets go of a host. Whatever a loop was
doing then, it sends no further poll: if it sleeps, it ends as soon as it wakes up, and if its poll
is out, it ends after that poll. Here a tick comes to its poll in one event, as it does where one
thread runs everything; `Stepwise` is about loops that are overtaken on their way.

* `Dispatcher.polls`, the polls that were sent; **`Move.no_poll`**: none is sent any more;
* `PollLoop.Winds`: a loop has come nearer to its end by some steps of its own;
  **`Told.run`**: so it is with every loop that is told to stop;
* `Course`, an endless run, and `Course.Fair`; **`Told.eventually_ended`**: if whoever is asked to
  stop gets to run and every poll comes back, all loops end;
* **`Host.no_poll_after_stop`**: all this after a shutdown began or nobody has the host any longer.
-/

namespace TaskWorker

variable {α : Type}

/-! ## No more polls -/

def Entry.isPolled : Entry → Bool
  | .polled _ _ _ _ => true
  | _ => false

namespace Dispatcher

variable {d d' : Dispatcher α} {e : Host.Event}

/-- The polls that were sent, the latest first. -/
def polls (d : Dispatcher α) : List Entry := d.journal.filter Entry.isPolled

/-- **A dispatcher that is to stop sends no poll,** and it is never told to go on. -/
theorem Move.no_poll (move : d.Move e d') (stopping : d.stopping = true) :
    d'.stopping = true ∧ d'.sentPolls = d.sentPolls ∧ d'.polls = d.polls := by
  cases move with
  | aside _ same =>
    have journal : d'.polls = d.polls := by rw [polls, same.journal, polls]
    exact ⟨same.stopping stopping, same.sentPolls, journal⟩
  | poll _ running _ _ =>
    rw [stopping] at running
    cases running
  | handled _ _ concluded | lostConcluding _ _ concluded =>
    obtain ⟨_, rfl⟩ := conclude_eq concluded
    exact ⟨stopping, rfl, rfl⟩
  | delivered _ _ finished | lostTelling _ _ finished _ =>
    obtain ⟨_, _, rfl, undelivered⟩ := afterReport_over finished
    exact ⟨stopping, rfl, filter_news rfl undelivered⟩
  | _ => exact ⟨stopping, rfl, rfl⟩

end Dispatcher

/-! ## The way to the end -/

/-- The steps before a loop that is to stop has ended: the end of its poll, and its own end. -/
def LoopState.stepsLeft : LoopState → Nat
  | .polling _ => 2
  | .sleeping _ => 1
  | .ended => 0

/-- A loop has come nearer to its end by `n` steps, and has not begun another poll. -/
structure PollLoop.Winds (n : Nat) (l l' : PollLoop α) : Prop where
  handler : l'.handler = l.handler
  steps : n + l'.state.stepsLeft ≤ l.state.stepsLeft
  polling : ∀ id, l'.state = .polling id → l.state = .polling id

namespace PollLoop

variable {l l' l'' : PollLoop α} {m n : Nat}

theorem Winds.refl (l : PollLoop α) : l.Winds 0 l := ⟨rfl, by omega, fun _ polling => polling⟩

theorem Winds.trans (first : l.Winds m l') (rest : l'.Winds n l'') : l.Winds (m + n) l'' := by
  have := first.steps
  have := rest.steps
  exact ⟨rest.handler.trans first.handler, by omega,
    fun id polling => first.polling id (rest.polling id polling)⟩

theorem Winds.ended (winds : l.Winds n l') (ended : l.state = .ended) : l'.state = .ended := by
  have steps := winds.steps
  rw [ended] at steps
  cases state : l'.state with
  | ended => rfl
  | sleeping _ | polling _ =>
    rw [state] at steps
    simp [LoopState.stepsLeft] at steps

end PollLoop

namespace Host

variable {h₀ h h₁ h' g : Host α} {e : Event} {es fs : List Event} {handlers : List (Handler α)}
  {settings : Settings}

/-- The loops of a host are told to stop, and no others will be started. -/
structure Told (h : Host α) : Prop where
  stopping : h.dispatcher.stopping = true
  started : h.gone = true ∨ h.status ≠ .created

theorem Told.step (told : h.Told) (step : h.step? e = some h') : h'.Told := by
  obtain ⟨kept, turn⟩ := step?_lifeTurn step
  refine ⟨((step?_move step).no_poll told.stopping).1, told.started.imp kept.gone fun created => ?_⟩
  cases turn with
  | stays _ _ _ status _ _ => rwa [status]
  | starts _ now _ _ _ => exact absurd now created
  | shuts _ _ _ status _ | forces _ _ status _ _ _ =>
    rw [status]
    nofun
  | drains _ _ finished =>
    rw [finished]
    nofun

/-- The loop that waits for a tick is that of the tick's handler. -/
theorem Looped.polling_iff (looped : h.Looped) (o : h.dispatcher.Orderly) {k : Tick α}
    (mem : k ∈ h.dispatcher.ticks) {l : PollLoop α} (hl : l ∈ h.loops) :
    l.state = .polling k.id ↔ k.handler.taskType = l.handler.taskType := by
  constructor
  · intro polling
    obtain ⟨k', mem', id, handler⟩ := looped.out l hl _ polling
    obtain rfl := List.inj_on_of_nodup_map o.ids mem' mem id
    rw [handler]
  · intro type
    obtain ⟨l', mem', polling, handler⟩ := looped.waiting k mem
    obtain rfl := looped.eq_of_taskType_eq hl mem' (by rw [handler, type])
    exact polling

/-- **A step of a loop that is told to stop leads to its end.** -/
theorem Told.loops_step (told : h.Told) (looped : h.Looped) (o : h.dispatcher.Orderly)
    (step : h.step? e = some h') :
    ∃ f, h'.loops = h.loops.map f ∧ ∀ l ∈ h.loops,
      l.Winds (if h.loopOf? e = some l.handler.taskType then 1 else 0) (f l) := by
  cases step?_loopTurn step with
  | stays quiet loops _ =>
    refine ⟨id, by rw [loops, List.map_id], fun l _ => ?_⟩
    rw [quiet, if_neg nofun]
    exact .refl l
  | starts _ here created _ _ _ =>
    rcases told.started with gone | other
    · rw [here] at gone
      cases gone
    · exact absurd created other
  | polls _ _ _ _ _ _ running _ _ _ =>
    rw [told.stopping] at running
    cases running
  | sleeper t l due state asleep own stops _ loops _ =>
    obtain rfl := stops told.stopping
    obtain ⟨mem, type, sleeping⟩ := sleeper?_eq_some asleep
    refine ⟨_, loops, fun l' mem' => ?_⟩
    rw [own]
    by_cases same : l'.handler.taskType = t
    · obtain rfl := looped.eq_of_taskType_eq mem mem' (same.trans type.symm)
      rw [if_pos same, if_pos (congrArg some same.symm)]
      exact ⟨rfl, by rw [sleeping]; rfl, nofun⟩
    · rw [if_neg same, if_neg fun self => same (Option.some.inj self).symm]
      exact .refl l'
  | wakes k state mem own idle loops _ =>
    refine ⟨_, loops, fun l hl => ?_⟩
    have turn := looped.polling_iff o mem hl
    rw [own, wakeLoop]
    by_cases polling : l.state = .polling k.id
    · rw [if_pos polling, if_pos (congrArg some (turn.mp polling))]
      refine ⟨rfl, ?_, fun id again => absurd again (idle l id)⟩
      -- After its poll it is asleep at most.
      have left : (state l).stepsLeft ≤ 1 := by
        cases next : state l with
        | polling id => exact absurd next (idle l id)
        | sleeping _ | ended => simp [LoopState.stepsLeft]
      rw [polling]
      exact Nat.add_le_add_left left 1
    · rw [if_neg polling, if_neg fun same => polling (turn.mpr (Option.some.inj same))]
      exact .refl l

/-- **Loops that are told to stop only come nearer to their ends,** and no poll is sent. -/
theorem Told.run (told : h.Told) (built : build handlers settings = .ok h₀) (run : Run h₀ es h)
    (later : Run h fs g) :
    g.Told ∧ g.dispatcher.sentPolls = h.dispatcher.sentPolls ∧
      g.dispatcher.polls = h.dispatcher.polls ∧
      ∃ f, g.loops = h.loops.map f ∧ ∀ l ∈ h.loops,
        l.Winds ((h.along loopOf? fs).count l.handler.taskType) (f l) := by
  induction later generalizing es with
  | nil h => exact ⟨told, rfl, rfl, id, (List.map_id _).symm, fun l _ => .refl l⟩
  | @cons h h' g e fs first rest ih =>
    obtain ⟨-, sent, polls⟩ := (step?_move first).no_poll told.stopping
    obtain ⟨f, loops, winds⟩ := told.loops_step (run.looped built) (run.orderly built) first
    obtain ⟨last, sent', polls', f', loops', winds'⟩ := ih (told.step first) (run.snoc first)
    refine ⟨last, sent'.trans sent, polls'.trans polls, f' ∘ f, ?_, fun l hl => ?_⟩
    · rw [loops', loops, List.map_map]
    · have one := winds l hl
      have more := winds' (f l) (loops ▸ List.mem_map_of_mem hl)
      rw [one.handler] at more
      rw [along_cons_of_step _ first, List.count_append]
      refine PollLoop.Winds.trans ?_ more
      convert one using 1
      cases h.loopOf? e with
      | none => rfl
      | some t => simp [List.count_singleton, Option.some.injEq]

/-! ## Endless runs -/

/-- A run without an end. -/
structure Course (α : Type) where
  state : Nat → Host α
  event : Nat → Event
  step : ∀ n, (state n).step? (event n) = some (state (n + 1))

/-- The poll that an event ends. -/
def Event.endsPoll? : Event → Option Nat
  | .pollAnswered id _ | .pollCut id | .pollPanics id => some id
  | _ => none

namespace Course

variable {c : Course α}

/-- In a fair course, a sleeping loop that is told to stop gets to run some time, and every poll
comes back some time: it is answered, or cut, or panics. -/
structure Fair (c : Course α) : Prop where
  wakes : ∀ n t, (c.state n).sleeper? t ≠ none → (c.state n).dispatcher.stopping = true →
    ∃ m, n ≤ m ∧ (c.state m).loopOf? (c.event m) = some t
  answers : ∀ n, ∀ k ∈ (c.state n).dispatcher.ticks,
    ∃ m, n ≤ m ∧ (c.event m).endsPoll? = some k.id

/-- The events of a course from the `m`-th on, `n` of them. -/
def segment (c : Course α) (m n : Nat) : List Event := (List.range' m n).map c.event

theorem run_segment (c : Course α) (m n : Nat) :
    Run (c.state m) (c.segment m n) (c.state (m + n)) := by
  induction n with
  | zero => exact .nil _
  | succ n ih =>
    rw [segment, List.range'_concat, List.map_append]
    refine ih.snoc ?_
    rw [Nat.one_mul]
    exact c.step (m + n)

theorem run_of_le (c : Course α) {m n : Nat} (le : m ≤ n) :
    ∃ fs, Run (c.state m) fs (c.state n) := by
  obtain ⟨k, rfl⟩ := Nat.exists_eq_add_of_le le
  exact ⟨_, c.run_segment m k⟩

end Course

/-! ## All loops end -/

/-- The steps that are left to all loops together. -/
def stepsLeft (h : Host α) : Nat := (h.loops.map fun l => l.state.stepsLeft).sum

theorem stepsLeft_lt {f : PollLoop α → PollLoop α} {k : PollLoop α → Nat}
    (loops : g.loops = h.loops.map f) (winds : ∀ l ∈ h.loops, l.Winds (k l) (f l))
    {l : PollLoop α} (mem : l ∈ h.loops) (less : (f l).state.stepsLeft < l.state.stepsLeft) :
    g.stepsLeft < h.stepsLeft := by
  rw [stepsLeft, loops, List.map_map]
  refine List.sum_lt_sum _ _ (fun l hl => ?_) ⟨l, mem, less⟩
  exact Nat.le_trans (Nat.le_add_left _ _) (winds l hl).steps

theorem sleeper?_of_mem (looped : h.Looped) {l : PollLoop α} (mem : l ∈ h.loops) {due : Nat}
    (sleeping : l.state = .sleeping due) : h.sleeper? l.handler.taskType = some (l, due) := by
  have found : h.loop? l.handler.taskType = some l :=
    find?_key (fun l : PollLoop α => l.handler.taskType) looped.types mem
  simp only [sleeper?, found, sleeping]

/-- The end of a poll is the turn of the loop that waits for it. -/
theorem loopOf?_of_endsPoll? (looped : h.Looped) (o : h.dispatcher.Orderly) {id : Nat}
    (ends : e.endsPoll? = some id) {l : PollLoop α} (mem : l ∈ h.loops)
    (polling : l.state = .polling id) : h.loopOf? e = some l.handler.taskType := by
  obtain ⟨k, hk, rfl, handler⟩ := looped.out l mem id polling
  have found : h.dispatcher.tick? k.id = some k := Dispatcher.tick?_of_mem o hk
  have own : h.loopOf? e = (h.dispatcher.tick? k.id).map fun k => k.handler.taskType := by
    cases e <;> first | (cases ends; done) | (cases ends; rfl)
  rw [own, found, ← handler]
  rfl

/-- **In a fair course, loops that are told to stop come nearer to their ends some time,** as long
as one of them has not ended. -/
theorem Told.eventually_nearer {c : Course α} (fair : c.Fair)
    (built : build handlers settings = .ok h₀) {n : Nat} (run : Run h₀ es (c.state n))
    (told : (c.state n).Told) {l : PollLoop α} (mem : l ∈ (c.state n).loops)
    (going : l.state ≠ .ended) :
    ∃ m, n ≤ m ∧ (c.state m).stepsLeft < (c.state n).stepsLeft := by
  have looped := run.looped built
  -- It is enough that the loop makes a step at some time.
  have of_turn : ∀ m, n ≤ m → (c.state m).loopOf? (c.event m) = some l.handler.taskType →
      ∃ m, n ≤ m ∧ (c.state m).stepsLeft < (c.state n).stepsLeft := by
    intro m le own
    obtain ⟨fs, later⟩ := c.run_of_le le
    obtain ⟨-, -, -, f, loops, winds⟩ := told.run built run (later.snoc (c.step m))
    refine ⟨m + 1, Nat.le_succ_of_le le, stepsLeft_lt loops winds mem ?_⟩
    have steps := (winds l mem).steps
    rw [along_snoc _ later, own, List.count_append] at steps
    simp only [Option.toList_some, List.count_singleton_self] at steps
    omega
  cases state : l.state with
  | ended => exact absurd state going
  | sleeping due =>
    have asleep := sleeper?_of_mem looped mem state
    obtain ⟨m, le, own⟩ := fair.wakes n _ (by rw [asleep]; nofun) told.stopping
    exact of_turn m le own
  | polling id =>
    obtain ⟨k, hk, rfl, -⟩ := looped.out l mem id state
    obtain ⟨m, le, ends⟩ := fair.answers n k hk
    obtain ⟨fs, later⟩ := c.run_of_le le
    obtain ⟨-, -, -, f, loops, winds⟩ := told.run built run later
    have mem' : f l ∈ (c.state m).loops := loops ▸ List.mem_map_of_mem mem
    have run' := run.trans later
    by_cases polling : (f l).state = .polling k.id
    · refine of_turn m le ?_
      rw [loopOf?_of_endsPoll? (run'.looped built) (run'.orderly built) ends mem' polling,
        (winds l mem).handler]
    · -- Its poll came to an end before, and it has begun no other.
      refine ⟨m, le, stepsLeft_lt loops winds mem ?_⟩
      rw [state]
      cases next : (f l).state with
      | polling id =>
        have same := (winds l mem).polling id next
        rw [state] at same
        exact absurd (next.trans same.symm) polling
      | sleeping _ | ended => simp [LoopState.stepsLeft]

/-- **In a fair course, all loops that are told to stop end.** -/
theorem Told.eventually_ended {c : Course α} (fair : c.Fair)
    (built : build handlers settings = .ok h₀) {n : Nat} (run : Run h₀ es (c.state n))
    (told : (c.state n).Told) :
    ∃ m, n ≤ m ∧ ∀ k, m ≤ k → ∀ l ∈ (c.state k).loops, l.state = .ended := by
  -- By induction on the steps that are left.
  generalize left : (c.state n).stepsLeft = s
  induction s using Nat.strong_induction_on generalizing n es with
  | _ s ih =>
    by_cases ended : ∀ l ∈ (c.state n).loops, l.state = .ended
    · refine ⟨n, Nat.le_refl n, fun k le l hl => ?_⟩
      obtain ⟨fs, later⟩ := c.run_of_le le
      obtain ⟨-, -, -, f, loops, winds⟩ := told.run built run later
      rw [loops] at hl
      obtain ⟨l₀, mem, rfl⟩ := List.mem_map.mp hl
      exact (winds l₀ mem).ended (ended l₀ mem)
    · obtain ⟨l, mem, going⟩ : ∃ l ∈ (c.state n).loops, l.state ≠ .ended := by simpa using ended
      obtain ⟨m, le, less⟩ := told.eventually_nearer fair built run mem going
      obtain ⟨fs, later⟩ := c.run_of_le le
      obtain ⟨told', -⟩ := told.run built run later
      obtain ⟨k, le', done⟩ := ih _ (left ▸ less) (run.trans later) told' rfl
      exact ⟨k, Nat.le_trans le le', done⟩

/-- A shutdown that goes past the check of the status tells the loops to stop, and so does the one
who lets go of the host. -/
theorem told_of_stop (stop : h.status = .running ∧ h.step? .shutdown = some h₁ ∨
    h.step? .dropped = some h₁) : h₁.Told := by
  rcases stop with ⟨running, step⟩ | step
  · simp only [step?] at step
    split_ifs at step
    cases step
    rw [beginShutdown, running]
    exact ⟨rfl, .inr fun created => by cases created⟩
  · simp only [step?] at step
    split at step
    · cases step
    · cases step
      exact ⟨rfl, .inl rfl⟩

/-- **No poll after the word to stop.** After a shutdown has begun, or nobody has the host any
longer, no poll is sent, whatever happens; a loop makes the steps that lead to its end and no
others, through the poll that it was waiting for, if there is one. And in a fair course all loops
end. No loop is between its look at the word and its poll when the word comes, as events are one
after the other. -/
theorem no_poll_after_stop (built : build handlers settings = .ok h₀) (run : Run h₀ es h)
    (stop : h.status = .running ∧ h.step? .shutdown = some h₁ ∨ h.step? .dropped = some h₁) :
    (∀ fs g, Run h₁ fs g →
      g.dispatcher.sentPolls = h₁.dispatcher.sentPolls ∧
      g.dispatcher.polls = h₁.dispatcher.polls ∧
      ∃ f, g.loops = h₁.loops.map f ∧ ∀ l ∈ h₁.loops,
        l.Winds ((h₁.along loopOf? fs).count l.handler.taskType) (f l)) ∧
    ∀ c : Course α, c.state 0 = h₁ → c.Fair →
      ∃ m, ∀ k, m ≤ k → ∀ l ∈ (c.state k).loops, l.state = .ended := by
  have told := told_of_stop stop
  have stopped : ∃ es, Run h₀ es h₁ := by
    rcases stop with ⟨-, step⟩ | step
    · exact ⟨_, run.snoc step⟩
    · exact ⟨_, run.snoc step⟩
  obtain ⟨es, stopped⟩ := stopped
  refine ⟨fun fs g later => (told.run built stopped later).2, fun c first fair => ?_⟩
  subst first
  obtain ⟨m, -, ended⟩ := told.eventually_ended fair built stopped
  exact ⟨m, ended⟩

/-- The poll of the sample is out. -/
def samplePolling : Host Unit :=
  (sample.replay [.init true, .elapse 1000, .loopTicks "parcel" false none]).get (by decide)

/-- Its loop after the answer, which comes after the shutdown has begun. -/
def sampleAwake : Host Unit :=
  (samplePolling.replay [.shutdown, .pollAnswered 0 (.ok none)]).get (by decide)

def sampleSilent : Host Unit := sampleAwake.setLoop "parcel" .ended

/-- The shutdown of the sample while its poll is out: the answer comes, the loop ends, and nothing
happens any more. -/
def sampleCourse : Course Unit where
  state
    | 0 => samplePolling.beginShutdown
    | 1 => sampleAwake
    | _ => sampleSilent
  event
    | 0 => .pollAnswered 0 (.ok none)
    | 1 => .loopStops "parcel"
    | _ => .elapse 0
  step
    | 0 => rfl
    | 1 => rfl
    | _ + 2 => rfl

theorem fair_sampleCourse : sampleCourse.Fair where
  wakes n t asleep _ := by
    obtain ⟨⟨l, due⟩, found⟩ := Option.ne_none_iff_exists'.mp asleep
    obtain ⟨mem, type, sleeping⟩ := sleeper?_eq_some found
    match n with
    | 0 =>
      have polling : ∀ l ∈ (sampleCourse.state 0).loops, l.state = .polling 0 := by decide
      rw [polling l mem] at sleeping
      cases sleeping
    | 1 =>
      have only : ∀ l ∈ (sampleCourse.state 1).loops, l.handler.taskType = "parcel" := by decide
      exact ⟨1, Nat.le_refl 1, congrArg some ((only l mem).symm.trans type)⟩
    | n + 2 =>
      have ended : ∀ l ∈ sampleSilent.loops, l.state = .ended := by decide
      rw [ended l mem] at sleeping
      cases sleeping
  answers n k mem := by
    match n with
    | 0 =>
      have only : ∀ k ∈ (sampleCourse.state 0).dispatcher.ticks, k.id = 0 := by decide
      exact ⟨0, Nat.le_refl 0, congrArg some (only k mem).symm⟩
    | 1 => cases mem
    | n + 2 => cases mem

/-- The sample is shut down while its poll is out: it sends no other poll, and its loop ends. -/
example : sampleSilent.dispatcher.sentPolls = 1 ∧
    ∃ m, ∀ k, m ≤ k → ∀ l ∈ (sampleCourse.state k).loops, l.state = .ended := by
  have run : Run sample _ samplePolling := run_get _
  have stop : samplePolling.status = .running ∧
      samplePolling.step? .shutdown = some samplePolling.beginShutdown := ⟨rfl, rfl⟩
  obtain ⟨silent, ended⟩ := no_poll_after_stop build_sample run (.inl stop)
  have later := sampleCourse.run_segment 0 2
  exact ⟨(silent _ _ later).1, ended sampleCourse rfl fair_sampleCourse⟩

end Host

end TaskWorker
