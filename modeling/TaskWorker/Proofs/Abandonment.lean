import TaskWorker.Proofs.Turns
/-!
# Reports after a forced shutdown

A forced shutdown abandons what is under way, but an execution only sees it when it looks, and if
its own work can go on at that time, then which of the two it sees is left open. An execution that
goes on may send its result and have it accepted. One that is abandoned is silent for good.

* `Host.Event.sends`, `Host.Event.accepts?`, `Host.Event.abandons?`, `Host.Event.about?`: what can
  be read off events; `Dispatcher.reports`, `Dispatcher.accepted`, `Dispatcher.abandoned`: what can
  be read off the journal;
* `Move.tells`, **`Host.Run.tells`**: the one follows from the other;
* **`Host.Run.not_about_of_ended`**: an execution that ended does nothing any more;
* **`Host.reports_after_force`**: whose results are accepted after a forced shutdown, and which
  executions are abandoned.
-/

namespace TaskWorker

variable {α : Type}

/-! ## Events, endings and the journal -/

namespace Host.Event

/-- Whether a report is sent. -/
def sends : Event → Bool
  | .handlerDone _ _ (.returned _) _ | .pauseDone _ => true
  | _ => false

/-- The execution that does something. -/
def about? : Event → Option Nat
  | .handlerDone n _ _ _ | .reportAnswered n _ _ | .pauseDone n | .abandoned n
  | .executionPanics n => some n
  | _ => none

/-- The execution whose result the server accepts. -/
def accepts? : Event → Option Nat
  | .reportAnswered n (.ok _) _ => some n
  | _ => none

/-- The execution that is abandoned. -/
def abandons? : Event → Option Nat
  | .abandoned n => some n
  | _ => none

end Host.Event

def Fate.isAccepted : Fate → Bool
  | .delivered (.reported _) => true
  | _ => false

def Fate.isAbandoned : Fate → Bool
  | .abandoned _ => true
  | _ => false

def Entry.isSent : Entry → Bool
  | .sent _ _ _ => true
  | _ => false

namespace Dispatcher

variable {d d' d₁ : Dispatcher α} {x : Execution α} {e : Host.Event}

/-- The reports that were sent, the latest first. -/
def reports (d : Dispatcher α) : List Entry := d.journal.filter Entry.isSent

/-- The executions whose results were accepted, the latest first. -/
def accepted (d : Dispatcher α) : List Nat :=
  (d.endings.filter fun ending => ending.2.isAccepted).map Prod.fst

def abandoned (d : Dispatcher α) : List Nat :=
  (d.endings.filter fun ending => ending.2.isAbandoned).map Prod.fst

theorem mem_accepted {n : Nat} :
    n ∈ d.accepted ↔ ∃ k, Entry.ended n (.delivered (.reported k)) ∈ d.journal := by
  simp only [accepted, List.mem_map, List.mem_filter]
  constructor
  · rintro ⟨⟨n, fate⟩, ⟨mem, kind⟩, rfl⟩
    cases fate with
    | delivered outcome =>
      cases outcome with
      | reported k => exact ⟨k, mem_endings.mp mem⟩
      | rejected | dropped _ => cases kind
    | abandoned _ | lost => cases kind
  · rintro ⟨k, mem⟩
    exact ⟨_, ⟨mem_endings.mpr mem, rfl⟩, rfl⟩

theorem mem_abandoned {n : Nat} :
    n ∈ d.abandoned ↔ ∃ handling, Entry.ended n (.abandoned handling) ∈ d.journal := by
  simp only [abandoned, List.mem_map, List.mem_filter]
  constructor
  · rintro ⟨⟨n, fate⟩, ⟨mem, kind⟩, rfl⟩
    cases fate with
    | abandoned handling => exact ⟨handling, mem_endings.mp mem⟩
    | delivered _ | lost => cases kind
  · rintro ⟨handling, mem⟩
    exact ⟨_, ⟨mem_endings.mpr mem, rfl⟩, rfl⟩

theorem afterAttempt_error (policy : RetryPolicy) (attempt : Nat) (error : ServerError) :
    (∃ n, policy.afterAttempt attempt (ServerError.attempt (α := Unit) (.error error)) = .again n) ∨
      ∃ f, policy.afterAttempt attempt (ServerError.attempt (α := Unit) (.error error)) =
        .gaveUp f := by
  cases error with
  | transient m =>
    simp only [ServerError.attempt, RetryPolicy.afterAttempt]
    split_ifs
    · exact .inl ⟨_, rfl⟩
    · exact .inr ⟨_, rfl⟩
  | permanent m => exact .inr ⟨_, rfl⟩

/-- A report is over with the result accepted if the answer says so, and otherwise without. -/
theorem outcome_of_over {result : TaskResult} {attempt : Nat} {answer : Except ServerError Unit}
    {outcome : ReportOutcome}
    (finished : d.afterReport result attempt answer = (.over outcome, d₁)) :
    (answer = .ok () ∧ ∃ k, outcome = .reported k) ∨
      (∃ error, answer = .error error) ∧ outcome.isUndelivered = true := by
  cases answer with
  | ok _ =>
    cases finished
    exact .inl ⟨rfl, _, rfl⟩
  | error error =>
    refine .inr ⟨⟨error, rfl⟩, ?_⟩
    rcases afterAttempt_error d.settings.retryPolicy attempt error with ⟨n, again⟩ | ⟨f, gaveUp⟩
    · simp only [afterReport, again] at finished
      cases finished
    · simp only [afterReport, gaveUp] at finished
      split_ifs at finished <;> cases finished <;> rfl

/-- What is read off the journal after one more event. -/
structure Tells (d : Dispatcher α) (e : Host.Event) (d' : Dispatcher α) : Prop where
  reports : ∃ new, d'.reports = new ++ d.reports ∧ new.length = if e.sends then 1 else 0
  accepted : d'.accepted = e.accepts?.toList ++ d.accepted
  abandoned : d'.abandoned = e.abandons?.toList ++ d.abandoned

theorem tells_nothing (journal : d'.journal = d.journal) (sends : e.sends = false)
    (accepts : e.accepts? = none) (abandons : e.abandons? = none) : d.Tells e d' := by
  refine ⟨⟨[], ?_, by rw [sends]; rfl⟩, ?_, ?_⟩
  · rw [reports, journal, reports, List.nil_append]
  · rw [accepts, accepted, endings, journal]
    rfl
  · rw [abandons, abandoned, endings, journal]
    rfl

theorem tells_over {n attempt : Nat} {result : TaskResult} {answer : Except ServerError Unit}
    {told : Callback Unit} {outcome : ReportOutcome} {fate : Fate}
    (finished : d.afterReport result attempt answer = (.over outcome, d₁))
    (journal : d'.journal = .ended n fate :: d₁.journal)
    (fateOf : fate = .delivered outcome ∨ fate = .lost ∧ outcome.isUndelivered = true) :
    d.Tells (.reportAnswered n answer told) d' := by
  obtain ⟨_, news, rfl, undelivered⟩ := afterReport_over finished
  have endings : d'.endings = (n, fate) :: d.endings := by
    rw [Dispatcher.endings, journal]
    exact congrArg (List.cons _) (filterMap_news rfl undelivered)
  have reports : d'.reports = d.reports := by
    rw [Dispatcher.reports, journal]
    exact filter_news rfl undelivered
  refine ⟨⟨[], reports, rfl⟩, ?_, ?_⟩
  · rw [accepted, endings]
    rcases outcome_of_over finished with ⟨rfl, k, rfl⟩ | ⟨⟨error, rfl⟩, refused⟩
    · rcases fateOf with rfl | ⟨-, refused⟩
      · rfl
      · cases refused
    · have notAccepted : fate.isAccepted = false := by
        rcases fateOf with rfl | ⟨rfl, -⟩
        · cases outcome with
          | reported _ => cases refused
          | rejected | dropped _ => rfl
        · rfl
      rw [List.filter_cons_of_neg (by simp [notAccepted])]
      rfl
  · have notAbandoned : fate.isAbandoned = false := by
      rcases fateOf with rfl | ⟨rfl, -⟩ <;> rfl
    rw [abandoned, endings, List.filter_cons_of_neg (by simp [notAbandoned])]
    rfl

/-- **What is read off the journal follows the events.** -/
theorem Move.tells (move : d.Move e d') : d.Tells e d' := by
  cases move with
  | aside kind same =>
    refine tells_nothing same.journal ?_ ?_ ?_
    · cases e <;> first | rfl | cases kind
    · cases e <;> first | rfl | cases kind
    · cases e <;> first | rfl | cases kind
  | idle _ | noSlot _ _ _ | noTask _ | pollFailed _ | pollLost _ =>
    exact tells_nothing rfl rfl rfl rfl
  | cut _ _ | handOver _ => exact ⟨⟨[], rfl, rfl⟩, rfl, rfl⟩
  | poll _ _ _ taken =>
    obtain ⟨_, _, _, _, rfl⟩ := acquire?_eq_some taken
    exact ⟨⟨[], rfl, rfl⟩, rfl, rfl⟩
  | handled _ _ concluded =>
    obtain ⟨_, rfl⟩ := conclude_eq concluded
    exact ⟨⟨[_], rfl, rfl⟩, rfl, rfl⟩
  | lostConcluding _ _ concluded =>
    obtain ⟨_, rfl⟩ := conclude_eq concluded
    exact ⟨⟨[], rfl, rfl⟩, rfl, rfl⟩
  | @pauses n attempt since answer told result x phase found stage again =>
    cases answer with
    | ok _ => cases again
    | error _ => exact tells_nothing rfl rfl rfl rfl
  | delivered found _ finished =>
    obtain ⟨-, rfl⟩ := mem_of_execution? found
    exact tells_over finished rfl (.inl rfl)
  | lostTelling found _ finished undelivered =>
    obtain ⟨-, rfl⟩ := mem_of_execution? found
    exact tells_over finished rfl (.inr ⟨rfl, undelivered⟩)
  | resumes _ _ => exact ⟨⟨[_], rfl, rfl⟩, rfl, rfl⟩
  | abandoned found _ =>
    obtain ⟨-, rfl⟩ := mem_of_execution? found
    exact ⟨⟨[], rfl, rfl⟩, rfl, rfl⟩
  | lost _ => exact ⟨⟨[], rfl, rfl⟩, rfl, rfl⟩

/-- Only an execution that is under way does something. -/
theorem Move.about (move : d.Move e d') {n : Nat} (about : e.about? = some n) :
    ∃ x ∈ d.executions, x.number = n := by
  cases move with
  | aside kind _ => cases e <;> first | (cases kind; done) | cases about
  | idle _ | noSlot _ _ _ | poll _ _ _ _ | handOver _ | noTask _ | pollFailed _ | cut _ _
  | pollLost _ => cases about
  | handled found _ _ | lostConcluding found _ _ | pauses found _ _ | delivered found _ _
  | lostTelling found _ _ _ | resumes found _ | abandoned found _ | lost found =>
    cases about
    exact ⟨_, (mem_of_execution? found).1, (mem_of_execution? found).2⟩

theorem Turn.keeps_ending (turn : d.Turn e d') {n : Nat} {fate : Fate}
    (ended : (n, fate) ∈ d.endings) : (n, fate) ∈ d'.endings := by
  cases turn with
  | stays _ _ _ _ _ endings | begins _ _ _ _ _ _ _ _ endings
  | goesOn _ _ _ _ _ _ _ _ _ endings => exact endings ▸ ended
  | ends x _ _ _ _ _ _ _ _ _ _ endings =>
    rw [endings]
    exact List.mem_cons_of_mem _ ended

theorem Numbered.not_ended (numbered : d.Numbered) {x : Execution α} (mem : x ∈ d.executions)
    (fate : Fate) : (x.number, fate) ∉ d.endings := by
  intro ended
  have nodup := numbered.nodup_iff.mp List.nodup_range'
  have apart := (List.nodup_append.mp nodup).2.2
  exact apart _ (List.mem_map_of_mem ended) _ (List.mem_map_of_mem mem) rfl

theorem Numbered.not_accepted (numbered : d.Numbered) {x : Execution α} (mem : x ∈ d.executions) :
    x.number ∉ d.accepted := by
  rw [mem_accepted]
  rintro ⟨k, ended⟩
  exact numbered.not_ended mem _ (mem_endings.mpr ended)

theorem Numbered.not_abandoned (numbered : d.Numbered) {x : Execution α}
    (mem : x ∈ d.executions) : x.number ∉ d.abandoned := by
  rw [mem_abandoned]
  rintro ⟨handling, ended⟩
  exact numbered.not_ended mem _ (mem_endings.mpr ended)

end Dispatcher

/-! ## Runs -/

namespace Host

variable {h₀ h h₁ g : Host α} {e : Event} {es fs : List Event} {handlers : List (Handler α)}
  {settings : Settings}

/-- **As many reports are sent in a run as its events send,** and the executions whose results are
accepted or that are abandoned are those of its events. -/
theorem Run.tells (run : Run h fs g) :
    (∃ new, g.dispatcher.reports = new ++ h.dispatcher.reports ∧
        new.length = fs.countP Event.sends) ∧
      g.dispatcher.accepted = (fs.filterMap Event.accepts?).reverse ++ h.dispatcher.accepted ∧
      g.dispatcher.abandoned =
        (fs.filterMap Event.abandons?).reverse ++ h.dispatcher.abandoned := by
  induction run with
  | nil => exact ⟨⟨[], rfl, rfl⟩, rfl, rfl⟩
  | @cons h h' g e es first rest ih =>
    obtain ⟨⟨new, reports, count⟩, accepted, abandoned⟩ := ih
    have tells := (step?_move first).tells
    obtain ⟨now, sent, one⟩ := tells.reports
    refine ⟨⟨new ++ now, ?_, ?_⟩, ?_, ?_⟩
    · rw [reports, sent, List.append_assoc]
    · rw [List.length_append, count, one, List.countP_cons]
    · rw [accepted, tells.accepted, List.filterMap_cons]
      cases e.accepts? <;> simp
    · rw [abandoned, tells.abandoned, List.filterMap_cons]
      cases e.abandons? <;> simp

theorem endings_of_step {n : Nat} {fate : Fate} (step : h.step? e = some h₁)
    (ended : (n, fate) ∈ h.dispatcher.endings) : (n, fate) ∈ h₁.dispatcher.endings :=
  (step?_turn step).keeps_ending ended

/-- **An execution that ended does nothing any more.** -/
theorem Run.not_about_of_ended (built : build handlers settings = .ok h₀) (run : Run h₀ es h)
    {n : Nat} {fate : Fate} (ended : (n, fate) ∈ h.dispatcher.endings) (later : Run h fs g) :
    ∀ e ∈ fs, e.about? ≠ some n := by
  induction later generalizing es with
  | nil => exact fun e mem => absurd mem List.not_mem_nil
  | @cons h h' g e fs first rest ih =>
    intro f mem
    rcases List.mem_cons.mp mem with rfl | mem
    · intro about
      obtain ⟨x, hx, rfl⟩ := (step?_move first).about about
      exact (run.numbered built).not_ended hx fate ended
    · exact ih (run.snoc first) (endings_of_step first ended) f mem

theorem mem_accepts? {n : Nat} :
    n ∈ fs.filterMap Event.accepts? ↔ ∃ told, Event.reportAnswered n (.ok ()) told ∈ fs := by
  rw [List.mem_filterMap]
  constructor
  · rintro ⟨e, mem, accepts⟩
    cases e with
    | reportAnswered k answer told =>
      cases answer with
      | ok _ =>
        cases accepts
        exact ⟨told, mem⟩
      | error _ => cases accepts
    | _ => cases accepts
  · rintro ⟨told, mem⟩
    exact ⟨_, mem, rfl⟩

theorem mem_abandons? {n : Nat} :
    n ∈ fs.filterMap Event.abandons? ↔ Event.abandoned n ∈ fs := by
  rw [List.mem_filterMap]
  constructor
  · rintro ⟨e, mem, abandons⟩
    cases e with
    | abandoned k =>
      cases abandons
      exact mem
    | _ => cases abandons
  · intro mem
    exact ⟨_, mem, rfl⟩

/-- **What is reported after a forced shutdown.** Of the executions that were under way, those are
accepted to which the server says so, those are abandoned that see it first, and none is both;
whichever is abandoned does nothing afterwards. -/
theorem reports_after_force (built : build handlers settings = .ok h₀) (run : Run h₀ es h)
    (force : h.step? .graceOver = some h₁ ∨ h.step? .shutdownGivenUp = some h₁)
    (later : Run h₁ fs g) :
    (∀ x ∈ h₁.dispatcher.executions,
      ((∃ k, Entry.ended x.number (.delivered (.reported k)) ∈ g.dispatcher.journal) ↔
        ∃ told, Event.reportAnswered x.number (.ok ()) told ∈ fs) ∧
      ((∃ handling, Entry.ended x.number (.abandoned handling) ∈ g.dispatcher.journal) ↔
        Event.abandoned x.number ∈ fs) ∧
      ∀ told, Event.reportAnswered x.number (.ok ()) told ∈ fs →
        Event.abandoned x.number ∉ fs) ∧
      ∀ n before after, fs = before ++ .abandoned n :: after → ∀ e ∈ after, e.about? ≠ some n := by
  have forced : ∃ es, Run h₀ es h₁ := by
    rcases force with force | force
    · exact ⟨_, run.snoc force⟩
    · exact ⟨_, run.snoc force⟩
  obtain ⟨es, run⟩ := forced
  obtain ⟨-, accepted, abandoned⟩ := later.tells
  refine ⟨fun x hx => ?_, ?_⟩
  · have accepted_iff : (∃ k, Entry.ended x.number (.delivered (.reported k)) ∈
        g.dispatcher.journal) ↔ ∃ told, Event.reportAnswered x.number (.ok ()) told ∈ fs := by
      rw [← Dispatcher.mem_accepted, accepted, List.mem_append, List.mem_reverse, mem_accepts?]
      exact or_iff_left ((run.numbered built).not_accepted hx)
    have abandoned_iff : (∃ handling, Entry.ended x.number (.abandoned handling) ∈
        g.dispatcher.journal) ↔ Event.abandoned x.number ∈ fs := by
      rw [← Dispatcher.mem_abandoned, abandoned, List.mem_append, List.mem_reverse, mem_abandons?]
      exact or_iff_left ((run.numbered built).not_abandoned hx)
    refine ⟨accepted_iff, abandoned_iff, fun told answered sees => ?_⟩
    obtain ⟨k, reported⟩ := accepted_iff.mpr ⟨told, answered⟩
    obtain ⟨handling, left⟩ := abandoned_iff.mpr sees
    have same := (run.trans later).fate_eq built (Dispatcher.mem_endings.mpr reported)
      (Dispatcher.mem_endings.mpr left)
    cases same
  · rintro n before after rfl
    obtain ⟨m, first, rest⟩ := run_append_iff.mp later
    obtain _ | ⟨step, rest⟩ := rest
    -- It is in the journal as soon as it is abandoned.
    have tells := (step?_move step).tells.abandoned
    have mem := tells ▸ List.mem_append_left _ (List.mem_singleton_self n)
    obtain ⟨handling, ended⟩ := Dispatcher.mem_abandoned.mp mem
    have run := (run.trans first).snoc step
    exact run.not_about_of_ended built (Dispatcher.mem_endings.mpr ended) rest

/-- A run of the sample up to the end of the grace period, with the task still at its handler. -/
def sampleGrace : List Event :=
  [.init true, .elapse 1000, .loopTicks "parcel" false none,
    .pollAnswered 0 (.ok (some sampleTask)), .shutdown, .loopStops "parcel", .elapse 10000]

def sampleForced : Host Unit := (sample.replay (sampleGrace ++ [.graceOver])).get (by decide)

/-- Force does not silence what is ready: a handler that is done at that very time, with its
execution abandoned by the shutdown, has its result sent and accepted. -/
example : sampleForced.drain = .over (.forced 1) ∧
    (sampleForced.replay [
        .handlerDone 1 (.returned (.completed sampleTask .null)) (.returned none) .epoch,
        .reportAnswered 1 (.ok ()) (.returned ())]).map
      (fun h => h.dispatcher.accepted) = some [1] := by
  decide

end Host

end TaskWorker
