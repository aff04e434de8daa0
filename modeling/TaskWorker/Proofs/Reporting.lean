import TaskWorker.Proofs.Attempts
import TaskWorker.Proofs.Repetition
/-!
# How a report comes to its end

A report is one of many things that a host does at a time: while it waits for an answer or for the
end of a pause, other executions send, tell and count. So what one execution does is told apart from
the rest event by event, and added up in an account.

* `Account`, what an execution sends, tells its handler and counts; `Account.change`, from one state
  to another; `Host.account`, in a run;
* `Decides`, which answers end a report, and how; **`Decides.unique`**: in one way only;
* `Dispatcher.beginReport`, the beginning of a report; `handlerDone_returned`: a handler that is
  done begins one;
* `Move.of_reporting`, `Move.of_pausing`: what an execution does itself; `Move.execution?_of_other`,
  `Turn.past`: what others do not change;
* `Delivery`, how far a report has come; `Delivery.step`, `Host.delivery_of_report`: so far it has
  come after any run that does not cut it off;
* **`Host.report_ends`**: how it ends, and that it can go on until then.
-/

namespace TaskWorker

variable {α : Type}

/-! ## Accounts -/

/-- The report that was sent, by its number, and the result in it. -/
def Entry.report? : Entry → Option (Nat × TaskResult)
  | .sent _ attempt result => some (attempt, result)
  | _ => none

/-- The result that could not be delivered, as the handler is told. -/
def Entry.news? : Entry → Option TaskResult
  | .undelivered _ result => some result
  | _ => none

/-- What an execution sends, tells its handler and adds to the counts of reports. -/
@[ext]
structure Account where
  sent : List (Nat × TaskResult)
  told : List TaskResult
  reported : Int
  rejected : Int
  dropped : Int

namespace Account

def nothing : Account := ⟨[], [], 0, 0, 0⟩

/-- One account and then another. -/
def and (a b : Account) : Account :=
  ⟨a.sent ++ b.sent, a.told ++ b.told, a.reported + b.reported, a.rejected + b.rejected,
    a.dropped + b.dropped⟩

theorem and_nothing (a : Account) : a.and nothing = a := by
  simp [and, nothing]

theorem and_assoc (a b c : Account) : (a.and b).and c = a.and (b.and c) := by
  simp [and, Int.add_assoc]

/-- The account of one report. -/
def report (result : TaskResult) (attempt : Nat) : Account := ⟨[(attempt, result)], [], 0, 0, 0⟩

/-- The account of the end of a report. -/
def ending (result : TaskResult) : ReportOutcome → Account
  | .reported _ => ⟨[], [], 1, 0, 0⟩
  | .rejected => ⟨[], [result], 0, 1, 0⟩
  | .dropped _ => ⟨[], [result], 0, 0, 1⟩

/-- The account of a result that was sent so many times. -/
def reports (result : TaskResult) (k : Nat) : Account :=
  ⟨(List.range' 1 k).map fun i => (i, result), [], 0, 0, 0⟩

theorem reports_succ (result : TaskResult) (k : Nat) :
    (reports result k).and (report result (k + 1)) = reports result (k + 1) := by
  simp [reports, report, and, List.range'_concat, Nat.add_comm]

/-- The account of the way from one state of a dispatcher to another. -/
def change (d d' : Dispatcher α) : Account :=
  let new := (d'.journal.take (d'.journal.length - d.journal.length)).reverse
  ⟨new.filterMap Entry.report?, new.filterMap Entry.news?, d'.tally.reported - d.tally.reported,
    d'.tally.rejected - d.tally.rejected, d'.tally.dropped - d.tally.dropped⟩

theorem change_of_journal (d d' : Dispatcher α) (news : List Entry)
    (journal : d'.journal = news ++ d.journal) :
    change d d' =
      ⟨news.reverse.filterMap Entry.report?, news.reverse.filterMap Entry.news?,
        d'.tally.reported - d.tally.reported, d'.tally.rejected - d.tally.rejected,
        d'.tally.dropped - d.tally.dropped⟩ := by
  have new : d'.journal.take (d'.journal.length - d.journal.length) = news := by
    rw [journal, List.length_append, Nat.add_sub_cancel, List.take_left]
  simp only [change, new]

end Account

/-! ## The end of a report -/

/-- Whether another report may mend what the server answers. -/
def failsForNow (answer : Except ServerError Unit) : Bool :=
  (ServerError.attempt answer).isTransient

@[simp] theorem failsForNow_ok : failsForNow (.ok ()) = false := rfl

@[simp] theorem failsForNow_transient (m : String) :
    failsForNow (.error (.transient m)) = true := rfl

@[simp] theorem failsForNow_permanent (m : String) : failsForNow (.error (.permanent m)) = false :=
  rfl

/-- Some answers end a report of which so many attempts are allowed. The last of them, and no other,
is no failure for now, or else there are as many as allowed. -/
inductive Decides (allowed : Nat) : List (Except ServerError Unit) → ReportOutcome → Prop where
  | reported {before : List (Except ServerError Unit)} (failed : ∀ a ∈ before, failsForNow a = true)
      (left : before.length < allowed) :
      Decides allowed (before ++ [.ok ()]) (.reported (before.length + 1))
  | rejected {before : List (Except ServerError Unit)} {message : String}
      (failed : ∀ a ∈ before, failsForNow a = true) (left : before.length < allowed) :
      Decides allowed (before ++ [.error (.permanent message)]) .rejected
  | dropped {answers : List (Except ServerError Unit)}
      (failed : ∀ a ∈ answers, failsForNow a = true) (used : answers.length = allowed) :
      Decides allowed answers (.dropped allowed)

/-- **A report ends in one way only.** -/
theorem Decides.unique {allowed : Nat} {answers : List (Except ServerError Unit)}
    {outcome other : ReportOutcome} (one : Decides allowed answers outcome)
    (two : Decides allowed answers other) : other = outcome := by
  -- The outcome can be read off the last answer.
  have last_ok {before : List (Except ServerError Unit)}
      (d : Decides allowed (before ++ [.ok ()]) other) :
      other = .reported (before.length + 1) := by
    generalize same : before ++ [.ok ()] = answers at d
    cases d with
    | reported _ _ =>
      obtain ⟨rfl, -⟩ := List.append_inj' same rfl
      rfl
    | rejected _ _ => simp at same
    | dropped failed _ => simpa using failed (.ok ()) (by simp [← same])
  have last_permanent {before : List (Except ServerError Unit)} {message : String}
      (d : Decides allowed (before ++ [.error (.permanent message)]) other) :
      other = .rejected := by
    generalize same : before ++ [.error (.permanent message)] = answers at d
    cases d with
    | reported _ _ => simp at same
    | rejected _ _ => rfl
    | dropped failed _ =>
      simpa using failed (.error (.permanent message)) (by simp [← same])
  cases one with
  | reported _ _ => exact last_ok two
  | rejected _ _ => exact last_permanent two
  | dropped failed used =>
    cases two with
    | reported _ _ => simpa using failed (.ok ()) (by simp)
    | @rejected before message _ _ =>
      simpa using failed (.error (.permanent message)) (by simp)
    | dropped _ _ => rfl

/-- A report whose answers are all failures for now goes on if another attempt is allowed. -/
theorem Decides.not_of_left {allowed : Nat} {answers : List (Except ServerError Unit)}
    {outcome : ReportOutcome} (failed : ∀ a ∈ answers, failsForNow a = true)
    (left : answers.length < allowed) : ¬ Decides allowed answers outcome := by
  rintro (_ | _ | ⟨_, used⟩)
  · simpa using failed (.ok ()) (by simp)
  · rename_i before message _ _
    simpa using failed (.error (.permanent message)) (by simp)
  · omega

namespace Dispatcher

variable {d d' d₁ : Dispatcher α} {x : Execution α} {e : Host.Event} {n attempt : Nat}
  {result : TaskResult} {answer : Except ServerError Unit}

/-- An execution begins to report a result. -/
def beginReport (d : Dispatcher α) (n : Nat) (result : TaskResult) : Dispatcher α :=
  let (phase, d) := d.sendReport result 1
  d.setPhase n phase

theorem change_of_beginReport (d : Dispatcher α) (n : Nat) (result : TaskResult) :
    Account.change d (d.beginReport n result) = .reports result 1 := by
  rw [Account.change_of_journal d (d.beginReport n result) [.sent d.now 1 result] rfl]
  simp [beginReport, sendReport, note, setPhase, Account.reports, Entry.report?, Entry.news?]

/-- **A handler that is done begins the report of its result.** -/
theorem handlerDone_returned (d : Dispatcher α) (x : Execution α) (outcome : Outcome)
    (identity : Option String) (now : Moment) :
    d.handlerDone x outcome (.returned identity) now =
      let (result, d) := d.conclude x.task outcome identity now
      d.beginReport x.number result :=
  rfl

/-- A report that goes on was a failure for now, with another attempt allowed. -/
theorem failed_of_goOn {phase : Phase}
    (again : d.afterReport result attempt answer = (.goOn phase, d₁)) :
    failsForNow answer = true ∧ attempt < d.settings.retryPolicy.maxAttempts := by
  rcases answer with (m | m) | _
  · simp only [afterReport, ServerError.attempt, RetryPolicy.afterAttempt] at again
    split_ifs at again with left
    · exact ⟨rfl, by simpa [RetryPolicy.hasAttemptsLeft] using left⟩
    · cases again
  · cases again
  · cases again

/-- **The answer that ends a report** decides the outcome, and the end has its account. -/
theorem decides_of_over {before : List (Except ServerError Unit)} {outcome : ReportOutcome}
    {fate : Fate} (failed : ∀ a ∈ before, failsForNow a = true)
    (left : before.length < d.settings.retryPolicy.maxAttempts)
    (finished : d.afterReport result (before.length + 1) answer = (.over outcome, d₁))
    (journal : d'.journal = .ended n fate :: d₁.journal) (tally : d'.tally = d₁.tally) :
    Decides d.settings.retryPolicy.maxAttempts (before ++ [answer]) outcome ∧
      Account.change d d' = .ending result outcome := by
  rcases answer with (m | m) | _
  · simp only [afterReport, ServerError.attempt, RetryPolicy.afterAttempt] at finished
    split_ifs at finished with more
    · cases finished
    · cases finished
      have used : before.length + 1 = d.settings.retryPolicy.maxAttempts := by
        simp only [RetryPolicy.hasAttemptsLeft, decide_eq_true_eq] at more
        omega
      refine ⟨?_, ?_⟩
      · rw [used]
        refine .dropped (fun a mem => ?_) (by simpa using used)
        rcases List.mem_append.mp mem with mem | mem
        · exact failed a mem
        · rw [List.mem_singleton.mp mem]
          rfl
      · rw [Account.change_of_journal d d' [.ended n fate, .undelivered d.now result] journal,
          tally]
        simp [Account.ending, note, count, Tally.drop, Entry.report?, Entry.news?]
  · cases finished
    refine ⟨.rejected failed left, ?_⟩
    rw [Account.change_of_journal d d' [.ended n fate, .undelivered d.now result] journal, tally]
    simp [Account.ending, note, count, Tally.rejection, Entry.report?, Entry.news?]
  · cases finished
    refine ⟨.reported failed left, ?_⟩
    rw [Account.change_of_journal d d' [.ended n fate] journal, tally]
    simp [Account.ending, count, Tally.success, Entry.report?, Entry.news?]

/-! ## What an execution does itself -/

/-- An execution whose report is at the server gets its answer next, unless it is cut off. -/
theorem Move.of_reporting {since : Nat} (move : d.Move e d') (own : e.about? = some n)
    (uncut : e.breaksOff? ≠ some n) (found : d.execution? n = some x)
    (stage : x.phase = .reporting result attempt since) :
    ∃ answer told, e = .reportAnswered n answer told ∧
      ((∃ phase, d.afterReport result attempt answer = (.goOn phase, d) ∧
          d' = d.setPhase n phase) ∨
        ∃ outcome d₁, d.afterReport result attempt answer = (.over outcome, d₁) ∧
          (d' = d₁.endExecution x (.delivered outcome) ∨
            d' = d₁.loseExecution x ∧ outcome.isUndelivered = true ∧ told = .panicked)) := by
  have same {y : Execution α} (taken : d.execution? n = some y) : y = x :=
    Option.some.inj (taken.symm.trans found)
  cases move with
  | aside kind _ => cases e <;> first | (cases kind; done) | cases own
  | idle _ | noSlot _ _ _ | poll _ _ _ _ | handOver _ | noTask _ | pollFailed _ | cut _ _
  | pollLost _ => cases own
  | handled taken other _ | lostConcluding taken other _ | resumes taken other =>
    cases own
    rw [same taken, stage] at other
    cases other
  | pauses taken stage' again =>
    cases own
    rw [same taken, stage] at stage'
    cases stage'
    exact ⟨_, _, rfl, .inl ⟨_, again, rfl⟩⟩
  | delivered taken stage' finished =>
    cases own
    obtain rfl := same taken
    rw [stage] at stage'
    cases stage'
    exact ⟨_, _, rfl, .inr ⟨_, _, finished, .inl rfl⟩⟩
  | lostTelling taken stage' finished undelivered =>
    cases own
    obtain rfl := same taken
    rw [stage] at stage'
    cases stage'
    exact ⟨_, _, rfl, .inr ⟨_, _, finished, .inr ⟨rfl, undelivered, rfl⟩⟩⟩
  | abandoned _ _ | lost _ =>
    cases own
    exact absurd rfl uncut

/-- An execution that pauses sends its next report, unless it is cut off. -/
theorem Move.of_pausing {due : Nat} (move : d.Move e d') (own : e.about? = some n)
    (uncut : e.breaksOff? ≠ some n) (found : d.execution? n = some x)
    (stage : x.phase = .pausing result attempt due) :
    e = .pauseDone n ∧
      d' = (d.note (.sent d.now attempt result)).setPhase n (.reporting result attempt d.now) := by
  have same {y : Execution α} (taken : d.execution? n = some y) : y = x :=
    Option.some.inj (taken.symm.trans found)
  cases move with
  | aside kind _ => cases e <;> first | (cases kind; done) | cases own
  | idle _ | noSlot _ _ _ | poll _ _ _ _ | handOver _ | noTask _ | pollFailed _ | cut _ _
  | pollLost _ => cases own
  | handled taken other _ | lostConcluding taken other _ | pauses taken other _
  | delivered taken other _ | lostTelling taken other _ _ =>
    cases own
    rw [same taken, stage] at other
    cases other
  | resumes taken stage' =>
    cases own
    rw [same taken, stage] at stage'
    cases stage'
    exact ⟨rfl, rfl⟩
  | abandoned _ _ | lost _ =>
    cases own
    exact absurd rfl uncut

/-! ## What other executions do not change -/

theorem number_of_found (found : d.execution? n = some x) : x.number = n :=
  (mem_of_execution? found).2

theorem execution?_setPhase_self (found : d.execution? n = some x) (phase : Phase) :
    (d.setPhase n phase).execution? n = some { x with phase } := by
  have same : ∀ y : Execution α, (if y.number = n then { y with phase } else y).number = y.number :=
    fun y => by split_ifs <;> rfl
  have own : x.number = n := number_of_found found
  rw [execution?] at found
  simp only [execution?, setPhase, List.find?_map, Function.comp_def, same, found, Option.map_some,
    if_pos own]

theorem execution?_setPhase_other {m : Nat} (found : d.execution? n = some x) (other : m ≠ n)
    (phase : Phase) : (d.setPhase m phase).execution? n = some x := by
  have same : ∀ y : Execution α, (if y.number = m then { y with phase } else y).number = y.number :=
    fun y => by split_ifs <;> rfl
  have elsewhere : x.number ≠ m := by
    rw [number_of_found found]
    exact other.symm
  rw [execution?] at found
  simp only [execution?, setPhase, List.find?_map, Function.comp_def, same, found, Option.map_some,
    if_neg elsewhere]

theorem execution?_without {y : Execution α} (found : d.execution? n = some x)
    (other : y.number ≠ n) (executions : d'.executions = d.others y) :
    d'.execution? n = some x := by
  rw [execution?, executions, others, List.find?_filter, ← found, execution?]
  refine congrArg (List.find? · d.executions) (funext fun z => ?_)
  by_cases own : z.number = n
  · simp [own, other.symm]
  · simp [own]

/-- **An execution stays as it is** while others do something. -/
theorem Move.execution?_of_other (move : d.Move e d') (found : d.execution? n = some x)
    (other : e.about? ≠ some n) : d'.execution? n = some x := by
  have apart {m : Nat} (about : e.about? = some m) : m ≠ n := fun same => other (same ▸ about)
  cases move with
  | aside _ same =>
    rw [execution?, same.executions]
    exact found
  | poll _ _ _ taken =>
    obtain ⟨_, _, _, _, rfl⟩ := acquire?_eq_some taken
    exact found
  | handOver _ =>
    rw [execution?] at found
    rw [execution?, dispatch, List.find?_append]
    exact (congrArg (Option.or · _) found).trans rfl
  | handled _ _ concluded =>
    obtain ⟨_, rfl⟩ := conclude_eq concluded
    exact execution?_setPhase_other found (apart rfl) _
  | pauses _ _ _ | resumes _ _ => exact execution?_setPhase_other found (apart rfl) _
  | lostConcluding taken _ concluded =>
    obtain ⟨_, rfl⟩ := conclude_eq concluded
    obtain rfl := number_of_found taken
    exact execution?_without found (apart rfl) rfl
  | delivered taken _ finished | lostTelling taken _ finished _ =>
    obtain ⟨_, _, rfl, _⟩ := afterReport_over finished
    obtain rfl := number_of_found taken
    exact execution?_without found (apart rfl) rfl
  | abandoned taken _ | lost taken =>
    obtain rfl := number_of_found taken
    exact execution?_without found (apart rfl) rfl
  | _ => exact found

/-- An execution of this number was there once and is over. -/
structure Past (d : Dispatcher α) (n : Nat) : Prop where
  absent : ∀ y ∈ d.executions, y.number ≠ n
  known : n ≤ d.dispatched

/-- **No number is given out again.** -/
theorem Turn.past (turn : d.Turn e d') (past : d.Past n) : d'.Past n := by
  cases turn with
  | stays _ _ executions dispatched _ _ => exact ⟨executions ▸ past.absent, dispatched ▸ past.known⟩
  | begins x _ _ number _ executions dispatched _ _ =>
    have known := past.known
    refine ⟨fun y mem => ?_, by omega⟩
    rw [executions] at mem
    rcases List.mem_append.mp mem with mem | mem
    · exact past.absent y mem
    · rw [List.mem_singleton.mp mem]
      omega
  | goesOn x phase _ _ _ _ executions dispatched _ _ =>
    refine ⟨fun y mem => ?_, dispatched ▸ past.known⟩
    rw [executions] at mem
    obtain ⟨z, hz, rfl⟩ := List.mem_map.mp mem
    split_ifs
    · exact past.absent z hz
    · exact past.absent z hz
  | ends x _ _ _ _ _ _ _ executions dispatched _ _ =>
    refine ⟨fun y mem => ?_, dispatched ▸ past.known⟩
    rw [executions] at mem
    exact past.absent y (List.mem_of_mem_filter mem)

end Dispatcher

/-! ## How far a report has come -/

namespace Host.Event

/-- The answer to a report of an execution. -/
def answerTo? (n : Nat) : Event → Option (Except ServerError Unit)
  | .reportAnswered m answer _ => if m = n then some answer else none
  | _ => none

theorem answerTo?_of_other {e : Event} {n : Nat} (other : e.about? ≠ some n) :
    e.answerTo? n = none := by
  cases e with
  | reportAnswered m answer told => exact if_neg fun same => other (congrArg some same)
  | _ => rfl

end Host.Event

/-- The answers to the reports of an execution. -/
def answersTo (n : Nat) (es : List Host.Event) : List (Except ServerError Unit) :=
  es.filterMap (Host.Event.answerTo? n)

theorem answersTo_snoc_of_none {n : Nat} {es : List Host.Event} {e : Host.Event}
    (silent : e.answerTo? n = none) : answersTo n (es ++ [e]) = answersTo n es := by
  simp [answersTo, silent]

theorem answersTo_snoc (n : Nat) (es : List Host.Event) (answer : Except ServerError Unit)
    (told : Dispatcher.Callback Unit) :
    answersTo n (es ++ [.reportAnswered n answer told]) = answersTo n es ++ [answer] := by
  simp [answersTo, Host.Event.answerTo?]

open Dispatcher in
/-- How far the report of a result has come after some events, with its account. -/
inductive Delivery (n : Nat) (result : TaskResult) (allowed : Nat) (es : List Host.Event)
    (d : Dispatcher α) : Account → Prop where
  /-- The server has the latest report and has not answered it. -/
  | waits {x : Execution α} {since : Nat} (found : d.execution? n = some x)
      (stage : x.phase = .reporting result ((answersTo n es).length + 1) since)
      (failed : ∀ a ∈ answersTo n es, failsForNow a = true)
      (left : (answersTo n es).length < allowed) :
      Delivery n result allowed es d (.reports result ((answersTo n es).length + 1))
  /-- All reports are answered, and the next one is to be sent. -/
  | pauses {x : Execution α} {due : Nat} (found : d.execution? n = some x)
      (stage : x.phase = .pausing result ((answersTo n es).length + 1) due)
      (failed : ∀ a ∈ answersTo n es, failsForNow a = true)
      (left : (answersTo n es).length < allowed) :
      Delivery n result allowed es d (.reports result (answersTo n es).length)
  /-- The report is over. A handler may panic at the news that its result could not be delivered. -/
  | ended {outcome : ReportOutcome} {fate : Fate}
      (decided : Decides allowed (answersTo n es) outcome)
      (past : d.Past n) (recorded : (n, fate) ∈ d.endings)
      (fateOf : fate = .delivered outcome ∨ fate = .lost ∧ outcome.isUndelivered = true ∧
        ∃ answer, .reportAnswered n answer .panicked ∈ es) :
      Delivery n result allowed es d
        ((Account.reports result (answersTo n es).length).and (.ending result outcome))

namespace Delivery

open Dispatcher

variable {d d' : Dispatcher α} {n allowed : Nat} {result : TaskResult} {es : List Host.Event}
  {e : Host.Event} {account : Account}

/-- What others do keeps a report where it is. -/
theorem of_other (delivery : Delivery n result allowed es d account) (move : d.Move e d')
    (other : e.about? ≠ some n) : Delivery n result allowed (es ++ [e]) d' account := by
  have answers : answersTo n (es ++ [e]) = answersTo n es :=
    answersTo_snoc_of_none (Host.Event.answerTo?_of_other other)
  cases delivery with
  | waits found stage failed left =>
    rw [← answers] at stage failed left ⊢
    exact .waits (move.execution?_of_other found other) stage failed left
  | pauses found stage failed left =>
    rw [← answers] at stage failed left ⊢
    exact .pauses (move.execution?_of_other found other) stage failed left
  | ended decided past recorded fateOf =>
    rw [← answers] at decided ⊢
    exact .ended decided (move.turn.past past) (move.turn.keeps_ending recorded)
      (fateOf.imp_right fun ⟨lost, undelivered, answer, mem⟩ =>
        ⟨lost, undelivered, answer, List.mem_append_left _ mem⟩)

/-- An answer after which the report goes on. -/
theorem of_goOn {x : Execution α} {answer : Except ServerError Unit} {told : Callback Unit}
    {phase : Phase} (found : d.execution? n = some x)
    (failed : ∀ a ∈ answersTo n es, failsForNow a = true)
    (again : d.afterReport result ((answersTo n es).length + 1) answer = (.goOn phase, d)) :
    Delivery n result d.settings.retryPolicy.maxAttempts (es ++ [.reportAnswered n answer told])
      (d.setPhase n phase) (.reports result ((answersTo n es).length + 1)) := by
  obtain ⟨-, due, rfl⟩ := pausing_of_goOn again n told
  obtain ⟨transient, more⟩ := failed_of_goOn again
  have answers := answersTo_snoc n es answer told
  have count : (answersTo n es).length + 1 =
      (answersTo n (es ++ [.reportAnswered n answer told])).length := by
    rw [answers, List.length_append]
    rfl
  rw [count] at more ⊢
  refine .pauses (execution?_setPhase_self found _) rfl (fun a mem => ?_) more
  rw [answers] at mem
  rcases List.mem_append.mp mem with mem | mem
  · exact failed a mem
  · rw [List.mem_singleton.mp mem]
    exact transient

/-- An answer that ends the report. -/
theorem of_over {x : Execution α} {d₁ : Dispatcher α} {answer : Except ServerError Unit}
    {told : Callback Unit} {outcome : ReportOutcome} {fate : Fate} (o : d.Orderly)
    (found : d.execution? n = some x) (failed : ∀ a ∈ answersTo n es, failsForNow a = true)
    (left : (answersTo n es).length < d.settings.retryPolicy.maxAttempts)
    (finished : d.afterReport result ((answersTo n es).length + 1) answer = (.over outcome, d₁))
    (fateOf : fate = .delivered outcome ∨
      fate = .lost ∧ outcome.isUndelivered = true ∧ told = .panicked)
    (executions : d'.executions = d.others x) (dispatched : d'.dispatched = d.dispatched)
    (journal : d'.journal = .ended n fate :: d₁.journal) (tally : d'.tally = d₁.tally) :
    Delivery n result d.settings.retryPolicy.maxAttempts (es ++ [.reportAnswered n answer told]) d'
      ((Account.reports result ((answersTo n es).length + 1)).and (Account.change d d')) := by
  obtain ⟨mem, rfl⟩ := mem_of_execution? found
  obtain ⟨decided, account⟩ := decides_of_over failed left finished journal tally
  have answers := answersTo_snoc x.number es answer told
  have count : (answersTo x.number es).length + 1 =
      (answersTo x.number (es ++ [.reportAnswered x.number answer told])).length := by
    rw [answers, List.length_append]
    rfl
  rw [account, count]
  rw [← answers] at decided
  refine .ended decided ⟨fun y hy => ?_, ?_⟩ (mem_endings.mpr (journal ▸ List.mem_cons_self)) ?_
  · rw [executions] at hy
    simpa using (List.mem_filter.mp hy).2
  · exact dispatched ▸ o.numbers_le x mem
  · exact fateOf.imp_right fun ⟨lost, undelivered, panicked⟩ =>
      ⟨lost, undelivered, answer, by rw [panicked]; exact List.mem_append_right _ (.head _)⟩

/-- What an execution does itself brings its report one step on. -/
theorem of_own (delivery : Delivery n result allowed es d account) (o : d.Orderly)
    (policy : d.settings.retryPolicy.maxAttempts = allowed) (move : d.Move e d')
    (own : e.about? = some n) (uncut : e.breaksOff? ≠ some n) :
    Delivery n result allowed (es ++ [e]) d' (account.and (Account.change d d')) := by
  subst policy
  cases delivery with
  | @waits x since found stage failed left =>
    obtain ⟨answer, told, rfl, ⟨phase, again, rfl⟩ | ⟨outcome, d₁, finished, rest⟩⟩ :=
      move.of_reporting own uncut found stage
    · have silent : Account.change d (d.setPhase n phase) = .nothing := by
        rw [Account.change_of_journal d (d.setPhase n phase) [] rfl]
        simp [setPhase, Account.nothing]
      rw [silent, Account.and_nothing]
      exact of_goOn found failed again
    · obtain ⟨_, _, same, _⟩ := afterReport_over finished
      obtain rfl := number_of_found found
      rcases rest with rfl | ⟨rfl, undelivered, panicked⟩
      · exact of_over o found failed left finished (.inl rfl) (same ▸ rfl) (same ▸ rfl) rfl rfl
      · exact of_over o found failed left finished (.inr ⟨rfl, undelivered, panicked⟩) (same ▸ rfl)
          (same ▸ rfl) rfl rfl
  | @pauses x due found stage failed left =>
    obtain ⟨rfl, rfl⟩ := move.of_pausing own uncut found stage
    have sent : Account.change d
        ((d.note (.sent d.now ((answersTo n es).length + 1) result)).setPhase n
          (.reporting result ((answersTo n es).length + 1) d.now)) =
        .report result ((answersTo n es).length + 1) := by
      rw [Account.change_of_journal d _ [.sent d.now ((answersTo n es).length + 1) result] rfl]
      simp [setPhase, note, Account.report, Entry.report?, Entry.news?]
    have answers : answersTo n (es ++ [.pauseDone n]) = answersTo n es :=
      answersTo_snoc_of_none rfl
    rw [sent, Account.reports_succ]
    rw [← answers] at failed left ⊢
    exact .waits (execution?_setPhase_self found _) rfl failed left
  | ended decided past recorded fateOf =>
    obtain ⟨x, mem, number⟩ := move.about own
    exact absurd number (past.absent x mem)

/-- **Every event leaves a report where it is or brings it one step on.** -/
theorem step (delivery : Delivery n result allowed es d account) (o : d.Orderly)
    (policy : d.settings.retryPolicy.maxAttempts = allowed) (move : d.Move e d')
    (uncut : e.breaksOff? ≠ some n) :
    Delivery n result allowed (es ++ [e]) d'
      (account.and (if e.about? = some n then Account.change d d' else .nothing)) := by
  split_ifs with own
  · exact delivery.of_own o policy move own uncut
  · rw [Account.and_nothing]
    exact delivery.of_other move own

end Delivery

/-! ## Runs -/

namespace Host

variable {h₀ h h' g : Host α} {e : Event} {es : List Event} {n : Nat} {x : Execution α}

/-- What an execution does in a run. -/
def account (h : Host α) (n : Nat) (es : List Event) : Account :=
  (h.along (fun h e =>
    if e.about? = some n then
      (h.step? e).map fun h' => Account.change h.dispatcher h'.dispatcher
    else none) es).foldl Account.and .nothing

theorem account_nil (h : Host α) (n : Nat) : h.account n [] = .nothing := rfl

theorem account_snoc (run : Run h₀ es h) (step : h.step? e = some h') :
    h₀.account n (es ++ [e]) = (h₀.account n es).and
      (if e.about? = some n then Account.change h.dispatcher h'.dispatcher else .nothing) := by
  rw [account, along_snoc _ run, List.foldl_append, step]
  split_ifs
  · rfl
  · exact (Account.and_nothing _).symm

/-- An execution begins to report a result. -/
def beginReport (h : Host α) (n : Nat) (result : TaskResult) : Host α :=
  { h with dispatcher := h.dispatcher.beginReport n result }

/-- What an execution does from the beginning of a report on. -/
def reportAccount (h : Host α) (n : Nat) (result : TaskResult) (es : List Event) : Account :=
  (Account.change h.dispatcher (h.beginReport n result).dispatcher).and
    ((h.beginReport n result).account n es)

/-- **How far a report has come** that is not cut off. -/
theorem delivery_of_report (result : TaskResult) (o : h.dispatcher.Orderly)
    (found : h.dispatcher.execution? n = some x) (run : Run (h.beginReport n result) es g)
    (uncut : ∀ e ∈ es, e.breaksOff? ≠ some n) :
    Delivery n result h.dispatcher.settings.retryPolicy.maxAttempts es g.dispatcher
      (h.reportAccount n result es) := by
  have kept : (∀ e ∈ es, e.breaksOff? ≠ some n) → g.dispatcher.Orderly ∧
      g.dispatcher.settings = h.dispatcher.settings ∧
      Delivery n result h.dispatcher.settings.retryPolicy.maxAttempts es g.dispatcher
        (h.reportAccount n result es) := by
    refine run.snocInduction (P := fun es g => (∀ e ∈ es, e.breaksOff? ≠ some n) →
      g.dispatcher.Orderly ∧ g.dispatcher.settings = h.dispatcher.settings ∧
      Delivery n result h.dispatcher.settings.retryPolicy.maxAttempts es g.dispatcher
        (h.reportAccount n result es)) ?_ ?_
    · intro _
      have sent : h.reportAccount n result [] = .reports result 1 := by
        rw [reportAccount, account_nil, Account.and_nothing]
        exact Dispatcher.change_of_beginReport h.dispatcher n result
      rw [sent]
      refine ⟨?_, rfl, .waits (Dispatcher.execution?_setPhase_self found _) rfl nofun
        (RetryPolicy.maxAttempts_pos _)⟩
      exact (o.setPhase n (.reporting result 1 h.dispatcher.now)).congr rfl rfl rfl rfl
    · intro es g g' e run ih step uncut
      obtain ⟨o, settings, delivery⟩ := ih fun f mem => uncut f (List.mem_append_left _ mem)
      have move := step?_move step
      refine ⟨move.orderly o, move.settings_eq.trans settings, ?_⟩
      rw [reportAccount, account_snoc run step, ← Account.and_assoc]
      exact delivery.step o (by rw [settings]) move (uncut e (List.mem_append_right _ (.head _)))
  exact (kept uncut).2.2

/-- A report whose result is at the server can be answered, whatever the answer is. -/
theorem answer_possible {result : TaskResult} {attempt since : Nat}
    (found : h.dispatcher.execution? n = some x) (stage : x.phase = .reporting result attempt since)
    (answer : Except ServerError Unit) (told : Dispatcher.Callback Unit) :
    ∃ h', h.step? (.reportAnswered n answer told) = some h' := by
  simp only [step?, found, stage]
  exact ⟨_, rfl⟩

/-- The next report can be sent when the pause is over. -/
theorem pauseDone_possible {result : TaskResult} {attempt due : Nat}
    (found : h.dispatcher.execution? n = some x) (stage : x.phase = .pausing result attempt due)
    (late : due ≤ h.now) : ∃ h', h.step? (.pauseDone n) = some h' := by
  simp only [step?, found, stage, if_pos late]
  exact ⟨_, rfl⟩

theorem resume_possible {result : TaskResult} {attempt due : Nat}
    (found : h.dispatcher.execution? n = some x) (stage : x.phase = .pausing result attempt due) :
    ∃ h', Run h [.elapse (due - h.now), .pauseDone n] h' := by
  obtain ⟨later, elapsed⟩ : ∃ later, h.step? (.elapse (due - h.now)) = some later := ⟨_, rfl⟩
  have late : due ≤ later.now := by
    cases elapsed
    show due ≤ h.now + (due - h.now)
    omega
  have found' : later.dispatcher.execution? n = some x := by
    cases elapsed
    exact found
  obtain ⟨h', step⟩ := pauseDone_possible found' stage late
  exact ⟨h', .cons elapsed (.cons step (.nil h'))⟩

/-- **How a report ends** that is not cut off. Either the answers so far decide one outcome: then
this result was sent once for each of them, the end was told and counted once, and the execution is
over, with that outcome unless its handler panicked at the news. Or they decide nothing and are
fewer than the attempts allowed: then nothing was told or counted, and the report can go on, with
any answer or after its pause. -/
theorem report_ends (result : TaskResult) (o : h.dispatcher.Orderly)
    (found : h.dispatcher.execution? n = some x) (run : Run (h.beginReport n result) es g)
    (uncut : ∀ e ∈ es, e.breaksOff? ≠ some n) :
    let allowed := h.dispatcher.settings.retryPolicy.maxAttempts
    let answers := answersTo n es
    (∃ outcome, (∀ other, Decides allowed answers other ↔ other = outcome) ∧
        h.reportAccount n result es =
          (Account.reports result answers.length).and (.ending result outcome) ∧
        g.dispatcher.execution? n = none ∧
        (.ended n (.delivered outcome) ∈ g.dispatcher.journal ∨
          .ended n .lost ∈ g.dispatcher.journal ∧ outcome.isUndelivered = true ∧
            ∃ answer, .reportAnswered n answer .panicked ∈ es)) ∨
      (∀ other, ¬ Decides allowed answers other) ∧ answers.length < allowed ∧
        (h.reportAccount n result es = .reports result (answers.length + 1) ∧
            (∀ answer told, ∃ g', g.step? (.reportAnswered n answer told) = some g') ∨
          h.reportAccount n result es = .reports result answers.length ∧
            ∃ millis g', Run g [.elapse millis, .pauseDone n] g') := by
  intro allowed answers
  have delivery := delivery_of_report result o found run uncut
  generalize h.reportAccount n result es = account at delivery ⊢
  cases delivery with
  | waits found stage failed left =>
    exact .inr ⟨fun _ => Decides.not_of_left failed left, left,
      .inl ⟨rfl, answer_possible found stage⟩⟩
  | pauses found stage failed left =>
    exact .inr ⟨fun _ => Decides.not_of_left failed left, left,
      .inr ⟨rfl, _, resume_possible found stage⟩⟩
  | @ended outcome fate decided past recorded fateOf =>
    refine .inl ⟨outcome, fun other => ⟨decided.unique, fun same => same ▸ decided⟩, rfl, ?_, ?_⟩
    · refine List.find?_eq_none.mpr fun y mem => ?_
      simpa using past.absent y mem
    · rcases fateOf with rfl | ⟨rfl, undelivered, panicked⟩
      · exact .inl (Dispatcher.mem_endings.mp recorded)
      · exact .inr ⟨Dispatcher.mem_endings.mp recorded, undelivered, panicked⟩

/-- The sample with its task at the handler. -/
def sampleBusy : Host Unit := (sample.replay (sampleWork.take 4)).get (by decide)

def sampleResult : TaskResult := .completed sampleTask .null

/-- The result of the sample is sent twice; then it is refused, which is told and counted once. -/
theorem sample_report_ends :
    sampleBusy.reportAccount 1 sampleResult sampleRefusal =
      ⟨[(1, sampleResult), (2, sampleResult)], [sampleResult], 0, 1, 0⟩ := by
  have busy : Run sample (sampleWork.take 4) sampleBusy := run_get _
  have possible : ((sampleBusy.beginReport 1 sampleResult).replay sampleRefusal).isSome := by decide
  have found : ∃ x, sampleBusy.dispatcher.execution? 1 = some x :=
    Option.isSome_iff_exists.mp (by decide)
  obtain ⟨x, found⟩ := found
  have uncut : ∀ e ∈ sampleRefusal, e.breaksOff? ≠ some 1 := by decide
  have ends := report_ends sampleResult (busy.orderly build_sample) found (run_get possible) uncut
  have decided : Decides sampleBusy.dispatcher.settings.retryPolicy.maxAttempts
      (answersTo 1 sampleRefusal) .rejected :=
    Decides.rejected (by decide : ∀ a ∈ [.error (.transient "busy")], failsForNow a = true)
      (by decide)
  rcases ends with ⟨outcome, only, account, -⟩ | ⟨undecided, -⟩
  · obtain rfl := (only _).mp decided
    exact account
  · exact absurd decided (undecided _)

end Host

end TaskWorker
