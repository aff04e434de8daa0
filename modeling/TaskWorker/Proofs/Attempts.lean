import Mathlib.Algebra.Order.BigOperators.Group.List
import Mathlib.Algebra.Order.Ring.Nat
import TaskWorker.Proofs.Abandonment
/-!
# Attempts to report

A result is sent until the server takes it, refuses it, or the attempts are used up. The attempts
beyond the first one are counted when the result is taken or given up, but not when it is refused.
So the counts of the reports and of the retries together are the number of reports that were sent,
less those of results that were refused only after a retry.

* `Phase.attempts`, the reports that an execution has sent; `Dispatcher.attempts`, of all of them;
* `Host.refusals`, the attempts at which results were refused; `Host.breakOffs`, the attempts of
  executions that ended with no answer to their last report;
* `Dispatcher.Attempted`: counts, refusals and unfinished reports add up to the reports sent;
  **`Move.balances`**, `Host.Run.attempted`: so it is after every event and every run;
* **`Host.reports_sent`**: the counts give the number of reports exactly if every refused result was
  refused at its first attempt; **`Host.refused_after_retry`**: not every one is.
-/

namespace TaskWorker

variable {α : Type}

/-- The reports that were sent of a result. -/
def Phase.attempts : Phase → Nat
  | .handling _ => 0
  | .reporting _ attempt _ => attempt
  | .pausing _ attempt _ => attempt - 1

/-- Attempts are numbered from one. -/
def Phase.Proper : Phase → Prop
  | .handling _ => True
  | .reporting _ attempt _ | .pausing _ attempt _ => 1 ≤ attempt

/-- The reports and retries that are counted. -/
def Tally.attempts (t : Tally) : Nat := t.reported + t.rejected + t.dropped + t.retries

namespace Host.Event

/-- The execution whose result the server refuses for good. -/
def refuses? : Event → Option Nat
  | .reportAnswered n (.error (.permanent _)) _ => some n
  | _ => none

/-- The execution that ends without waiting for an answer. -/
def breaksOff? : Event → Option Nat
  | .abandoned n | .executionPanics n => some n
  | _ => none

end Host.Event

namespace Dispatcher

variable {d d' d₁ : Dispatcher α} {x : Execution α} {e : Host.Event}

/-- The reports that the executions under way have sent. -/
def attempts (d : Dispatcher α) : Nat := (d.executions.map fun x => x.phase.attempts).sum

/-- The attempts of the execution of a number. -/
def attemptsOf (d : Dispatcher α) (n : Nat) : Option Nat :=
  (d.execution? n).map fun x => x.phase.attempts

/-- The attempt at which an event refuses a result. -/
def refusal? (d : Dispatcher α) (e : Host.Event) : Option Nat := e.refuses?.bind d.attemptsOf

/-- The attempts of an execution that an event breaks off. -/
def breakOff? (d : Dispatcher α) (e : Host.Event) : Option Nat := e.breaksOff?.bind d.attemptsOf

/-! ## How attempts change -/

theorem attempts_of_perm {xs : List (Execution α)} (perm : d.executions.Perm (x :: xs)) :
    d.attempts = x.phase.attempts + (xs.map fun y => y.phase.attempts).sum := by
  rw [attempts, (perm.map fun y => y.phase.attempts).sum_eq, List.map_cons, List.sum_cons]

theorem attempts_without (o : d.Orderly) (mem : x ∈ d.executions) :
    d.attempts = x.phase.attempts + ((d.others x).map fun y => y.phase.attempts).sum :=
  attempts_of_perm (perm_others o mem)

theorem attempts_setPhase (o : d.Orderly) (mem : x ∈ d.executions) (phase : Phase) :
    (d.setPhase x.number phase).attempts + x.phase.attempts = d.attempts + phase.attempts := by
  have after : (d.setPhase x.number phase).attempts =
      phase.attempts + ((d.others x).map fun y => y.phase.attempts).sum :=
    attempts_of_perm (perm_setPhase o mem phase)
  rw [after, attempts_without o mem]
  omega

/-- A report that is not the last one is not refused, and the next attempt is waited for. -/
theorem pausing_of_goOn {result : TaskResult} {attempt : Nat} {answer : Except ServerError Unit}
    {phase : Phase} (again : d.afterReport result attempt answer = (.goOn phase, d₁)) (n : Nat)
    (told : Callback Unit) :
    (Host.Event.reportAnswered n answer told).refuses? = none ∧
      ∃ due, phase = .pausing result (attempt + 1) due := by
  rcases answer with (m | m) | _
  · simp only [afterReport, ServerError.attempt, RetryPolicy.afterAttempt] at again
    split_ifs at again
    · cases again
      exact ⟨rfl, _, rfl⟩
    · cases again
  · cases again
  · cases again

/-- A report that was the last one is counted with all its attempts, unless it is refused. -/
theorem counted_of_over {result : TaskResult} {attempt : Nat} {answer : Except ServerError Unit}
    {outcome : ReportOutcome}
    (finished : d.afterReport result attempt answer = (.over outcome, d₁)) (first : 1 ≤ attempt)
    (n : Nat) (told : Callback Unit) :
    (Host.Event.reportAnswered n answer told).refuses? = none ∧
        d₁.tally.attempts = d.tally.attempts + attempt ∧ d₁.tally.rejected = d.tally.rejected ∨
      (Host.Event.reportAnswered n answer told).refuses? = some n ∧
        d₁.tally.attempts = d.tally.attempts + 1 ∧
        d₁.tally.rejected = d.tally.rejected + 1 := by
  rcases answer with (m | m) | _
  · simp only [afterReport, ServerError.attempt, RetryPolicy.afterAttempt] at finished
    split_ifs at finished
    · cases finished
    · cases finished
      refine .inl ⟨rfl, ?_, rfl⟩
      simp only [note, count, Tally.attempts, Tally.drop]
      omega
  · cases finished
    refine .inr ⟨rfl, ?_, rfl⟩
    simp only [note, count, Tally.attempts, Tally.rejection]
    omega
  · cases finished
    refine .inl ⟨rfl, ?_, rfl⟩
    simp only [count, Tally.attempts, Tally.success]
    omega

theorem attempts_of_conclude {task : Task} {outcome : Outcome} {identity : Option String}
    {now : Moment} {result : TaskResult}
    (concluded : d.conclude task outcome identity now = (result, d₁)) :
    ∃ tally : Tally, tally.attempts = d.tally.attempts ∧ tally.rejected = d.tally.rejected ∧
      d₁ = { d with tally } := by
  cases concluded
  exact ⟨d.tally.execution (outcome.result task now).status.isFailure, rfl, rfl, rfl⟩

/-! ## What is kept -/

/-- Attempts are numbered from one, and the reports that were sent are those that are counted, those
of the results under way, those broken off, and those before a refusal. -/
structure Attempted (d : Dispatcher α) (refusals breakOffs : List Nat) : Prop where
  proper : ∀ x ∈ d.executions, x.phase.Proper
  first : ∀ k ∈ refusals, 1 ≤ k
  rejected : d.tally.rejected = refusals.length
  sent : d.reports.length =
    d.tally.attempts + (refusals.map (· - 1)).sum + (breakOffs.sum + d.attempts)

theorem Move.proper (move : d.Move e d') (proper : ∀ x ∈ d.executions, x.phase.Proper) :
    ∀ x ∈ d'.executions, x.phase.Proper := by
  -- A phase that is set is proper, and all others are old.
  have of_setPhase {n : Nat} {phase : Phase} (new : phase.Proper) :
      ∀ x ∈ (d.setPhase n phase).executions, x.phase.Proper := by
    intro x mem
    obtain ⟨y, hy, rfl⟩ := List.mem_map.mp mem
    split_ifs
    · exact new
    · exact proper y hy
  cases move with
  | aside _ same =>
    rw [same.executions]
    exact proper
  | idle _ | noSlot _ _ _ | noTask _ | pollFailed _ | cut _ _ | pollLost _ => exact proper
  | poll _ _ _ taken =>
    obtain ⟨_, _, _, _, rfl⟩ := acquire?_eq_some taken
    exact proper
  | handOver _ =>
    intro x mem
    rcases List.mem_append.mp mem with mem | mem
    · exact proper x mem
    · rw [List.mem_singleton.mp mem]
      trivial
  | handled _ _ concluded =>
    obtain ⟨_, rfl⟩ := conclude_eq concluded
    exact of_setPhase (Nat.le_refl 1)
  | @pauses n attempt since answer told result x phase found stage again =>
    obtain ⟨-, due, rfl⟩ := pausing_of_goOn again n told
    exact of_setPhase (Nat.le_add_left 1 attempt)
  | resumes found stage =>
    have old := proper _ (mem_of_execution? found).1
    rw [stage] at old
    exact of_setPhase old
  | lostConcluding _ _ concluded =>
    obtain ⟨_, rfl⟩ := conclude_eq concluded
    exact fun x mem => proper x (List.mem_of_mem_filter mem)
  | delivered _ _ finished | lostTelling _ _ finished _ =>
    obtain ⟨_, _, rfl, _⟩ := afterReport_over finished
    exact fun x mem => proper x (List.mem_of_mem_filter mem)
  | abandoned _ _ | lost _ => exact fun x mem => proper x (List.mem_of_mem_filter mem)

/-- The reports that an event sends are counted, refused, broken off, or under way after it. -/
structure Balances (d : Dispatcher α) (e : Host.Event) (d' : Dispatcher α) : Prop where
  first : ∀ k, d.refusal? e = some k → 1 ≤ k
  rejected : d'.tally.rejected = d.tally.rejected + (d.refusal? e).toList.length
  sent : d.tally.attempts + d.attempts + (if e.sends then 1 else 0) =
    d'.tally.attempts + (d.refusal? e).elim 0 (· - 1) + ((d.breakOff? e).getD 0 + d'.attempts)

theorem balances_of_same (sends : e.sends = false) (refuses : e.refuses? = none)
    (breaksOff : e.breaksOff? = none) (tally : d'.tally.attempts = d.tally.attempts)
    (rejected : d'.tally.rejected = d.tally.rejected) (attempts : d'.attempts = d.attempts) :
    d.Balances e d' := by
  have noRefusal : d.refusal? e = none := by rw [refusal?, refuses, Option.bind_none]
  have noBreakOff : d.breakOff? e = none := by rw [breakOff?, breaksOff, Option.bind_none]
  refine ⟨fun k refused => ?_, ?_, ?_⟩
  · rw [noRefusal] at refused
    cases refused
  · rw [noRefusal, rejected]
    rfl
  · rw [noRefusal, noBreakOff, sends, tally, attempts]
    show d.tally.attempts + d.attempts + 0 = d.tally.attempts + 0 + (0 + d.attempts)
    omega

theorem balances_of_over {attempt since : Nat} {result : TaskResult}
    {answer : Except ServerError Unit} {outcome : ReportOutcome} {told : Callback Unit}
    (o : d.Orderly) (mem : x ∈ d.executions) (proper : x.phase.Proper)
    (stage : x.phase = .reporting result attempt since)
    (finished : d.afterReport result attempt answer = (.over outcome, d₁))
    (tally : d'.tally = d₁.tally) (executions : d'.executions = d.others x) :
    d.Balances (.reportAnswered x.number answer told) d' := by
  rw [stage] at proper
  have first : 1 ≤ attempt := proper
  have own : d.attemptsOf x.number = some attempt := by
    rw [attemptsOf, execution?_of_mem o mem, Option.map_some, stage]
    rfl
  have before := attempts_without o mem
  have after : d'.attempts = ((d.others x).map fun y => y.phase.attempts).sum := by
    rw [attempts, executions]
  rw [stage, Phase.attempts, ← after] at before
  rcases counted_of_over finished first x.number told with
    ⟨taken, counted, rejected⟩ | ⟨refused, counted, rejected⟩
  · have noRefusal : d.refusal? (.reportAnswered x.number answer told) = none := by
      rw [refusal?, taken, Option.bind_none]
    refine ⟨fun k refused => ?_, ?_, ?_⟩
    · rw [noRefusal] at refused
      cases refused
    · rw [noRefusal, tally, rejected]
      rfl
    · rw [noRefusal, tally, counted, before]
      show d.tally.attempts + (attempt + d'.attempts) + 0 =
        d.tally.attempts + attempt + 0 + (0 + d'.attempts)
      omega
  · have refusal : d.refusal? (.reportAnswered x.number answer told) = some attempt := by
      rw [refusal?, refused, Option.bind_some, own]
    refine ⟨fun k same => ?_, ?_, ?_⟩
    · obtain rfl : attempt = k := by rw [refusal] at same; exact Option.some.inj same
      exact first
    · rw [refusal, tally, rejected]
      rfl
    · rw [refusal, tally, counted, before]
      show d.tally.attempts + (attempt + d'.attempts) + 0 =
        d.tally.attempts + 1 + (attempt - 1) + (0 + d'.attempts)
      omega

/-- **Every event keeps the balance of the reports.** -/
theorem Move.balances (move : d.Move e d') (o : d.Orderly)
    (proper : ∀ x ∈ d.executions, x.phase.Proper) : d.Balances e d' := by
  cases move with
  | aside kind same =>
    have attempts : d'.attempts = d.attempts := by
      rw [Dispatcher.attempts, same.executions, Dispatcher.attempts]
    refine balances_of_same ?_ ?_ ?_ (by rw [same.tally]) (by rw [same.tally]) attempts
    all_goals cases e <;> first | rfl | cases kind
  | idle _ | noSlot _ _ _ | noTask _ | pollFailed _ | cut _ _ | pollLost _ =>
    exact balances_of_same rfl rfl rfl rfl rfl rfl
  | poll _ _ _ taken =>
    obtain ⟨_, _, _, _, rfl⟩ := acquire?_eq_some taken
    exact balances_of_same rfl rfl rfl rfl rfl rfl
  | @handOver id task tick found =>
    have perm : ((d.dropTick tick).dispatch tick task).executions.Perm (_ :: d.executions) :=
      List.perm_append_singleton _ _
    exact balances_of_same rfl rfl rfl rfl rfl ((attempts_of_perm perm).trans (Nat.zero_add _))
  | @handled n since outcome identity now result x d₁ found stage concluded =>
    obtain ⟨tally, same, rejected, rfl⟩ := attempts_of_conclude concluded
    obtain ⟨mem, rfl⟩ := mem_of_execution? found
    have moved := attempts_setPhase o mem (.reporting result 1 d.now)
    rw [stage] at moved
    refine ⟨nofun, rejected, ?_⟩
    show d.tally.attempts + d.attempts + 1 =
      tally.attempts + 0 + (0 + (d.setPhase x.number (.reporting result 1 d.now)).attempts)
    simp only [Phase.attempts] at moved
    omega
  | @lostConcluding n since outcome now result x d₁ found stage concluded =>
    obtain ⟨tally, same, rejected, rfl⟩ := attempts_of_conclude concluded
    have mem := (mem_of_execution? found).1
    have before := attempts_without o mem
    rw [stage, Phase.attempts, Nat.zero_add] at before
    exact balances_of_same rfl rfl rfl same rejected before.symm
  | @pauses n attempt since answer told result x phase found stage again =>
    obtain ⟨mem, rfl⟩ := mem_of_execution? found
    obtain ⟨taken, due, rfl⟩ := pausing_of_goOn again x.number told
    have moved := attempts_setPhase o mem (.pausing result (attempt + 1) due)
    rw [stage] at moved
    exact balances_of_same rfl taken rfl rfl rfl (Nat.add_right_cancel moved)
  | @delivered n attempt since answer told result x outcome d₁ found stage finished =>
    obtain ⟨mem, rfl⟩ := mem_of_execution? found
    obtain ⟨_, _, rfl, _⟩ := afterReport_over finished
    exact balances_of_over o mem (proper x mem) stage finished rfl rfl
  | @lostTelling n attempt since answer result x outcome d₁ found stage finished _ =>
    obtain ⟨mem, rfl⟩ := mem_of_execution? found
    obtain ⟨_, _, rfl, _⟩ := afterReport_over finished
    exact balances_of_over o mem (proper x mem) stage finished rfl rfl
  | @resumes n attempt due result x found stage =>
    obtain ⟨mem, rfl⟩ := mem_of_execution? found
    have first := proper x mem
    have moved := attempts_setPhase o mem (.reporting result attempt d.now)
    rw [stage] at first moved
    refine ⟨nofun, rfl, ?_⟩
    show d.tally.attempts + d.attempts + 1 = d.tally.attempts + 0 +
      (0 + (d.setPhase x.number (.reporting result attempt d.now)).attempts)
    simp only [Phase.attempts, Phase.Proper] at first moved
    omega
  | @abandoned n x found _ | @lost n x found =>
    obtain ⟨mem, rfl⟩ := mem_of_execution? found
    have own : d.attemptsOf x.number = some x.phase.attempts := by
      rw [attemptsOf, execution?_of_mem o mem, Option.map_some]
    have before := attempts_without o mem
    refine ⟨nofun, rfl, ?_⟩
    rw [breakOff?, Host.Event.breaksOff?, Option.bind_some, own]
    show d.tally.attempts + d.attempts + 0 = d.tally.attempts + 0 +
      (x.phase.attempts + ((d.others x).map fun y => y.phase.attempts).sum)
    omega

end Dispatcher

/-! ## Runs -/

namespace Host

variable {h₀ h h' : Host α} {e : Event} {es : List Event} {handlers : List (Handler α)}
  {settings : Settings}

/-- The attempts at which the results of a run were refused. -/
def refusals (h : Host α) (es : List Event) : List Nat :=
  h.along (fun h e => h.dispatcher.refusal? e) es

/-- The attempts of the executions of a run that ended without waiting for an answer. -/
def breakOffs (h : Host α) (es : List Event) : List Nat :=
  h.along (fun h e => h.dispatcher.breakOff? e) es

theorem refusals_snoc (run : Run h₀ es h) :
    h₀.refusals (es ++ [e]) = h₀.refusals es ++ (h.dispatcher.refusal? e).toList :=
  along_snoc _ run

theorem breakOffs_snoc (run : Run h₀ es h) :
    h₀.breakOffs (es ++ [e]) = h₀.breakOffs es ++ (h.dispatcher.breakOff? e).toList :=
  along_snoc _ run

/-- **The reports of a run add up.** -/
theorem Run.attempted (built : build handlers settings = .ok h₀) (run : Run h₀ es h) :
    h.dispatcher.Attempted (h₀.refusals es) (h₀.breakOffs es) := by
  refine run.snocInduction
    (P := fun es h => h.dispatcher.Attempted (h₀.refusals es) (h₀.breakOffs es)) ?_ ?_
  · obtain ⟨hs, a, rfl, _⟩ := build_eq_ok built
    exact ⟨fun _ mem => absurd mem List.not_mem_nil, fun _ mem => absurd mem List.not_mem_nil, rfl,
      rfl⟩
  · intro es h h' e run attempted step
    have move := step?_move step
    have balances := move.balances (run.orderly built) attempted.proper
    obtain ⟨new, reports, one⟩ := move.tells.reports
    have refused : ((h₀.refusals (es ++ [e])).map (· - 1)).sum =
        ((h₀.refusals es).map (· - 1)).sum + (h.dispatcher.refusal? e).elim 0 (· - 1) := by
      rw [refusals_snoc run, List.map_append, List.sum_append]
      cases h.dispatcher.refusal? e <;> rfl
    have broken : (h₀.breakOffs (es ++ [e])).sum =
        (h₀.breakOffs es).sum + (h.dispatcher.breakOff? e).getD 0 := by
      rw [breakOffs_snoc run, List.sum_append]
      cases h.dispatcher.breakOff? e <;> rfl
    refine ⟨move.proper attempted.proper, fun k mem => ?_, ?_, ?_⟩
    · rw [refusals_snoc run, List.mem_append, Option.mem_toList] at mem
      exact mem.elim (attempted.first k) (balances.first k)
    · rw [balances.rejected, attempted.rejected, refusals_snoc run, List.length_append]
    · have before := attempted.sent
      have now := balances.sent
      rw [reports, List.length_append, one, refused, broken]
      omega

/-- **The reports that were sent** in a run are those that the counts give: one for each result that
was taken, refused or given up, and the retries; those of the results whose reports are not over, be
they under way or broken off; and, for each refused result, those before the refusal. So the counts
give the number exactly if every refused result was refused at its first attempt. -/
theorem reports_sent (built : build handlers settings = .ok h₀) (run : Run h₀ es h) {t : Tally}
    (counts : h.dispatcher.tally = t) {unfinished : Nat}
    (rest : unfinished = (h₀.breakOffs es).sum + h.dispatcher.attempts) :
    h.dispatcher.reports.length = t.reported + t.rejected + t.dropped + t.retries +
        ((h₀.refusals es).map (· - 1)).sum + unfinished ∧
      t.rejected = (h₀.refusals es).length ∧
      (h.dispatcher.reports.length =
          t.reported + t.rejected + t.dropped + t.retries + unfinished ↔
        ∀ k ∈ h₀.refusals es, k = 1) := by
  have attempted := run.attempted built
  have sent := attempted.sent
  rw [counts, ← rest, Tally.attempts] at sent
  refine ⟨sent, counts ▸ attempted.rejected, ?_⟩
  have late : ((h₀.refusals es).map (· - 1)).sum = 0 ↔ ∀ k ∈ h₀.refusals es, k = 1 := by
    rw [List.sum_eq_zero_iff, List.forall_mem_map]
    refine forall₂_congr fun k mem => ?_
    have := attempted.first k mem
    omega
  rw [← late, sent]
  omega

/-- The server fails the first report of the sample and refuses the second. -/
def sampleRefusal : List Event :=
  [.reportAnswered 1 (.error (.transient "busy")) (.returned ()), .elapse 500, .pauseDone 1,
    .reportAnswered 1 (.error (.permanent "no")) (.returned ())]

def sampleRefused : Host Unit := (sample.replay (sampleWork ++ sampleRefusal)).get (by decide)

/-- The sample has sent two reports: the result was refused after the first one. -/
theorem sample_reports_sent :
    sampleRefused.dispatcher.reports.length = 0 + 1 + 0 + 0 + (2 - 1) + 0 ∧
      ¬ sampleRefused.dispatcher.reports.length = 0 + 1 + 0 + 0 + 0 := by
  have run : Run sample (sampleWork ++ sampleRefusal) sampleRefused := run_get _
  have finished : 0 = (sample.breakOffs (sampleWork ++ sampleRefusal)).sum +
      sampleRefused.dispatcher.attempts := by decide
  have sent := reports_sent build_sample run rfl finished
  refine ⟨sent.1, fun same => ?_⟩
  exact absurd (sent.2.2.mp same 2 (by decide)) (by decide)

/-- **A retry before a refusal is not counted.** The report of the sample is over, two reports were
sent, and yet the counts say that there was one result and no retry. -/
theorem refused_after_retry :
    ∃ h : Host Unit, Run sample (sampleWork ++ sampleRefusal) h ∧ h.dispatcher.executions = [] ∧
      sample.breakOffs (sampleWork ++ sampleRefusal) = [] ∧ h.dispatcher.reports.length = 2 ∧
      h.dispatcher.tally.reported + h.dispatcher.tally.rejected + h.dispatcher.tally.dropped +
        h.dispatcher.tally.retries = 1 := by
  refine ⟨sampleRefused, run_get _, ?_, ?_, ?_, ?_⟩
  · exact List.length_eq_zero_iff.mp (by decide)
  · decide
  · decide
  · decide

end Host

end TaskWorker
