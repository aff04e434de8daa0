import TaskWorker.Proofs.ReportCalls
import TaskWorker.Proofs.Reporting
/-!
# The worker id on a report

A handler is asked twice who it is: before a task is polled for and when its work is done. The
second answer signs the result, whatever the first one was, and every report of the execution
carries that result. So the reports carry the worker id of the poll exactly if both answers come to
the same worker id.

* `Phase.result?`, the result that an execution is about to deliver; `Dispatcher.Delivers`, one
  result for the rest of an execution; **`Move.delivers`**: it is the one that is sent;
* **`Host.reports_signed`**: who signs the reports of an execution.
-/

namespace TaskWorker

variable {α : Type}

/-- The result that an execution is about to deliver. -/
def Phase.result? : Phase → Option TaskResult
  | .handling _ => none
  | .reporting result _ _ | .pausing result _ _ => some result

namespace Dispatcher

variable {d d' d₁ : Dispatcher α} {x : Execution α} {e : Host.Event} {n : Nat} {result : TaskResult}

/-- For the rest of its time, the execution of a number delivers one result. -/
structure Delivers (n : Nat) (result : TaskResult) (d : Dispatcher α) : Prop where
  begun : n ≤ d.dispatched
  only : ∀ x ∈ d.executions, x.number = n → x.phase.result? = some result

theorem Delivers.congr (delivers : Delivers n result d) (executions : d'.executions = d.executions)
    (dispatched : d'.dispatched = d.dispatched) : Delivers n result d' :=
  ⟨dispatched ▸ delivers.begun, executions ▸ delivers.only⟩

theorem Delivers.without (delivers : Delivers n result d)
    (executions : d'.executions = d.others x) (dispatched : d'.dispatched = d.dispatched) :
    Delivers n result d' :=
  ⟨dispatched ▸ delivers.begun,
    fun y mem => delivers.only y (List.mem_of_mem_filter (executions ▸ mem))⟩

/-- An execution that goes on does so with the result that it delivers. -/
theorem Delivers.setPhase {m : Nat} {phase : Phase} (delivers : Delivers n result d)
    (same : m = n → phase.result? = some result) : Delivers n result (d.setPhase m phase) := by
  refine ⟨delivers.begun, fun y mem number => ?_⟩
  rcases mem_executions_setPhase mem with ⟨there, -⟩ | ⟨own, rfl⟩
  · exact delivers.only y there number
  · exact same (own.symm.trans number)

theorem Delivers.result_eq (delivers : Delivers n result d) (found : d.execution? n = some x) :
    x.phase.result? = some result :=
  delivers.only x (mem_of_execution? found).1 (number_of_found found)

/-- **An execution keeps the result that it delivers.** -/
theorem Move.delivers (move : d.Move e d') (delivers : Delivers n result d) :
    Delivers n result d' := by
  cases move with
  | aside _ same => exact delivers.congr same.executions same.dispatched
  | idle _ | noSlot _ _ _ | noTask _ | pollFailed _ | cut _ _ | pollLost _ =>
    exact delivers.congr rfl rfl
  | poll _ _ _ taken =>
    obtain ⟨_, _, _, _, rfl⟩ := acquire?_eq_some taken
    exact delivers.congr rfl rfl
  | @handOver id task tick found =>
    refine ⟨Nat.le_succ_of_le delivers.begun, fun y mem number => ?_⟩
    rcases List.mem_append.mp mem with mem | mem
    · exact delivers.only y mem number
    · have new : y.number = d.dispatched + 1 := by rw [List.mem_singleton.mp mem]; rfl
      have := delivers.begun
      omega
  | handled found stage concluded =>
    obtain ⟨_, rfl⟩ := conclude_eq concluded
    refine Delivers.setPhase (delivers.congr rfl rfl) ?_
    rintro rfl
    have working := delivers.result_eq found
    rw [stage] at working
    cases working
  | lostConcluding found _ concluded =>
    obtain ⟨_, rfl⟩ := conclude_eq concluded
    exact delivers.without rfl rfl
  | pauses found stage again =>
    obtain ⟨-, _, _, rfl⟩ := afterReport_goOn again
    refine delivers.setPhase ?_
    rintro rfl
    have same := delivers.result_eq found
    rwa [stage] at same
  | delivered _ _ finished | lostTelling _ _ finished _ =>
    obtain ⟨_, _, rfl, -⟩ := afterReport_over finished
    exact delivers.without rfl rfl
  | resumes found stage =>
    refine Delivers.setPhase (delivers.congr rfl rfl) ?_
    rintro rfl
    have same := delivers.result_eq found
    rwa [stage] at same
  | abandoned _ _ | lost _ => exact delivers.without rfl rfl

/-- **What an execution sends is the result that it delivers.** -/
theorem Move.sent_eq (move : d.Move e d') (delivers : Delivers n result d)
    (own : e.about? = some n) : ∀ report ∈ (Account.change d d').sent, report.2 = result := by
  have unsent (news : List Entry) (journal : d'.journal = news ++ d.journal)
      (none : ∀ entry ∈ news, entry.report? = none) (report : Nat × TaskResult) :
      report ∉ (Account.change d d').sent := by
    rw [Account.change_of_journal d d' news journal]
    simpa using fun entry mem => by simp [none entry mem]
  cases move with
  | aside kind _ => cases e <;> first | (cases kind; done) | cases own
  | idle _ | noSlot _ _ _ | poll _ _ _ _ | handOver _ | noTask _ | pollFailed _ | cut _ _
  | pollLost _ => cases own
  | handled found stage _ | lostConcluding found stage _ =>
    cases own
    have working := delivers.result_eq found
    rw [stage] at working
    cases working
  | pauses _ _ _ => exact fun report mem => absurd mem (unsent [] rfl nofun report)
  | delivered _ _ finished | lostTelling _ _ finished _ =>
    obtain ⟨_, news, rfl, undelivered⟩ := afterReport_over finished
    refine fun report mem => absurd mem (unsent (_ :: news) rfl (fun entry mem => ?_) report)
    rcases List.mem_cons.mp mem with rfl | mem
    · rfl
    · rw [undelivered entry mem]
      rfl
  | @resumes n attempt due result' x found stage =>
    cases own
    have same := delivers.result_eq found
    rw [stage] at same
    cases same
    rw [Account.change_of_journal d _ [.sent d.now attempt result] rfl]
    exact fun report mem => congrArg Prod.snd (List.mem_singleton.mp mem)
  | abandoned _ _ | lost _ =>
    refine fun report mem => absurd mem (unsent [_] rfl (fun entry mem => ?_) report)
    rw [List.mem_singleton.mp mem]
    rfl

end Dispatcher

namespace Host

open Dispatcher (Delivers)

variable {h₀ h g : Host α} {es : List Event} {n since : Nat} {x : Execution α}
  {outcome : Outcome} {identity : Option String} {now : Moment} {result : TaskResult}

/-- What an execution sends in a run is the result that it delivers. -/
theorem Run.sent_eq (delivers : Delivers n result h₀.dispatcher) (run : Run h₀ es h) :
    ∀ report ∈ (h₀.account n es).sent, report.2 = result := by
  refine (run.snocInduction (P := fun es h => Delivers n result h.dispatcher ∧
    ∀ report ∈ (h₀.account n es).sent, report.2 = result) ⟨delivers, nofun⟩ ?_).2
  intro es h h' e run ⟨delivers, sent⟩ step
  have move := step?_move step
  refine ⟨move.delivers delivers, fun report mem => ?_⟩
  rw [account_snoc run step, Account.and, List.mem_append] at mem
  rcases mem with mem | mem
  · exact sent report mem
  · split_ifs at mem with own
    · exact move.sent_eq delivers own report mem
    · cases mem

/-- **Who signs the reports of an execution.** There is a report, and each is signed with what the
handler says when its work is done; so they carry the worker id of the poll exactly if the handler
comes to it again. -/
theorem reports_signed (o : h₀.dispatcher.Orderly) (found : h₀.dispatcher.execution? n = some x)
    (stage : x.phase = .handling since)
    (done : h₀.step? (.handlerDone n outcome (.returned identity) now) = some h)
    (run : Run h es g) :
    let reports := ((Account.change h₀.dispatcher h.dispatcher).and (h.account n es)).sent
    let signer := h₀.dispatcher.workerIdFor identity
    reports ≠ [] ∧ (∀ report ∈ reports, report.2.workerId = some signer) ∧
      ((∀ report ∈ reports, report.2.workerId = some x.polledAs) ↔ signer = x.polledAs) := by
  intro reports signer
  obtain ⟨mem, rfl⟩ := Dispatcher.mem_of_execution? found
  let result := (outcome.result x.task now).signedBy signer
  have concluded : h.dispatcher =
      (h₀.dispatcher.conclude x.task outcome identity now).2.beginReport x.number result := by
    simp only [step?, found, stage, Option.some.injEq] at done
    rw [← done]
    rfl
  have first : (Account.change h₀.dispatcher h.dispatcher).sent = [(1, result)] := by
    rw [concluded, Account.change_of_journal h₀.dispatcher _ [.sent h₀.dispatcher.now 1 result] rfl]
    rfl
  have delivers : Delivers x.number result h.dispatcher := by
    rw [concluded]
    refine ⟨o.numbers_le x mem, fun y mem number => ?_⟩
    rcases Dispatcher.mem_executions_setPhase mem with ⟨-, other⟩ | ⟨-, phase⟩
    · exact absurd number other
    · rw [phase]
      rfl
  have all : ∀ report ∈ reports, report.2 = result := by
    intro report mem
    rcases List.mem_append.mp mem with mem | mem
    · rw [first] at mem
      rw [List.mem_singleton.mp mem]
    · exact run.sent_eq delivers report mem
  have reported : (1, result) ∈ reports :=
    List.mem_append_left _ (first ▸ List.mem_singleton_self _)
  have signed : ∀ report ∈ reports, report.2.workerId = some signer := fun report mem => by
    rw [all report mem]
    rfl
  refine ⟨List.ne_nil_of_mem reported, signed, fun polled => ?_, fun same => same ▸ signed⟩
  exact Option.some.inj ((signed _ reported).symm.trans (polled _ reported))

/-- A handler that comes to another worker id in between polls as one and reports as the other. -/
example :
    (sample.replay [.init true, .elapse 1000, .loopTicks "parcel" false (some "a"),
        .pollAnswered 0 (.ok (some sampleTask)),
        .handlerDone 1 (.returned (.completed sampleTask .null)) (.returned (some "b"))
          .epoch]).map (fun h => h.dispatcher.journal.reverse) =
      some [.polled 1000 "parcel" "a" none, .named 1 "p1" "workflow-worker-1",
        .sent 1000 1 ((TaskResult.completed sampleTask .null).signedBy "b")] := rfl

end Host

end TaskWorker
