import TaskWorker.Proofs.Reporting
import TaskWorker.Proofs.Views
/-!
# Calls that share the failures of a server

Any number of calls report results to one server, and each of them makes its attempts when it gets
to them, between those of the others. A server that is to fail so many reports fails the first that
come, whoever sends them, and takes all others. So which results are dropped depends on the course
of things, but the failures add up.

* `ReportCall`, `Reporters`, calls and their server; `Reporters.Event`, `Reporters.step?`: what can
  happen, and the state after it;
* `Reporters.heard`, what a call has heard, and `Reporters.recorded`, what the server took;
* `ReportCall.Stands`, how far a call has come; `Reporters.Shared`, how the failures were shared so
  far; **`Reporters.Shared.step`**: every event keeps it so;
* **`Reporters.failures_shared`**.
-/

namespace TaskWorker

open Dispatcher (AfterReport)

variable {α : Type}

/-! ## Calls and their server -/

/-- What a server answers to a report that it was told to fail. -/
def Server.injected : Except ServerError Unit := .error (.transient "report failed (injected)")

/-- A call that reports a result, and how far it has come. -/
structure ReportCall where
  result : TaskResult
  state : AfterReport

/-- Calls that report to one server, through the dispatcher of the one whose turn it is. -/
structure Reporters (α : Type) where
  dispatcher : Dispatcher α
  server : Server
  calls : List ReportCall
  /-- The answers of the server, each with the place of the call that it was for. -/
  answers : List (Nat × Except ServerError Unit)

namespace Reporters

/-- What can happen to calls and their server. -/
inductive Event (α : Type) where
  /-- Somebody begins to report a result. -/
  | begins (result : TaskResult)
  /-- The server sees the report of a call and answers it. -/
  | answered (call : Nat)
  /-- The pause of a call is over. -/
  | resumes (call : Nat)
  /-- Time goes on, and other things happen; another dispatcher allows as many attempts. -/
  | meanwhile (dispatcher : Dispatcher α) (waiting : List Task) (polls : List PollRecord)
      (failPolls : Bool)

/-- The attempts that each call is allowed. -/
def allowed (s : Reporters α) : Nat := s.dispatcher.settings.retryPolicy.maxAttempts

/-- The state after an event, if the event is possible. -/
def step? (s : Reporters α) : Event α → Option (Reporters α)
  | .begins result =>
    let (phase, d) := s.dispatcher.sendReport result 1
    some { s with dispatcher := d, calls := s.calls ++ [⟨result, .goOn phase⟩] }
  | .answered i =>
    match s.calls[i]? with
    | some ⟨own, .goOn (.reporting result attempt _)⟩ =>
      let (answer, server) := s.server.report result
      let (state, d) := s.dispatcher.afterReport result attempt answer
      some { dispatcher := d, server, calls := s.calls.set i ⟨own, state⟩
             answers := s.answers ++ [(i, answer)] }
    | _ => none
  | .resumes i =>
    match s.calls[i]? with
    | some ⟨own, .goOn (.pausing result attempt due)⟩ =>
      if due ≤ s.dispatcher.now then
        let (phase, d) := s.dispatcher.sendReport result attempt
        some { s with dispatcher := d, calls := s.calls.set i ⟨own, .goOn phase⟩ }
      else none
    | _ => none
  | .meanwhile d waiting polls failPolls =>
    if d.settings.retryPolicy.maxAttempts = s.allowed then
      some { s with dispatcher := d, server := { s.server with waiting, polls, failPolls } }
    else none

/-- The state after some events, if each of them is possible in its turn. -/
def replay (s : Reporters α) (es : List (Event α)) : Option (Reporters α) := es.foldlM step? s

/-- What a call has heard from the server. -/
def heard (s : Reporters α) (i : Nat) : List (Except ServerError Unit) :=
  s.answers.filterMap fun e => if e.1 = i then some e.2 else none

/-- The results of the reports that the server took, in their order. -/
def taken (results : List TaskResult) (answers : List (Nat × Except ServerError Unit)) :
    List TaskResult :=
  answers.filterMap fun e =>
    match e.2 with
    | .ok () => results[e.1]?
    | .error _ => none

def recorded (s : Reporters α) : List TaskResult :=
  taken (s.calls.map ReportCall.result) s.answers

end Reporters

namespace ReportCall

/-- The failures that a call has used up. -/
def failures (c : ReportCall) : Nat :=
  match c.state with
  | .goOn (.reporting _ attempt _) | .goOn (.pausing _ attempt _) => attempt - 1
  | .over (.reported attempts) => attempts - 1
  | .over (.dropped attempts) => attempts
  | _ => 0

def isDropped (c : ReportCall) : Bool :=
  match c.state with
  | .over (.dropped _) => true
  | _ => false

open Server (injected)

/-- How far a call has come that is allowed so many attempts, and what it has heard. -/
inductive Stands (allowed : Nat) (c : ReportCall) (heard : List (Except ServerError Unit)) :
    Prop where
  /-- The server has its report. -/
  | sends (n since : Nat) (left : n < allowed)
      (state : c.state = .goOn (.reporting c.result (n + 1) since))
      (failed : heard = List.replicate n injected)
  | rests (n due : Nat) (left : n < allowed)
      (state : c.state = .goOn (.pausing c.result (n + 1) due))
      (failed : heard = List.replicate n injected)
  | recorded (n : Nat) (left : n < allowed) (state : c.state = .over (.reported (n + 1)))
      (last : heard = List.replicate n injected ++ [.ok ()])
  | dropped (state : c.state = .over (.dropped allowed))
      (failed : heard = List.replicate allowed injected)

end ReportCall

/-! ## Single answers -/

namespace Server

variable {s : Server}

theorem report_failing (result : TaskResult) (accepting : s.rejectReports = false)
    (failing : s.failingReports ≠ 0) :
    s.report result = (injected, { s with
      reportAttempts := s.reportAttempts + 1
      failingReports := s.failingReports - 1 }) := by
  simp only [report, accepting, Bool.false_eq_true, if_false, if_pos failing, injected]

end Server

namespace Dispatcher

variable {d : Dispatcher α}

open Server (injected)

/-- After a failure, a call rests or drops its result. -/
theorem afterReport_injected (d : Dispatcher α) (result : TaskResult) (attempt : Nat) :
    (attempt < d.settings.retryPolicy.maxAttempts ∧ ∃ due,
        d.afterReport result attempt injected = (.goOn (.pausing result (attempt + 1) due), d)) ∨
      d.settings.retryPolicy.maxAttempts ≤ attempt ∧ ∃ d', d'.settings = d.settings ∧
        d.afterReport result attempt injected = (.over (.dropped attempt), d') := by
  simp only [afterReport, injected, ServerError.attempt, RetryPolicy.afterAttempt,
    RetryPolicy.hasAttemptsLeft, decide_eq_true_eq]
  split_ifs with left
  · exact .inl ⟨left, _, rfl⟩
  · exact .inr ⟨Nat.le_of_not_lt left,
      (d.count (·.drop attempt)).note (.undelivered d.now result), rfl, rfl⟩

end Dispatcher

/-! ## Lists of calls -/

theorem sum_map_set {β : Type} (f : β → Nat) {l : List β} {i : Nat} {a : β} (b : β)
    (found : l[i]? = some a) : ((l.set i b).map f).sum + f a = (l.map f).sum + f b := by
  induction l generalizing i with
  | nil => cases found
  | cons c l ih =>
    cases i with
    | zero =>
      cases found
      simp only [List.set_cons_zero, List.map_cons, List.sum_cons]
      omega
    | succ i =>
      have := ih (i := i) found
      simp only [List.set_cons_succ, List.map_cons, List.sum_cons]
      omega

/-! ## How failures are shared -/

namespace Reporters

open Server (injected)

variable {s₀ s s' : Reporters α} {e : Event α} {es : List (Event α)} {used taken : Nat}

/-- How calls have shared the failures of their server so far: so many failures are used up, and so
many reports were taken. -/
structure Shared (s₀ s : Reporters α) (used taken : Nat) : Prop where
  allowed : s.allowed = s₀.allowed
  accepting : s.server.rejectReports = false
  budget : used + s.server.failingReports.toNat = s₀.server.failingReports.toNat
  /-- The failures come first. -/
  order : s.answers.map Prod.snd = List.replicate used injected ++ List.replicate taken (.ok ())
  late : taken ≠ 0 → s.server.failingReports = 0
  attempts : s.server.reportAttempts = s₀.server.reportAttempts + used + taken
  reported : s.server.reported = s₀.server.reported ++ s.recorded
  length : s.recorded.length = taken
  failures : (s.calls.map ReportCall.failures).sum = used
  calls : ∀ i (c : ReportCall), s.calls[i]? = some c → c.Stands s₀.allowed (s.heard i)
  places : ∀ a ∈ s.answers, a.1 < s.calls.length

theorem Shared.start (fresh : s₀.calls = []) (silent : s₀.answers = [])
    (accepting : s₀.server.rejectReports = false) : Shared s₀ s₀ 0 0 := by
  have nothing : s₀.recorded = [] := by
    rw [recorded, silent]
    rfl
  refine ⟨rfl, accepting, Nat.zero_add _, ?_, fun some => absurd rfl some, rfl, ?_, ?_, ?_, ?_, ?_⟩
  · rw [silent]
    rfl
  · rw [nothing, List.append_nil]
  · rw [nothing]
    rfl
  · rw [fresh]
    rfl
  · intro i c found
    rw [fresh, List.getElem?_nil] at found
    cases found
  · rw [silent]
    nofun

/-! ### Calls and answers that are added -/

theorem heard_own {i : Nat} {answer : Except ServerError Unit}
    (answers : s'.answers = s.answers ++ [(i, answer)]) : s'.heard i = s.heard i ++ [answer] := by
  rw [heard, answers, List.filterMap_append, heard]
  simp

theorem heard_other {i j : Nat} {answer : Except ServerError Unit}
    (answers : s'.answers = s.answers ++ [(i, answer)]) (other : i ≠ j) :
    s'.heard j = s.heard j := by
  rw [heard, answers, List.filterMap_append, heard]
  simp [other]

/-- What was taken stays what it was when other calls begin. -/
theorem taken_append {results : List TaskResult} {answers : List (Nat × Except ServerError Unit)}
    (places : ∀ a ∈ answers, a.1 < results.length) (more : List TaskResult) :
    Reporters.taken (results ++ more) answers = Reporters.taken results answers := by
  refine List.filterMap_congr fun a mem => ?_
  rw [List.getElem?_append_left (places a mem)]

/-- The results of calls stay what they are. -/
theorem map_result_set {calls : List ReportCall} {i : Nat} {c : ReportCall}
    (found : calls[i]? = some c) (state : AfterReport) :
    (calls.set i { c with state }).map ReportCall.result = calls.map ReportCall.result := by
  refine List.ext_getElem? fun j => ?_
  rw [List.getElem?_map, List.getElem?_map, List.getElem?_set]
  obtain ⟨small, -⟩ := List.getElem?_eq_some_iff.mp found
  split_ifs with here
  · rw [← here, found]
    rfl
  · rfl

theorem Shared.allowed_of_settings (shared : Shared s₀ s used taken) {d : Dispatcher α}
    (settings : d.settings = s.dispatcher.settings) :
    d.settings.retryPolicy.maxAttempts = s₀.allowed := by
  rw [settings]
  exact shared.allowed

/-- Another call begins. -/
theorem Shared.begins (shared : Shared s₀ s used taken) (result : TaskResult) (since : Nat)
    {d : Dispatcher α} (settings : d.settings = s.dispatcher.settings) :
    Shared s₀ { s with
      dispatcher := d
      calls := s.calls ++ [⟨result, .goOn (.reporting result 1 since)⟩] } used taken := by
  have places : ∀ a ∈ s.answers, a.1 < (s.calls.map ReportCall.result).length := by
    rw [List.length_map]
    exact shared.places
  have same : recorded { s with
      dispatcher := d
      calls := s.calls ++ [⟨result, .goOn (.reporting result 1 since)⟩] } = s.recorded := by
    rw [recorded, List.map_append]
    exact taken_append places _
  have silent : s.heard s.calls.length = [] := by
    refine List.filterMap_eq_nil_iff.mpr fun a mem => if_neg ?_
    exact Nat.ne_of_lt (shared.places a mem)
  refine { shared with
    allowed := shared.allowed_of_settings settings
    reported := same ▸ shared.reported
    length := same ▸ shared.length
    failures := ?_
    calls := fun i c found => ?_
    places := fun a mem => ?_ }
  · rw [List.map_append, List.sum_append, shared.failures]
    rfl
  · rcases Nat.lt_trichotomy i s.calls.length with old | rfl | far
    · rw [List.getElem?_append_left old] at found
      exact shared.calls i c found
    · rw [List.getElem?_concat_length] at found
      cases found
      have pos := RetryPolicy.maxAttempts_pos d.settings.retryPolicy
      exact .sends 0 since (shared.allowed_of_settings settings ▸ pos) rfl silent
    · rw [List.getElem?_eq_none (by simpa using far)] at found
      cases found
  · rw [List.length_append]
    exact Nat.lt_add_right _ (shared.places a mem)

/-! ### The turn of a call -/

section Turn

variable {i n : Nat} {c : ReportCall} {state : AfterReport} {d : Dispatcher α}

/-- Only the call whose turn it is comes any further. -/
theorem Shared.stands_set (shared : Shared s₀ s used taken)
    (calls : s'.calls = s.calls.set i { c with state })
    (others : ∀ j, i ≠ j → s'.heard j = s.heard j)
    (own : ReportCall.Stands s₀.allowed { c with state } (s'.heard i)) (j : Nat) (c' : ReportCall)
    (found : s'.calls[j]? = some c') : c'.Stands s₀.allowed (s'.heard j) := by
  rw [calls, List.getElem?_set] at found
  split_ifs at found with here
  · cases found
    exact here ▸ own
  · rw [others j here]
    exact shared.calls j c' found

theorem failures_set (found : s.calls[i]? = some c) (state : AfterReport) :
    ((s.calls.set i { c with state }).map ReportCall.failures).sum + c.failures =
      (s.calls.map ReportCall.failures).sum + ReportCall.failures { c with state } :=
  sum_map_set ReportCall.failures { c with state } found

/-- The pause of a call is over. -/
theorem Shared.resumes (shared : Shared s₀ s used taken) (found : s.calls[i]? = some c)
    {due : Nat} (since : Nat) (left : n < s₀.allowed)
    (rests : c.state = .goOn (.pausing c.result (n + 1) due))
    (failed : s.heard i = List.replicate n injected)
    (settings : d.settings = s.dispatcher.settings) :
    Shared s₀ { s with
      dispatcher := d
      calls := s.calls.set i { c with state := .goOn (.reporting c.result (n + 1) since) } }
      used taken := by
  have same : recorded { s with
      dispatcher := d
      calls := s.calls.set i { c with state := .goOn (.reporting c.result (n + 1) since) } } =
        s.recorded := by
    rw [recorded, map_result_set found]
    rfl
  have failures := failures_set found (.goOn (.reporting c.result (n + 1) since))
  simp only [ReportCall.failures, rests] at failures
  refine { shared with
    allowed := shared.allowed_of_settings settings
    reported := same ▸ shared.reported
    length := same ▸ shared.length
    failures := (Nat.add_right_cancel failures).trans shared.failures
    calls := shared.stands_set rfl (fun _ _ => rfl) (.sends n since left rfl failed)
    places := fun a mem => ?_ }
  rw [List.length_set]
  exact shared.places a mem

theorem places_snoc (shared : Shared s₀ s used taken) (found : s.calls[i]? = some c)
    (answer : Except ServerError Unit) :
    ∀ a ∈ s.answers ++ [(i, answer)], a.1 < (s.calls.set i { c with state }).length := by
  intro a mem
  rw [List.length_set]
  rcases List.mem_append.mp mem with old | new
  · exact shared.places a old
  · rw [List.mem_singleton.mp new]
    exact (List.getElem?_eq_some_iff.mp found).1

/-- A report fails, and one failure is used up. -/
theorem Shared.fails (shared : Shared s₀ s used taken) (found : s.calls[i]? = some c)
    {since : Nat} (sends : c.state = .goOn (.reporting c.result (n + 1) since))
    (failed : s.heard i = List.replicate n injected) (failing : s.server.failingReports ≠ 0)
    (settings : d.settings = s.dispatcher.settings)
    (next : (∃ due, n + 1 < s₀.allowed ∧ state = .goOn (.pausing c.result (n + 2) due)) ∨
      s₀.allowed = n + 1 ∧ state = .over (.dropped (n + 1))) :
    Shared s₀ {
      dispatcher := d
      server := { s.server with
        reportAttempts := s.server.reportAttempts + 1
        failingReports := s.server.failingReports - 1 }
      calls := s.calls.set i { c with state }
      answers := s.answers ++ [(i, injected)] } (used + 1) taken := by
  have none : taken = 0 := by
    by_contra some
    exact failing (shared.late some)
  subst none
  have one : (s.server.failingReports - 1).toNat + 1 = s.server.failingReports.toNat := by
    have pos : s.server.failingReports.toNat ≠ 0 := fun zero => failing (UInt32.toNat_inj.mp zero)
    have le : (1 : UInt32) ≤ s.server.failingReports :=
      UInt32.le_iff_toNat_le.mpr (Nat.one_le_iff_ne_zero.mpr pos)
    rw [UInt32.toNat_sub_of_le _ _ le, UInt32.toNat_one]
    omega
  have recorded : Reporters.taken ((s.calls.set i { c with state }).map ReportCall.result)
      (s.answers ++ [(i, injected)]) = s.recorded := by
    rw [map_result_set found, Reporters.taken, List.filterMap_append]
    exact List.append_nil _
  have own : s.heard i ++ [injected] = List.replicate (n + 1) injected := by
    rw [failed, List.replicate_succ']
  have failures := failures_set found state
  have before : c.failures = n := by simp only [ReportCall.failures, sends, Nat.add_sub_cancel]
  have after : ReportCall.failures { c with state } = n + 1 := by
    rcases next with ⟨due, -, rfl⟩ | ⟨-, rfl⟩ <;> rfl
  refine ⟨shared.allowed_of_settings settings, shared.accepting, ?_, ?_,
    fun some => absurd rfl some, ?_, ?_, ?_, ?_, ?_, places_snoc shared found _⟩
  · have := shared.budget
    show used + 1 + (s.server.failingReports - 1).toNat = _
    omega
  · rw [List.map_append, shared.order, List.replicate_succ', List.replicate_zero, List.append_nil,
      List.append_nil]
    rfl
  · have := shared.attempts
    show s.server.reportAttempts + 1 = _
    omega
  · exact shared.reported.trans (congrArg (s₀.server.reported ++ ·) recorded.symm)
  · exact (congrArg List.length recorded).trans shared.length
  · have := shared.failures
    show ((s.calls.set i { c with state }).map ReportCall.failures).sum = used + 1
    omega
  · refine shared.stands_set rfl (fun j other => heard_other rfl other) ?_
    rcases next with ⟨due, more, rfl⟩ | ⟨last, rfl⟩
    · exact .rests (n + 1) due more rfl ((heard_own rfl).trans own)
    · rw [last]
      exact .dropped rfl ((heard_own rfl).trans own)

/-- A report is taken. -/
theorem Shared.takes (shared : Shared s₀ s used taken) (found : s.calls[i]? = some c)
    {since : Nat} (left : n < s₀.allowed)
    (sends : c.state = .goOn (.reporting c.result (n + 1) since))
    (failed : s.heard i = List.replicate n injected) (none : s.server.failingReports = 0)
    (settings : d.settings = s.dispatcher.settings) :
    Shared s₀ {
      dispatcher := d
      server := { s.server with
        reportAttempts := s.server.reportAttempts + 1
        reported := s.server.reported ++ [c.result] }
      calls := s.calls.set i { c with state := .over (.reported (n + 1)) }
      answers := s.answers ++ [(i, .ok ())] } used (taken + 1) := by
  have recorded : Reporters.taken
      ((s.calls.set i { c with state := .over (.reported (n + 1)) }).map ReportCall.result)
      (s.answers ++ [(i, .ok ())]) = s.recorded ++ [c.result] := by
    have own : (s.calls.map ReportCall.result)[i]? = some c.result := by
      rw [List.getElem?_map, found]
      rfl
    rw [map_result_set found, Reporters.taken, List.filterMap_append]
    refine congrArg (s.recorded ++ ·) ?_
    simp only [List.filterMap_cons, own, List.filterMap_nil]
  have own : s.heard i ++ [.ok ()] = List.replicate n injected ++ [.ok ()] := by rw [failed]
  have failures := failures_set found (.over (.reported (n + 1)))
  have before : c.failures = n := by simp only [ReportCall.failures, sends, Nat.add_sub_cancel]
  have after : ReportCall.failures { c with state := .over (.reported (n + 1)) } = n := rfl
  refine ⟨shared.allowed_of_settings settings, shared.accepting, shared.budget, ?_, fun _ => none,
    ?_, ?_, ?_, ?_, ?_, places_snoc shared found _⟩
  · rw [List.map_append, shared.order, List.replicate_succ' (n := taken), List.append_assoc]
    rfl
  · have := shared.attempts
    show s.server.reportAttempts + 1 = _
    omega
  · refine Eq.trans ?_ (congrArg (s₀.server.reported ++ ·) recorded.symm)
    rw [← List.append_assoc, ← shared.reported]
  · refine (congrArg List.length recorded).trans ?_
    rw [List.length_append, shared.length]
    rfl
  · have := shared.failures
    show ((s.calls.set i _).map ReportCall.failures).sum = used
    omega
  · exact shared.stands_set rfl (fun j other => heard_other rfl other)
      (.recorded n left rfl ((heard_own rfl).trans own))

end Turn

/-- **Every event keeps the failures shared.** -/
theorem Shared.step (shared : Shared s₀ s used taken) (step : s.step? e = some s') :
    ∃ used taken, Shared s₀ s' used taken := by
  cases e with
  | begins result =>
    cases step
    exact ⟨_, _, shared.begins result _ rfl⟩
  | meanwhile d waiting polls failPolls =>
    simp only [step?] at step
    split_ifs at step with same
    cases step
    exact ⟨used, taken, { shared with allowed := same.trans shared.allowed }⟩
  | answered i =>
    simp only [step?] at step
    split at step
    · rename_i own result attempt since found
      cases shared.calls i _ found with
      | sends n since left state failed =>
        simp only [AfterReport.goOn.injEq, Phase.reporting.injEq] at state
        obtain ⟨rfl, rfl, rfl⟩ := state
        by_cases none : s.server.failingReports = 0
        · rw [Server.report_accepting result ⟨shared.accepting, none⟩] at step
          cases step
          exact ⟨_, _, shared.takes found left rfl failed none rfl⟩
        · rw [Server.report_failing result shared.accepting none] at step
          simp only at step
          rcases s.dispatcher.afterReport_injected result (n + 1) with
            ⟨more, due, again⟩ | ⟨used, d, settings, finished⟩
          · rw [again] at step
            cases step
            exact ⟨_, _, shared.fails found rfl failed none rfl
              (.inl ⟨due, shared.allowed ▸ more, rfl⟩)⟩
          · rw [finished] at step
            cases step
            have last : s₀.allowed ≤ n + 1 := shared.allowed ▸ used
            exact ⟨_, _, shared.fails found rfl failed none settings
              (.inr ⟨Nat.le_antisymm last left, rfl⟩)⟩
      | rests _ _ _ state _ | recorded _ _ state _ | dropped state _ => cases state
    · cases step
  | resumes i =>
    simp only [step?] at step
    split at step
    · rename_i own result attempt due found
      split_ifs at step
      cases step
      cases shared.calls i _ found with
      | rests n due left state failed =>
        simp only [AfterReport.goOn.injEq, Phase.pausing.injEq] at state
        obtain ⟨rfl, rfl, rfl⟩ := state
        exact ⟨_, _, shared.resumes found _ left rfl failed rfl⟩
      | sends _ _ _ state _ | recorded _ _ state _ | dropped state _ => cases state
    · cases step

/-- **However calls go on, they share the failures of their server.** -/
theorem Shared.run (shared : Shared s₀ s used taken) (run : s.replay es = some s') :
    ∃ used taken, Shared s₀ s' used taken := by
  refine foldlM_induction (P := fun _ s => ∃ used taken, Shared s₀ s used taken)
    ⟨_, _, shared⟩ ?_ run
  rintro es s s' e - ⟨used, taken, shared⟩ step
  exact shared.step step

/-! ## What becomes of the calls -/

theorem countP_isDropped_mul_le {calls : List ReportCall} {allowed : Nat}
    (failed : ∀ c ∈ calls, c.isDropped = true → c.failures = allowed) :
    calls.countP ReportCall.isDropped * allowed ≤ (calls.map ReportCall.failures).sum := by
  induction calls with
  | nil => simp
  | cons c calls ih =>
    have rest := ih fun c' mem => failed c' (List.mem_cons_of_mem _ mem)
    rw [List.countP_cons, List.map_cons, List.sum_cons, Nat.add_mul]
    split_ifs with dropped
    · rw [failed c List.mem_cons_self dropped]
      omega
    · omega

/-- A call can go on, at once or after its pause. -/
def GoesOn (s : Reporters α) (i : Nat) : Prop :=
  (∃ s', s.step? (.answered i) = some s') ∨
    ∃ d s', s.replay [.meanwhile d s.server.waiting s.server.polls s.server.failPolls, .resumes i] =
      some s'

section GoesOn

variable {i attempt since due : Nat} {c : ReportCall} {result : TaskResult}

theorem goesOn_of_sends (found : s.calls[i]? = some c)
    (sends : c.state = .goOn (.reporting result attempt since)) : s.GoesOn i := by
  obtain ⟨own, state⟩ := c
  obtain rfl : state = .goOn (.reporting result attempt since) := sends
  refine .inl ?_
  simp only [step?, found]
  exact ⟨_, rfl⟩

theorem goesOn_of_rests (found : s.calls[i]? = some c)
    (rests : c.state = .goOn (.pausing result attempt due)) : s.GoesOn i := by
  obtain ⟨own, state⟩ := c
  obtain rfl : state = .goOn (.pausing result attempt due) := rests
  refine .inr ⟨{ s.dispatcher with now := due }, ?_⟩
  have same : { s.dispatcher with now := due }.settings.retryPolicy.maxAttempts = s.allowed := rfl
  simp only [replay, List.foldlM_cons, step?, if_pos same, Option.bind_eq_bind, Option.bind_some,
    found, le_refl, if_true]
  exact ⟨_, rfl⟩

end GoesOn

/-- **Calls share the failures of their server.** The server is to fail so many reports and to
reject none; then any number of calls report to it, each with as many attempts as are allowed, in
any order. Each failed attempt uses up one failure, and what does not fail is recorded. Each call is
over and its result was taken after fewer failures than attempts are allowed, or it was dropped
after as many, or it can go on. So no more results are dropped than failures suffice for; and once
they are used up, all reports are taken. -/
theorem failures_shared (fresh : s₀.calls = []) (silent : s₀.answers = [])
    (accepting : s₀.server.rejectReports = false) (run : s₀.replay es = some s) :
    let allowed := s₀.allowed
    let failures := s₀.server.failingReports.toNat
    let left := s.server.failingReports.toNat
    (left ≤ failures ∧ s.answers.countP (fun a => failsForNow a.2) = failures - left ∧
        s.server.reported = s₀.server.reported ++ s.recorded ∧
        s.server.reportAttempts =
          s₀.server.reportAttempts + (s.recorded.length + (failures - left))) ∧
      (∀ i (c : ReportCall), s.calls[i]? = some c →
        (∃ n < allowed, c.state = .over (.reported (n + 1)) ∧
            s.heard i = List.replicate n injected ++ [.ok ()]) ∨
          c.state = .over (.dropped allowed) ∧ s.heard i = List.replicate allowed injected ∨
          ∃ n < allowed, ∃ phase, c.state = .goOn phase ∧
            s.heard i = List.replicate n injected ∧ s.GoesOn i) ∧
      s.calls.countP ReportCall.isDropped * allowed ≤ failures ∧
      ∀ j i answer, s.answers[j]? = some (i, answer) → (answer = .ok () ↔ failures ≤ j) := by
  intro allowed failures left
  obtain ⟨used, taken, shared⟩ := (Shared.start fresh silent accepting).run run
  have budget : used + left = failures := shared.budget
  refine ⟨⟨by omega, ?_, shared.reported, ?_⟩, fun i c found => ?_, ?_, fun j i answer found => ?_⟩
  · have counted : s.answers.countP (fun a => failsForNow a.2) =
        (s.answers.map Prod.snd).countP failsForNow := by
      rw [List.countP_map]
      rfl
    rw [counted, shared.order, List.countP_append, List.countP_replicate, List.countP_replicate]
    simp only [injected, failsForNow_transient, failsForNow_ok, if_true, Bool.false_eq_true,
      if_false]
    omega
  · have attempts := shared.attempts
    have length := shared.length
    omega
  · cases shared.calls i c found with
    | sends n since more state failed =>
      exact .inr (.inr ⟨n, more, _, state, failed, goesOn_of_sends found state⟩)
    | rests n due more state failed =>
      exact .inr (.inr ⟨n, more, _, state, failed, goesOn_of_rests found state⟩)
    | recorded n more state last => exact .inl ⟨n, more, state, last⟩
    | dropped state failed => exact .inr (.inl ⟨state, failed⟩)
  · have most : s.calls.countP ReportCall.isDropped * allowed ≤ used := by
      rw [← shared.failures]
      refine countP_isDropped_mul_le fun c mem dropped => ?_
      obtain ⟨i, found⟩ := List.mem_iff_getElem?.mp mem
      cases shared.calls i c found with
      | dropped state _ => simp only [ReportCall.failures, state]; rfl
      | sends _ _ _ state _ | rests _ _ _ state _ | recorded _ _ state _ =>
        simp only [ReportCall.isDropped, state] at dropped
        cases dropped
    omega
  · have answered : (s.answers.map Prod.snd)[j]? = some answer := by
      rw [List.getElem?_map, found]
      rfl
    rw [shared.order] at answered
    rcases Nat.lt_or_ge j used with early | late
    · rw [List.getElem?_append_left (by simpa using early), List.getElem?_replicate,
        if_pos early] at answered
      cases answered
      exact ⟨nofun, fun late => by omega⟩
    · rw [List.getElem?_append_right (by simpa using late), List.length_replicate,
        List.getElem?_replicate] at answered
      split_ifs at answered with some
      cases answered
      have none : left = 0 := by
        rw [show left = s.server.failingReports.toNat from rfl, shared.late (by omega)]
        rfl
      exact ⟨fun _ => by omega, fun _ => rfl⟩

/-- Two calls for a server that is to fail five reports. -/
def sample : Reporters Unit :=
  ⟨Host.sample.dispatcher, { Server.new with failingReports := 5 }, [], []⟩

/-- The clock is set, and nothing else happens. -/
def sampleClock (now : Nat) : Event Unit :=
  .meanwhile { Host.sample.dispatcher with now } [] [] false

/-- One of the calls takes its turn at each attempt, the other one comes late. -/
def sampleTurns : List (Event Unit) :=
  [.begins Host.sampleResult, .begins Host.sampleResult, .answered 0, .answered 1, sampleClock 500,
    .resumes 0, .answered 0, sampleClock 1000, .resumes 0, .answered 0, sampleClock 1500,
    .resumes 0, .answered 0, .resumes 1, .answered 1]

def sampleLast : Reporters Unit := (sample.replay sampleTurns).get (by decide)

/-- The first call uses up its four attempts, and the second one finds no failure left. -/
theorem sample_failures_shared :
    sampleLast.calls.countP ReportCall.isDropped = 1 ∧
      sampleLast.calls.countP ReportCall.isDropped * sample.allowed ≤ 5 ∧ sample.allowed = 4 ∧
      sampleLast.server.reported = sampleLast.recorded := by
  have run : sample.replay sampleTurns = some sampleLast := (Option.some_get _).symm
  have shared := failures_shared rfl rfl rfl run
  exact ⟨by decide, shared.2.2.1, by decide, shared.1.2.2.1⟩

end Reporters

end TaskWorker
