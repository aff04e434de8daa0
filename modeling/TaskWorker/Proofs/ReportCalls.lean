import TaskWorker.Proofs.SharedFailures
/-!
# Reports of executions and by hand

The executions of a host report to the server of its site, between everything else that happens
there. So a site takes the course of calls that share a server, and so does whoever reports a result
by hand.

* `Dispatcher.Carries`, the executions that report are among some calls; `Carries.keeps`,
  `Carries.begins`, `Carries.turns`: how they remain so;
* `Site.Mirrors`, a site and calls that do as it does; `Site.Mirrors.step`: an event of the site is
  some events of the calls;
* **`Site.reporters_of_replay`**: all that happens in a site is a course of calls;
  **`Site.failures_add_up`**;
* **`World.reporters_of_runErrand?`**: a report by hand is such a call.
-/

namespace TaskWorker

open Dispatcher (AfterReport)

variable {α : Type}

namespace Dispatcher

variable {d d' : Dispatcher α} {x : Execution α} {calls : List ReportCall}

theorem mem_executions_setPhase {n : Nat} {phase : Phase} {y : Execution α}
    (mem : y ∈ (d.setPhase n phase).executions) :
    y ∈ d.executions ∧ y.number ≠ n ∨ y.number = n ∧ y.phase = phase := by
  obtain ⟨x, there, rfl⟩ := List.mem_map.mp mem
  split_ifs with own
  · exact .inr ⟨own, rfl⟩
  · exact .inl ⟨there, own⟩

theorem settings_afterReport (d : Dispatcher α) (result : TaskResult) (attempt : Nat)
    (answer : Except ServerError Unit) :
    (d.afterReport result attempt answer).2.settings = d.settings := by
  rcases after : d.afterReport result attempt answer with ⟨phase | outcome, d'⟩
  · rw [(afterReport_goOn after).1]
  · obtain ⟨_, _, rfl, -⟩ := afterReport_over after
    rfl

/-- An execution whose report is answered goes on as the answer says, or is no longer there. -/
theorem mem_executions_reportAnswered {result : TaskResult} {attempt : Nat}
    {answer : Except ServerError Unit} {told : Callback Unit} {y : Execution α}
    (mem : y ∈ (d.reportAnswered x result attempt answer told).executions) :
    y ∈ d.executions ∧ y.number ≠ x.number ∨
      y.number = x.number ∧ (d.afterReport result attempt answer).1 = .goOn y.phase := by
  have others (d' : Dispatcher α) (same : d'.executions = d.executions) (fate : Fate)
      (left : y ∈ (d'.closeExecution x fate).executions) :
      y ∈ d.executions ∧ y.number ≠ x.number := by
    obtain ⟨there, apart⟩ := List.mem_filter.mp left
    exact ⟨same ▸ there, by simpa using apart⟩
  simp only [reportAnswered] at mem
  split at mem
  · rename_i phase d' again
    obtain ⟨rfl, -⟩ := afterReport_goOn again
    refine (mem_executions_setPhase mem).imp id fun same => ⟨same.1, ?_⟩
    rw [again, same.2]
  · rename_i outcome d' finished
    have same : d'.executions = d.executions := by
      obtain ⟨_, _, rfl, -⟩ := afterReport_over finished
      rfl
    split at mem
    · exact .inl (others d' same .lost mem)
    · exact .inl (others d' same (.delivered outcome) mem)

/-- The executions that report are among some calls, each at the places of its number. -/
def Carries (d : Dispatcher α) (calls : List ReportCall) : Prop :=
  ∃ numbers : List Nat, numbers.length = calls.length ∧
    ∀ x ∈ d.executions, x.phase.isHandling = false →
      ∃ (i : Nat) (own : TaskResult), numbers[i]? = some x.number ∧
        calls[i]? = some ⟨own, .goOn x.phase⟩

/-- No execution begins to report or takes its turn. -/
theorem Carries.keeps (carries : d.Carries calls)
    (old : ∀ y ∈ d'.executions, y ∈ d.executions ∨ y.phase.isHandling = true) :
    d'.Carries calls := by
  obtain ⟨numbers, length, places⟩ := carries
  refine ⟨numbers, length, fun y mem reports => ?_⟩
  rcases old y mem with there | handling
  · exact places y there reports
  · rw [handling] at reports
    cases reports

/-- An execution begins to report. -/
theorem Carries.begins (carries : d.Carries calls) (n : Nat) (result : TaskResult) (phase : Phase)
    (others : ∀ y ∈ d'.executions, y ∈ d.executions ∨ y.number = n ∧ y.phase = phase) :
    d'.Carries (calls ++ [⟨result, .goOn phase⟩]) := by
  obtain ⟨numbers, length, places⟩ := carries
  refine ⟨numbers ++ [n], by rw [List.length_append, List.length_append, length]; rfl,
    fun y mem reports => ?_⟩
  rcases others y mem with there | ⟨rfl, rfl⟩
  · obtain ⟨i, own, number, call⟩ := places y there reports
    obtain ⟨small, -⟩ := List.getElem?_eq_some_iff.mp number
    obtain ⟨small', -⟩ := List.getElem?_eq_some_iff.mp call
    exact ⟨i, own, (List.getElem?_append_left small).trans number,
      (List.getElem?_append_left small').trans call⟩
  · exact ⟨calls.length, result, length ▸ List.getElem?_concat_length,
      List.getElem?_concat_length⟩

/-- An execution that reports takes its turn. -/
theorem Carries.turns (carries : d.Carries calls) (mem : x ∈ d.executions)
    (reports : x.phase.isHandling = false) :
    ∃ (i : Nat) (own : TaskResult), calls[i]? = some ⟨own, .goOn x.phase⟩ ∧
      ∀ (state : AfterReport) (d' : Dispatcher α),
        (∀ y ∈ d'.executions, y ∈ d.executions ∧ y.number ≠ x.number ∨
          y.number = x.number ∧ state = .goOn y.phase) →
        d'.Carries (calls.set i ⟨own, state⟩) := by
  obtain ⟨numbers, length, places⟩ := carries
  obtain ⟨i, own, number, call⟩ := places x mem reports
  refine ⟨i, own, call, fun state d' others => ⟨numbers, by rw [length, List.length_set],
    fun y mem' reports' => ?_⟩⟩
  rcases others y mem' with ⟨there, apart⟩ | ⟨same, rfl⟩
  · obtain ⟨j, own', number', call'⟩ := places y there reports'
    refine ⟨j, own', number', ?_⟩
    have other : i ≠ j := by
      rintro rfl
      rw [number] at number'
      exact apart (Option.some.inj number').symm
    rw [List.getElem?_set_ne other]
    exact call'
  · refine ⟨i, own, same ▸ number, ?_⟩
    exact List.getElem?_set_self (List.getElem?_eq_some_iff.mp call).1

end Dispatcher

/-! ## Sites -/

namespace Reporters

variable {s s₁ s₂ : Reporters α} {es fs : List (Event α)}

theorem replay_append (first : s.replay es = some s₁) (rest : s₁.replay fs = some s₂) :
    s.replay (es ++ fs) = some s₂ := by
  rw [replay, List.foldlM_append, Option.bind_eq_bind, Option.bind_eq_some_iff]
  exact ⟨s₁, first, rest⟩

theorem replay_one {e : Event α} (step : s.step? e = some s₁) : s.replay [e] = some s₁ := by
  rw [replay, List.foldlM_cons, step]
  rfl

end Reporters

namespace Site

open Dispatcher (Callback)

variable {s₀ s s' : Site α} {e : Event} {es : List Event} {r r₁ : Reporters α}

/-- Whether somebody tells the server what to do with reports. -/
def Event.setsReports : Event → Bool
  | .failReports _ | .rejectReports _ => true
  | _ => false

/-- A site, and calls that do as it does. -/
structure Mirrors (s : Site α) (r : Reporters α) : Prop where
  dispatcher : r.dispatcher = s.host.dispatcher
  server : r.server = s.server
  calls : s.host.dispatcher.Carries r.calls

/-- What else happens with a turn of a call. -/
theorem Mirrors.meanwhile (r₁ : Reporters α)
    (settings : s'.host.dispatcher.settings = r₁.dispatcher.settings)
    (server : s'.server = { r₁.server with
      waiting := s'.server.waiting, polls := s'.server.polls, failPolls := s'.server.failPolls })
    (calls : s'.host.dispatcher.Carries r₁.calls) :
    ∃ e r', r₁.step? e = some r' ∧ s'.Mirrors r' := by
  refine ⟨.meanwhile s'.host.dispatcher s'.server.waiting s'.server.polls s'.server.failPolls,
    { r₁ with dispatcher := s'.host.dispatcher, server := s'.server }, ?_, rfl, rfl, calls⟩
  have same : s'.host.dispatcher.settings.retryPolicy.maxAttempts = r₁.allowed := by
    rw [settings]
    rfl
  simp only [Reporters.step?, if_pos same]
  rw [← server]

/-- A turn of a call, and what else happens with it. -/
theorem Mirrors.turn {f : Reporters.Event α} (first : r.step? f = some r₁)
    (settings : s'.host.dispatcher.settings = r₁.dispatcher.settings)
    (server : s'.server = { r₁.server with
      waiting := s'.server.waiting, polls := s'.server.polls, failPolls := s'.server.failPolls })
    (calls : s'.host.dispatcher.Carries r₁.calls) :
    ∃ fs r', r.replay fs = some r' ∧ s'.Mirrors r' := by
  obtain ⟨e, r', step, mirrors⟩ := Mirrors.meanwhile r₁ settings server calls
  exact ⟨[f] ++ [e], r', Reporters.replay_append (Reporters.replay_one first)
    (Reporters.replay_one step), mirrors⟩

/-- What happens to the host, other than that a report is answered. -/
theorem Mirrors.host {f : Host.Event} (mirrors : s.Mirrors r)
    (step : s.host.step? f = some s'.host)
    (noReport : ∀ n answer told, f ≠ .reportAnswered n answer told)
    (server : s'.server = { s.server with
      waiting := s'.server.waiting, polls := s'.server.polls, failPolls := s'.server.failPolls }) :
    ∃ fs r', r.replay fs = some r' ∧ s'.Mirrors r' := by
  have move := Host.step?_move step
  have settings : s'.host.dispatcher.settings = r.dispatcher.settings := by
    rw [move.settings_eq, mirrors.dispatcher]
  rw [← mirrors.server] at server
  have keeps : (∀ y ∈ s'.host.dispatcher.executions,
      y ∈ s.host.dispatcher.executions ∨ y.phase.isHandling = true) →
        ∃ fs r', r.replay fs = some r' ∧ s'.Mirrors r' := by
    intro old
    obtain ⟨e, r', step, mirrors'⟩ := Mirrors.meanwhile r settings server (mirrors.calls.keeps old)
    exact ⟨[e], r', Reporters.replay_one step, mirrors'⟩
  generalize after : s'.host.dispatcher = d' at move settings keeps
  cases move with
  | aside _ same =>
    refine keeps fun y mem => .inl ?_
    rwa [same.executions] at mem
  | poll _ _ _ taken =>
    obtain ⟨_, _, _, _, rfl⟩ := Dispatcher.acquire?_eq_some taken
    exact keeps fun y mem => .inl mem
  | idle _ | noSlot _ _ _ | noTask _ | pollFailed _ | cut _ _ | pollLost _ =>
    exact keeps fun y mem => .inl mem
  | handOver found =>
    refine keeps fun y mem => (List.mem_append.mp mem).imp_right fun new => ?_
    rw [List.mem_singleton.mp new]
    rfl
  | lostConcluding found _ concluded =>
    obtain ⟨_, rfl⟩ := Dispatcher.conclude_eq concluded
    exact keeps fun y mem => .inl (List.mem_of_mem_filter mem)
  | abandoned _ _ | lost _ => exact keeps fun y mem => .inl (List.mem_of_mem_filter mem)
  | @handled n _ _ _ _ result _ _ found _ concluded =>
    obtain ⟨_, rfl⟩ := Dispatcher.conclude_eq concluded
    have first : r.step? (.begins result) = some { r with
        dispatcher := r.dispatcher.note (.sent r.dispatcher.now 1 result)
        calls := r.calls ++ [⟨result, .goOn (.reporting result 1 r.dispatcher.now)⟩] } := rfl
    refine Mirrors.turn first (after ▸ settings) server ?_
    refine mirrors.calls.begins n result _ fun y mem => ?_
    rw [after] at mem
    refine (Dispatcher.mem_executions_setPhase mem).imp And.left fun same => ⟨same.1, ?_⟩
    rw [same.2, mirrors.dispatcher]
  | @resumes n attempt due result x found stage =>
    simp only [Host.step?, found, stage] at step
    split_ifs at step with late
    obtain ⟨mem, rfl⟩ := Dispatcher.mem_of_execution? found
    obtain ⟨i, own, call, next⟩ := mirrors.calls.turns mem (by rw [stage]; rfl)
    have first : r.step? (.resumes i) = some { r with
        dispatcher := r.dispatcher.note (.sent r.dispatcher.now attempt result)
        calls := r.calls.set i ⟨own, .goOn (.reporting result attempt r.dispatcher.now)⟩ } := by
      rw [stage] at call
      have late : due ≤ r.dispatcher.now := mirrors.dispatcher ▸ late
      simp only [Reporters.step?, call, if_pos late]
      rfl
    refine Mirrors.turn first (after ▸ settings) server (next _ _ fun y mem => ?_)
    rw [after] at mem
    refine (Dispatcher.mem_executions_setPhase mem).imp id fun same => ⟨same.1, ?_⟩
    rw [same.2, mirrors.dispatcher]
  | pauses _ _ _ | delivered _ _ _ => exact absurd rfl (noReport _ _ _)
  | lostTelling _ _ _ _ => exact absurd rfl (noReport _ _ _)

/-- A report is answered. -/
theorem Mirrors.reportServed {n : Nat} {told : Callback Unit} {result : TaskResult}
    (mirrors : s.Mirrors r) (sending : s.host.dispatcher.sending? n = some result)
    (step : s.host.step? (.reportAnswered n (s.server.report result).1 told) = some s'.host)
    (server : s'.server = (s.server.report result).2) :
    ∃ fs r', r.replay fs = some r' ∧ s'.Mirrors r' := by
  obtain ⟨x, found, sends⟩ := Option.bind_eq_some_iff.mp sending
  obtain ⟨attempt, since, stage⟩ : ∃ attempt since, x.phase = .reporting result attempt since := by
    cases phase : x.phase with
    | reporting _ attempt since =>
      rw [phase] at sends
      cases sends
      exact ⟨attempt, since, rfl⟩
    | handling _ | pausing _ _ _ =>
      rw [phase] at sends
      cases sends
  obtain ⟨mem, rfl⟩ := Dispatcher.mem_of_execution? found
  obtain ⟨i, own, call, next⟩ := mirrors.calls.turns mem (by rw [stage]; rfl)
  rw [stage] at call
  have first : r.step? (.answered i) = some {
      dispatcher := (s.host.dispatcher.afterReport result attempt (s.server.report result).1).2
      server := s'.server
      calls := r.calls.set i
        ⟨own, (s.host.dispatcher.afterReport result attempt (s.server.report result).1).1⟩
      answers := r.answers ++ [(i, (s.server.report result).1)] } := by
    simp only [Reporters.step?, call, mirrors.dispatcher, mirrors.server, server]
  have settings := (Host.step?_move step).settings_eq
  simp only [Host.step?, found, stage, Option.some.injEq] at step
  refine Mirrors.turn first ?_ rfl (next _ _ fun y mem' => ?_)
  · exact settings.trans (s.host.dispatcher.settings_afterReport result attempt _).symm
  · rw [← step] at mem'
    exact Dispatcher.mem_executions_reportAnswered mem'

/-- **An event of a site is some events of the calls.** -/
theorem Mirrors.step (mirrors : s.Mirrors r) (step : s.step? e = some s')
    (told : e.setsReports = false) : ∃ fs r', r.replay fs = some r' ∧ s'.Mirrors r' := by
  have unheard (host : s'.host = s.host) (server : s'.server = { s.server with
      waiting := s'.server.waiting, polls := s'.server.polls, failPolls := s'.server.failPolls }) :
      ∃ fs r', r.replay fs = some r' ∧ s'.Mirrors r' := by
    have settings : s'.host.dispatcher.settings = r.dispatcher.settings := by
      rw [host, mirrors.dispatcher]
    obtain ⟨f, r', first, mirrors'⟩ :=
      Mirrors.meanwhile r settings (mirrors.server ▸ server) (host ▸ mirrors.calls)
    exact ⟨[f], r', Reporters.replay_one first, mirrors'⟩
  simp only [Site.step?] at step
  cases e with
  | enqueue _ | failPolls _ =>
    cases step
    exact unheard rfl rfl
  | failReports _ | rejectReports _ => cases told
  | host f =>
    by_cases answer : f.isAnswer = true
    · simp only [effect?, if_pos answer] at step
      cases step
    · simp only [effect?, if_neg answer, Option.map_eq_some_iff] at step
      obtain ⟨host, step, rfl⟩ := step
      refine mirrors.host step ?_ rfl
      rintro n a told rfl
      exact answer rfl
  | pollServed id =>
    simp only [effect?] at step
    cases found : s.host.dispatcher.tick? id with
    | none =>
      rw [found] at step
      cases step
    | some tick =>
      simp only [found, Option.map_some, Option.map_eq_some_iff] at step
      obtain ⟨host, step, rfl⟩ := step
      rcases answered : s.server.poll tick.handler.taskType tick.workerId tick.domain with
        ⟨answer, server⟩
      rw [answered] at step
      refine mirrors.host step (fun _ _ _ same => by cases same) ?_
      rw [Server.poll_record answered]
  | reportServed n told =>
    simp only [effect?] at step
    cases sending : s.host.dispatcher.sending? n with
    | none =>
      rw [sending] at step
      cases step
    | some result =>
      simp only [sending, Option.map_some, Option.map_eq_some_iff] at step
      obtain ⟨host, step, rfl⟩ := step
      exact mirrors.reportServed sending step rfl

/-- **All that happens in a site is a course of calls**, as long as nobody tells the server what to
do with reports. -/
theorem reporters_of_replay (fresh : ∀ x ∈ s₀.host.dispatcher.executions, x.phase.isHandling = true)
    (told : ∀ e ∈ es, e.setsReports = false) (run : s₀.replay es = some s) :
    ∃ fs r, Reporters.replay ⟨s₀.host.dispatcher, s₀.server, [], []⟩ fs = some r ∧
      s.Mirrors r := by
  refine snocInduction (P := fun es s => (∀ e ∈ es, e.setsReports = false) →
    ∃ fs r, Reporters.replay ⟨s₀.host.dispatcher, s₀.server, [], []⟩ fs = some r ∧
      s.Mirrors r) (fun _ => ?_) (fun {es s s' e} _ ih step told => ?_) run told
  · refine ⟨[], _, rfl, rfl, rfl, [], rfl, fun x mem reports => ?_⟩
    rw [fresh x mem] at reports
    cases reports
  · obtain ⟨fs, r, run, mirrors⟩ := ih fun f mem => told f (List.mem_append_left _ mem)
    obtain ⟨gs, r', rest, mirrors'⟩ :=
      mirrors.step step (told e (List.mem_append_right _ List.mem_cons_self))
    exact ⟨fs ++ gs, r', Reporters.replay_append run rest, mirrors'⟩

/-- **The failures of a server add up in a site.** Each report that does not fail is recorded, each
one that fails uses up one failure, and none is recorded while a failure is left. -/
theorem failures_add_up (fresh : ∀ x ∈ s₀.host.dispatcher.executions, x.phase.isHandling = true)
    (accepting : s₀.server.rejectReports = false) (told : ∀ e ∈ es, e.setsReports = false)
    (run : s₀.replay es = some s) :
    ∃ used taken, used + s.server.failingReports.toNat = s₀.server.failingReports.toNat ∧
      s.server.reported.length = s₀.server.reported.length + taken ∧
      s.server.reportAttempts = s₀.server.reportAttempts + used + taken ∧
      (taken ≠ 0 → s.server.failingReports = 0) := by
  obtain ⟨fs, r, course, mirrors⟩ := reporters_of_replay fresh told run
  obtain ⟨used, taken, shared⟩ := (Reporters.Shared.start rfl rfl accepting).run course
  rw [← mirrors.server]
  refine ⟨used, taken, shared.budget, ?_, shared.attempts, shared.late⟩
  rw [shared.reported, List.length_append, shared.length]

end Site

/-! ## Reports by hand -/

/-- **A report by hand is a call of its own**: it takes its turns as the calls do. -/
theorem World.reporters_of_runErrand? {w w' : World} {result : TaskResult} {phase : Phase}
    {answers : List (Nat × Except ServerError Unit)} (report : w.errand = .report phase)
    (acts : w.runErrand? = some w') :
    ∃ (e : Reporters.Event Script) (r : Reporters Script) (state : AfterReport),
      Reporters.step? ⟨w.host.dispatcher, w.server, [⟨result, .goOn phase⟩], answers⟩ e = some r ∧
        r.dispatcher = w'.host.dispatcher ∧ r.server = w'.server ∧
        r.calls = [⟨result, state⟩] ∧
        w'.errand = (match state with
          | .goOn phase => .report phase
          | .over outcome => .delivered outcome) := by
  simp only [World.runErrand?, report] at acts
  split_ifs at acts with early
  cases phase with
  | handling since => cases acts
  | reporting own attempt since =>
    simp only [World.receive] at acts
    rcases after : w.host.dispatcher.afterReport own attempt (w.server.report own).1 with ⟨state, d⟩
    have step : Reporters.step? ⟨w.host.dispatcher, w.server,
        [⟨result, .goOn (.reporting own attempt since)⟩], answers⟩ (.answered 0) =
          some ⟨d, (w.server.report own).2, [⟨result, state⟩],
            answers ++ [(0, (w.server.report own).1)]⟩ := by
      simp only [Reporters.step?, List.getElem?_cons_zero, after, List.set_cons_zero]
    rw [after] at acts
    refine ⟨_, _, state, step, ?_⟩
    cases state
    all_goals
      cases acts
      exact ⟨rfl, rfl, rfl, rfl⟩
  | pausing own attempt due =>
    have late : due ≤ w.now := by simpa [World.errandDue?, report] using early
    have step : Reporters.step? ⟨w.host.dispatcher, w.server,
        [⟨result, .goOn (.pausing own attempt due)⟩], answers⟩ (.resumes 0) =
          some ⟨w.host.dispatcher.note (.sent w.host.dispatcher.now attempt own), w.server,
            [⟨result, .goOn (.reporting own attempt w.host.dispatcher.now)⟩], answers⟩ :=
      if_pos late
    cases acts
    exact ⟨_, _, .goOn _, step, rfl, rfl, rfl, rfl⟩

end TaskWorker
