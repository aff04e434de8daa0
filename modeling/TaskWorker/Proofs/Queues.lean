import Mathlib.Data.List.Forall2
import TaskWorker.Proofs.Sites
/-!
# Queues of a server

A server keeps all its tasks in one line, and a poll takes the first task in it that is of its type
and domain. So the tasks of each type and domain are a queue of their own: whatever the server is
asked and told, polls get the tasks of a queue in the order in which they came, each of them once,
and what happens in one queue is not felt in another.

* `Server.Call`, what a server can be asked and told; `Server.after`, the server after some calls;
  `Server.answers`, what the polls among them got;
* `Server.handed`, the tasks that came of polls; `Server.HandedTo`, what became of them;
* `Server.Account`, what came in and went out between two states of a server;
  **`Server.account_call`**, **`Server.account_after`**: there is one for every call and for all;
* **`Server.queues_keep_order`**.
-/

namespace TaskWorker

/-- Whether a poll is for tasks of a type and a domain. -/
def PollRecord.isFor (taskType : String) (domain : Option String) (r : PollRecord) : Bool :=
  r.taskType == taskType && r.domain == domain

namespace Server

/-! ## Calls of a server -/

/-- What a server answers to a poll. -/
abbrev Answer := Except ServerError (Option Task)

/-- The task that an answer brings. -/
def taskOf? (answer : Answer) : Option Task := answer.toOption.join

/-- What a server can be asked and told, but for clearing it. -/
inductive Call where
  | enqueue (task : Task)
  | poll (record : PollRecord)
  | report (result : TaskResult)
  | failPolls (b : Bool)
  | failReports (n : UInt32)
  | rejectReports (b : Bool)

/-- The task that a call brings. -/
def Call.task? : Call → Option Task
  | .enqueue task => some task
  | _ => none

/-- The poll that a call is. -/
def Call.poll? : Call → Option PollRecord
  | .poll record => some record
  | _ => none

/-- The server after a call. -/
def call (s : Server) : Call → Server
  | .enqueue task => s.enqueue task
  | .poll r => (s.poll r.taskType r.workerId r.domain).2
  | .report result => (s.report result).2
  | .failPolls b => { s with failPolls := b }
  | .failReports n => { s with failingReports := n }
  | .rejectReports b => { s with rejectReports := b }

/-- A poll with its answer, if a call is a poll. -/
def answer? (s : Server) : Call → Option (PollRecord × Answer)
  | .poll r => some (r, (s.poll r.taskType r.workerId r.domain).1)
  | _ => none

/-- The server after some calls. -/
def after (s : Server) (cs : List Call) : Server := cs.foldl call s

/-- The polls among some calls with their answers, in their order. -/
def answers (s : Server) : List Call → List (PollRecord × Answer)
  | [] => []
  | c :: cs => (s.answer? c).toList ++ (s.call c).answers cs

/-- The polls among some calls, in their order. -/
def polled (cs : List Call) : List PollRecord := cs.filterMap Call.poll?

/-- The tasks that some calls bring for a type and a domain, in their order. -/
def enqueued (taskType : String) (domain : Option String) (cs : List Call) : List Task :=
  (cs.filterMap Call.task?).filter (isFor taskType domain)

/-- The tasks that came of some polls, in their order and with the workers they went to. -/
def handed (counts : PollRecord → Bool) (answers : List (PollRecord × Answer)) :
    List (String × Task) :=
  (answers.filter fun a => counts a.1).filterMap fun a =>
    (taskOf? a.2).map fun task => (a.1.workerId, task)

/-- A task as a worker gets it: it is counted once more and bears the name of the worker, and
nothing else of it changes. -/
structure HandedTo (task : Task) (h : String × Task) : Prop where
  same : h.2 = { task with pollCount := h.2.pollCount, workerId := some h.1 }
  counted : task.pollCount.toNat + 1 < UInt32.size →
    h.2.pollCount.toNat = task.pollCount.toNat + 1

variable {s s' s'' : Server} {r : PollRecord} {answer : Answer} {t : String} {d : Option String}
  {given given' : List Task} {as as' : List (PollRecord × Answer)} {counts : PollRecord → Bool}

theorem handedTo_handOut (task : Task) (w : String) : HandedTo task (w, handOut task w) :=
  ⟨rfl, pollCount_handOut w⟩

theorem handed_append (counts : PollRecord → Bool) (as as' : List (PollRecord × Answer)) :
    handed counts (as ++ as') = handed counts as ++ handed counts as' := by
  rw [handed, List.filter_append, List.filterMap_append, handed, handed]

theorem handed_some (task : Task) : handed counts [(r, .ok (some task))] =
    if counts r then [(r.workerId, task)] else [] := by
  rw [handed, List.filter_singleton]
  cases counts r <;> rfl

theorem handed_of_other (other : counts r = false) : handed counts [(r, answer)] = [] := by
  rw [handed, List.filter_singleton, other]
  rfl

theorem handed_of_nothing (nothing : taskOf? answer = none) : handed counts [(r, answer)] = [] := by
  cases counted : counts r with
  | false => exact handed_of_other counted
  | true =>
    rw [handed, List.filter_singleton, counted, cond_true,
      List.filterMap_cons_none (by rw [nothing]; rfl), List.filterMap_nil]

/-! ## What a poll does -/

/-- A task that a poll may draw is of the queues that the poll is for. -/
theorem isFor_of_own {task : Task} (own : isFor r.taskType r.domain task = true) :
    isFor t d task = r.isFor t d := by
  obtain ⟨type, domain⟩ := isFor_iff.mp own
  rw [isFor, type, domain, PollRecord.isFor]

/-- **A poll takes the first task from the queue that it is for,** or nothing at all. -/
theorem Polled.queue (polled : s.Polled r answer s') (t : String) (d : Option String) :
    ∃ drawn, s.queue t d = drawn ++ s'.queue t d ∧
      List.Forall₂ HandedTo drawn (handed (·.isFor t d) [(r, answer)]) := by
  cases polled with
  | failed | empty =>
    rw [handed_of_nothing rfl]
    exact ⟨[], rfl, .nil⟩
  | @drawn task before behind _ waiting own first =>
    unfold Server.queue
    rw [handed_some, waiting, filter_drawn own first]
    refine ⟨[task].filter (isFor t d), rfl, ?_⟩
    rw [List.filter_singleton, isFor_of_own own]
    cases r.isFor t d with
    | true => exact .cons (handedTo_handOut task _) .nil
    | false => exact .nil

theorem Polled.queue_eq (polled : s.Polled r answer s')
    (apart : taskOf? answer = none ∨ r.isFor t d = false) : s'.queue t d = s.queue t d := by
  obtain ⟨drawn, queue, went⟩ := polled.queue t d
  have nothing : handed (·.isFor t d) [(r, answer)] = [] :=
    apart.elim handed_of_nothing handed_of_other
  rw [nothing] at went
  cases went
  exact queue.symm

theorem Polled.eq_error_iff (polled : s.Polled r answer s') :
    (∃ e, answer = .error e) ↔ s.failPolls = true := by
  cases polled with
  | failed fails => exact ⟨fun _ => fails, fun _ => ⟨_, rfl⟩⟩
  | empty works | drawn works => simp [works]

/-- A poll gets no task exactly if it is answered and its queue is empty. -/
theorem Polled.eq_none_iff (polled : s.Polled r answer s') :
    answer = .ok none ↔ s.failPolls = false ∧ s.queue r.taskType r.domain = [] := by
  cases polled with
  | failed fails => simp [fails]
  | empty works nobody => exact ⟨fun _ => ⟨works, nobody⟩, fun _ => rfl⟩
  | @drawn task before behind _ waiting own _ =>
    refine ⟨nofun, fun ⟨_, nobody⟩ => ?_⟩
    have first : task ∈ s.queue r.taskType r.domain :=
      List.mem_filter.mpr ⟨by rw [waiting]; exact List.mem_append_cons_self, own⟩
    rw [nobody] at first
    cases first

theorem Polled.pending (polled : s.Polled r answer s') (t : String) :
    s.pending t = (handed (·.taskType == t) [(r, answer)]).length + s'.pending t := by
  cases polled with
  | failed | empty =>
    rw [handed_of_nothing rfl, List.length_nil, Nat.zero_add]
    rfl
  | @drawn task before behind _ waiting own _ =>
    obtain ⟨type, -⟩ := isFor_iff.mp own
    unfold Server.pending
    rw [handed_some, waiting, List.countP_append, List.countP_append, List.countP_cons, type]
    split_ifs
    · rw [List.length_singleton]
      omega
    · rw [List.length_nil]
      omega

theorem Polled.polls (polled : s.Polled r answer s') : s'.polls = s.polls ++ [r] := by
  cases polled <;> rfl

/-! ## What comes in and goes out -/

/-- What came in and went out between two states of a server: the first tasks of each queue went out
to polls, the others are there, and all polls were seen. -/
structure Account (s : Server) (given : List Task) (as : List (PollRecord × Answer))
    (s' : Server) : Prop where
  queue : ∀ t d, ∃ drawn, s.queue t d ++ given.filter (isFor t d) = drawn ++ s'.queue t d ∧
    List.Forall₂ HandedTo drawn (handed (·.isFor t d) as)
  pending : ∀ t, s.pending t + given.countP (·.type == t) =
    (handed (·.taskType == t) as).length + s'.pending t
  polls : s'.polls = s.polls ++ as.map Prod.fst

theorem Account.of_waiting (waiting : s'.waiting = s.waiting ++ given)
    (polls : s'.polls = s.polls) : Account s given [] s' := by
  refine ⟨fun t d => ⟨[], ?_, .nil⟩, fun t => ?_, ?_⟩
  · rw [Server.queue, Server.queue, waiting, List.filter_append, List.nil_append]
  · rw [Server.pending, Server.pending, waiting, List.countP_append]
    exact (Nat.zero_add _).symm
  · rw [polls, List.map_nil, List.append_nil]

theorem Account.of_polled (polled : s.Polled r answer s') : Account s [] [(r, answer)] s' := by
  refine ⟨fun t d => ?_, polled.pending, polled.polls⟩
  rw [List.filter_nil, List.append_nil]
  exact polled.queue t d

theorem Account.trans (first : Account s given as s') (later : Account s' given' as' s'') :
    Account s (given ++ given') (as ++ as') s'' := by
  refine ⟨fun t d => ?_, fun t => ?_, ?_⟩
  · obtain ⟨drawn, queue, went⟩ := first.queue t d
    obtain ⟨drawn', queue', went'⟩ := later.queue t d
    refine ⟨drawn ++ drawn', ?_, ?_⟩
    · rw [List.filter_append, ← List.append_assoc, queue, List.append_assoc, queue',
        List.append_assoc]
    · rw [handed_append]
      exact List.rel_append went went'
  · have out := first.pending t
    have out' := later.pending t
    rw [List.countP_append, handed_append, List.length_append]
    omega
  · rw [later.polls, first.polls, List.map_append, List.append_assoc]

/-- **Every call has its account.** -/
theorem account_call (s : Server) (c : Call) :
    Account s c.task?.toList (s.answer? c).toList (s.call c) := by
  cases c with
  | enqueue task => exact .of_waiting rfl rfl
  | poll r => exact .of_polled (polled_poll s r)
  | report result =>
    have kept : (s.report result).2.waiting = s.waiting := (report_eq rfl).1
    refine .of_waiting (kept.trans (List.append_nil _).symm) ?_
    rw [call, report]
    split_ifs <;> rfl
  | failPolls | failReports | rejectReports => exact .of_waiting (List.append_nil _).symm rfl

/-- **So have any calls, one after another.** -/
theorem account_after (s : Server) (cs : List Call) :
    Account s (cs.filterMap Call.task?) (s.answers cs) (s.after cs) := by
  induction cs generalizing s with
  | nil => exact .of_waiting (List.append_nil _).symm rfl
  | cons c cs ih =>
    have all := (account_call s c).trans (ih (s.call c))
    have given : (c :: cs).filterMap Call.task? =
        c.task?.toList ++ cs.filterMap Call.task? := by
      rw [List.filterMap_cons]
      cases c.task? <;> rfl
    rw [given]
    exact all

theorem answers_polled (s : Server) (cs : List Call) :
    (s.answers cs).map Prod.fst = polled cs := by
  induction cs generalizing s with
  | nil => rfl
  | cons c cs ih =>
    rw [answers, List.map_append, ih]
    cases c <;> rfl

/-! ## The queues of a server -/

/-- The tasks that came of the polls for a type and a domain, when a new server gets some calls. -/
def drawn (taskType : String) (domain : Option String) (cs : List Call) : List (String × Task) :=
  handed (·.isFor taskType domain) (new.answers cs)

theorem exists_drawn (t : String) (d : Option String) (cs : List Call) : ∃ tasks,
    enqueued t d cs = tasks ++ (new.after cs).queue t d ∧
      List.Forall₂ HandedTo tasks (drawn t d cs) :=
  (account_after new cs).queue t d

theorem length_drawn_add (t : String) (d : Option String) (cs : List Call) :
    (drawn t d cs).length + ((new.after cs).queue t d).length = (enqueued t d cs).length := by
  obtain ⟨tasks, split, went⟩ := exists_drawn t d cs
  rw [split, List.length_append, went.length_eq]

/-- **How polls and queues go together.** When a new server has got some calls, the polls for a type
and a domain got the first tasks that came for these, in the same order, and the others wait. The
next poll fails exactly if polls are to fail; it gets no task exactly if it does not fail and all
that came are gone. It takes nothing from a queue that it is not for, and nothing at all if it gets
no task. The tasks of a type are those that wait and those that polls got, and all polls are
seen. -/
theorem queues_keep_order (cs : List Call) :
    (∀ t d, List.Forall₂ HandedTo ((enqueued t d cs).take (drawn t d cs).length) (drawn t d cs) ∧
      (new.after cs).queue t d = (enqueued t d cs).drop (drawn t d cs).length) ∧
    (∀ t w d,
      ((∃ e, ((new.after cs).poll t w d).1 = .error e) ↔ (new.after cs).failPolls = true) ∧
      (((new.after cs).poll t w d).1 = .ok none ↔ (new.after cs).failPolls = false ∧
        (drawn t d cs).length = (enqueued t d cs).length)) ∧
    (∀ t w d t' d', taskOf? ((new.after cs).poll t w d).1 = none ∨ t ≠ t' ∨ d ≠ d' →
      ((new.after cs).poll t w d).2.queue t' d' = (new.after cs).queue t' d') ∧
    (∀ t, (new.after cs).pending t + (handed (·.taskType == t) (new.answers cs)).length =
      (cs.filterMap Call.task?).countP (·.type == t)) ∧
    (new.after cs).polls = polled cs ∧ (new.answers cs).map Prod.fst = polled cs := by
  have next (t w : String) (d : Option String) :
      (new.after cs).Polled ⟨t, w, d⟩ ((new.after cs).poll t w d).1 ((new.after cs).poll t w d).2 :=
    polled_poll (new.after cs) ⟨t, w, d⟩
  refine ⟨fun t d => ?_, fun t w d => ⟨(next t w d).eq_error_iff, ?_⟩, fun t w d t' d' apart => ?_,
    fun t => ?_, ?_, answers_polled new cs⟩
  · obtain ⟨tasks, split, went⟩ := exists_drawn t d cs
    rw [split, ← went.length_eq, List.take_left, List.drop_left]
    exact ⟨went, rfl⟩
  · rw [(next t w d).eq_none_iff, ← length_drawn_add t d cs, Nat.left_eq_add,
      List.length_eq_zero_iff]
  · refine (next t w d).queue_eq (apart.imp_right fun other => ?_)
    simpa [PollRecord.isFor, or_iff_not_imp_left] using other
  · have out := (account_after new cs).pending t
    have nobody : new.pending t = 0 := rfl
    omega
  · rw [(account_after new cs).polls, answers_polled]
    rfl

end Server

end TaskWorker
