import TaskWorker.Proofs.Glimpses
/-!
# Task types do not disturb each other

In a replay the lane of a type follows the marks that the acts are for it, and what is seen of the
type is what the lane shows of them. So two replays show the same of a type if the type heard the
same calls in them, whatever the handlers of other types did.

* `Passage`, what one act did; `Surroundings.history`, what the acts of a replay did;
* `sightsOf`, what is seen of a type; `heardBy`, the calls that a type hears of; `Watch.marks`;
* **`Watched.follows`**: a replay as a type sees it;
* `Surroundings.Alike`, alike in all that has to do with a type; **`types_isolated`**.
-/

namespace TaskWorker

variable {α : Type}

/-! ## Histories -/

/-- What one act did in a replay. -/
structure Passage (α : Type) where
  before : Site α
  act : Act
  event : Site.Event
  after : Site α

/-- What the acts of a replay did. -/
def Surroundings.history (env : Surroundings α) : Site α → List Act → List (Passage α)
  | _, [] => []
  | s, a :: as =>
    match env.step? s a with
    | none => []
    | some (e, s') => ⟨s, a, e, s'⟩ :: env.history s' as

/-- What is seen of a type in a history. -/
def sightsOf (t : String) (l : List (Passage α)) : List (Nat × Sight) :=
  l.flatMap fun p => (p.before.seen p.after p.event t).map (p.before.host.now, ·)

/-- The call that an act is, if a type hears of it. -/
def Act.heardBy? (t : String) : Act → Option Call
  | .call c => if c.concerns t then some c else none
  | _ => none

/-- The calls of a history that a type hears of. -/
def heardBy (t : String) (l : List (Passage α)) : List (Nat × Call) :=
  l.filterMap fun p => (p.act.heardBy? t).map (p.before.host.now, ·)

/-- The marks that a history is for a type. -/
def Watch.marks (t : String) : Watch → List (Passage α) → List (Nat × Mark)
  | _, [] => []
  | w, p :: l =>
    let m := w.mark? p.before t p.act
    (m.map (p.before.host.now, ·)).toList ++ marks t (w.after p.before p.after m) l

/-! ## A replay as a type sees it -/

section Replay

variable {env : Surroundings α} {w : Watch} {s s' : Site α} {t : String} {as : List Act}

theorem Watched.start {handlers : List (Handler α)} {settings : Settings} {h₀ : Host α}
    (built : Host.build handlers settings = .ok h₀) (t : String) :
    Watched .start (Site.start h₀) t := by
  obtain ⟨hs, a, rfl, -⟩ := Host.build_eq_ok built
  have reached : (Host.assemble hs a settings).Reachable :=
    ⟨handlers, settings, _, [], built, .nil _⟩
  refine ⟨reached, ⟨rfl, rfl⟩, fun x mem => ?_, fun n mem => ?_⟩
  · cases mem
  · cases mem

/-- **A replay as a type sees it:** its lane follows the marks, and shows what is seen. -/
theorem Watched.follows (watched : Watched w s t) (run : env.replay s as = some s') :
    (w.lane s t).Follows (env.only t) s.host.now (w.marks t (env.history s as)) s'.host.now ∧
      sightsOf t (env.history s as) =
        (w.lane s t).views (env.only t) (w.marks t (env.history s as)) := by
  induction as generalizing w s with
  | nil =>
    cases run
    exact ⟨Lane.idle_of_eq rfl, rfl⟩
  | cons a as ih =>
    simp only [Surroundings.replay] at run
    split at run
    · cases run
    · rename_i e s₁ happens
      obtain ⟨follows, seen⟩ := ih (watched.step happens) run
      have glimpse := Surroundings.glimpse watched happens
      have history : env.history s (a :: as) = ⟨s, a, e, s₁⟩ :: env.history s₁ as := by
        simp only [Surroundings.history, happens]
      rw [history, Watch.marks, sightsOf, List.flatMap_cons, ← sightsOf, seen]
      revert glimpse follows
      generalize w.mark? s t a = m
      intro follows glimpse
      cases glimpse with
      | blank idle lane unseen =>
        have unchanged : (w.after s s₁ none).lane s₁ t = w.lane s t := lane
        rw [unchanged] at follows ⊢
        rw [unseen]
        exact ⟨follows.of_idle idle, rfl⟩
      | mark now allows lane shown =>
        rw [lane] at follows ⊢
        rw [now] at follows
        rw [shown]
        exact ⟨⟨Lane.idle_of_eq rfl, allows, follows⟩, rfl⟩

end Replay

/-! ## Calls among marks -/

/-- A call that a type hears of is the next one, and no other act is a call. -/
theorem Watch.mark?_calls (w : Watch) (s : Site α) (t : String) (a : Act) :
    (∃ c, a.heardBy? t = some c ∧ w.mark? s t a = some (.call w.calls c)) ∨
      (a.heardBy? t = none ∧ ∀ m, w.mark? s t a = some m → m.isCall = false) := by
  cases a with
  | elapse _ =>
    refine .inr ⟨rfl, fun m mark => ?_⟩
    cases mark
  | call c =>
    simp only [Act.heardBy?, mark?]
    split_ifs
    · exact .inl ⟨c, rfl, rfl⟩
    · refine .inr ⟨rfl, fun m mark => ?_⟩
      cases mark
  | tick u =>
    refine .inr ⟨rfl, fun m mark => ?_⟩
    simp only [mark?] at mark
    split_ifs at mark
    cases mark
    rfl
  | served _ | done _ _ | reported _ =>
    refine .inr ⟨rfl, fun m mark => ?_⟩
    simp only [mark?] at mark
    split at mark
    · split_ifs at mark
      cases mark
      rfl
    · cases mark

theorem Watch.calls_after {w : Watch} {s s' : Site α} {m : Option Mark}
    (noCall : ∀ m', m = some m' → m'.isCall = false) : (w.after s s' m).calls = w.calls := by
  rcases m with _ | m
  · rfl
  · cases m with
    | call k c => cases noCall _ rfl
    | served =>
      rw [after]
      split_ifs <;> rfl
    | tick | done _ | reported _ => rfl

/-- The calls among the marks of a history are those that the type hears of. -/
theorem Watch.callsOf_marks (w : Watch) (t : String) (l : List (Passage α)) :
    callsOf (w.marks t l) = numbered w.calls (heardBy t l) := by
  induction l generalizing w with
  | nil => rfl
  | cons p l ih =>
    have heardBy_cons : heardBy t (p :: l) =
        ((p.act.heardBy? t).map (p.before.host.now, ·)).toList ++ heardBy t l := by
      rw [heardBy, List.filterMap_cons]
      cases p.act.heardBy? t <;> rfl
    rw [marks, callsOf, List.filter_append, ← callsOf, ← callsOf, ih, heardBy_cons]
    rcases w.mark?_calls p.before t p.act with ⟨c, heard, mark⟩ | ⟨unheard, noCall⟩
    · rw [heard, mark]
      rfl
    · rw [unheard, calls_after noCall]
      cases mark : w.mark? p.before t p.act with
      | none => rfl
      | some m =>
        have skipped : callsOf [(p.before.host.now, m)] = [] := by
          rw [callsOf, List.filter_cons_of_neg (by simp [noCall m mark]), List.filter_nil]
        exact congrArg (· ++ numbered w.calls (heardBy t l)) skipped

/-- The calls that a type hears of in a replay come in the order of their times. -/
theorem Watched.sorted_heardBy {env : Surroundings α} {w : Watch} {s s' : Site α} {t : String}
    {as : List Act} (watched : Watched w s t) (run : env.replay s as = some s') :
    ((heardBy t (env.history s as)).map Prod.fst).Pairwise (· ≤ ·) := by
  have sorted := (watched.follows run).1.pairwise.filter fun e => e.2.isCall
  rw [← callsOf, Watch.callsOf_marks] at sorted
  rw [← fst_numbered w.calls]
  exact List.pairwise_map.mpr sorted

/-- The calls among the marks before a time are the calls before it. -/
theorem Watched.callsOf_upTo {env : Surroundings α} {w : Watch} {s s' : Site α} {t : String}
    {as : List Act} (watched : Watched w s t) (run : env.replay s as = some s') (time : Nat) :
    callsOf (upTo time (w.marks t (env.history s as))) =
      numbered w.calls (upTo time (heardBy t (env.history s as))) := by
  rw [← upTo_numbered time (watched.sorted_heardBy run), ← Watch.callsOf_marks]
  exact List.filter_comm _ _ _

/-! ## Two replays -/

/-- Surroundings that are alike in all that has to do with a type. Log times do not matter. -/
structure Surroundings.Alike (env env' : Surroundings α) (t : String) : Prop where
  paused : ∀ g : Handler α, g.taskType = t → ∀ now, env.paused g now = env'.paused g now
  identity : ∀ g : Handler α, g.taskType = t → ∀ now, env.identity g now = env'.identity g now
  pollDelay : ∀ g : Handler α, g.taskType = t → ∀ since,
    env.pollDelay g since = env'.pollDelay g since
  reportDelay : ∀ g : Handler α, g.taskType = t → ∀ since,
    env.reportDelay g since = env'.reportDelay g since
  work : ∀ g : Handler α, g.taskType = t → ∀ task since,
    (env.work g task since).1 = (env'.work g task since).1 ∧
      (env.work g task since).2.untimed = (env'.work g task since).2.untimed

variable {env env' : Surroundings α} {t : String}

theorem Surroundings.Alike.only_eq (alike : env.Alike env' t) : env.only t = env'.only t := by
  rw [only, only, mk.injEq]
  refine ⟨?_, ?_, ?_, ?_, ?_⟩
  · funext g now
    by_cases own : g.taskType = t
    · rw [alike.paused g own]
    · simp only [own, decide_false, Bool.false_and]
  · funext g now
    split_ifs with own
    · exact alike.identity g own now
    · rfl
  · funext g since
    split_ifs with own
    · exact alike.pollDelay g own since
    · rfl
  · funext g since
    split_ifs with own
    · exact alike.reportDelay g own since
    · rfl
  · funext g task since
    split_ifs with own
    · rw [(alike.work g own task since).1, (alike.work g own task since).2]
    · rfl

/-- **Task types are isolated.** Two replays of a host show the same of a task type up to a time if
the surroundings are alike in what has to do with the type, the type heard the same calls, and what
falls on one instant came in the same order. -/
theorem types_isolated {handlers : List (Handler α)} {settings : Settings} {h₀ : Host α}
    (built : Host.build handlers settings = .ok h₀) (alike : env.Alike env' t)
    {as as' : List Act} {s s' : Site α} (run : env.replay (.start h₀) as = some s)
    (run' : env'.replay (.start h₀) as' = some s') {time : Nat} (reached : time ≤ s.host.now)
    (reached' : time ≤ s'.host.now)
    (calls : upTo time (heardBy t (env.history (.start h₀) as)) =
      upTo time (heardBy t (env'.history (.start h₀) as')))
    (ties : SameOrder time (Watch.start.marks t (env.history (.start h₀) as))
      (Watch.start.marks t (env'.history (.start h₀) as'))) :
    upTo time (sightsOf t (env.history (.start h₀) as)) =
      upTo time (sightsOf t (env'.history (.start h₀) as')) := by
  obtain ⟨follows, seen⟩ := (Watched.start built t).follows run
  obtain ⟨follows', seen'⟩ := (Watched.start built t).follows run'
  rw [← alike.only_eq] at follows' seen'
  have sameCalls : callsOf (upTo time (Watch.start.marks t (env.history (.start h₀) as))) =
      callsOf (upTo time (Watch.start.marks t (env'.history (.start h₀) as'))) := by
    rw [(Watched.start built t).callsOf_upTo run, (Watched.start built t).callsOf_upTo run', calls]
  have sameMarks := follows.upTo_eq follows' reached reached' sameCalls ties
  rw [seen, seen', follows.upTo_views, follows'.upTo_views, sameMarks]

/-! ## A host with two types -/

def samplePair : Host Unit :=
  .assemble [Host.sampleHandler, ⟨"letter", .ofMillis 700, ()⟩] (.split ["parcel", "letter"] 2)
    (.standard "0")

theorem build_samplePair :
    Host.build [Host.sampleHandler, ⟨"letter", .ofMillis 700, ()⟩] (.standard "0") =
      .ok samplePair := by rfl

/-- Parcels take a while and are done; letters are what they are said to be. -/
def sampleSurroundings (letters : Nat × Outcome) : Surroundings Unit :=
  { paused := fun _ _ => false
    identity := fun _ _ => none
    pollDelay := fun _ _ => 10
    reportDelay := fun _ _ => 20
    work := fun g task _ =>
      if g.taskType = "parcel" then (50, .returned (.completed task .null)) else letters }

/-- A letter and a parcel come in, and the letter is polled for. -/
def sampleMorning : List Act :=
  [.call (.init true), .elapse 100, .call (.enqueue Host.sampleTask), .elapse 100,
    .call (.enqueue (.new "l1" "letter" "w1" .null)), .elapse 500, .tick "letter", .elapse 10,
    .served 0]

/-- The parcel is polled for and done. -/
def sampleParcel : List Act :=
  [.tick "parcel", .elapse 10, .served 1, .elapse 50, .done 2 .epoch, .elapse 20, .reported 2]

/-- Letters fail at once. -/
def sampleShort : Surroundings Unit := sampleSurroundings (5, .failed (.retryable "torn"))

/-- Letters take long and panic. -/
def sampleLong : Surroundings Unit := sampleSurroundings (400, .panicked .other)

def sampleShortActs : List Act :=
  sampleMorning ++ [.elapse 5, .done 1 .epoch, .elapse 20, .reported 1, .elapse 265] ++
    sampleParcel ++ [.elapse 20]

def sampleLongActs : List Act :=
  sampleMorning ++ [.elapse 290] ++ sampleParcel ++ [.elapse 30, .done 1 .epoch]

def sampleShortEnd : Site Unit :=
  (sampleShort.replay (.start samplePair) sampleShortActs).get (by decide)

def sampleLongEnd : Site Unit :=
  (sampleLong.replay (.start samplePair) sampleLongActs).get (by decide)

/-- Parcels do not notice what becomes of the letter: a poll, a result and two changes of the busy
slots are seen of them either way. -/
theorem sample_types_isolated :
    upTo 1100 (sightsOf "parcel" (sampleShort.history (.start samplePair) sampleShortActs)) =
        upTo 1100 (sightsOf "parcel" (sampleLong.history (.start samplePair) sampleLongActs)) ∧
      (upTo 1100 (sightsOf "parcel" (sampleShort.history (.start samplePair)
        sampleShortActs))).map Prod.fst = [1000, 1010, 1010, 1080, 1080] ∧
      (upTo 1100 (sightsOf "letter" (sampleShort.history (.start samplePair)
        sampleShortActs))).length = 5 ∧
      (upTo 1100 (sightsOf "letter" (sampleLong.history (.start samplePair)
        sampleLongActs))).length = 3 := by
  have run : sampleShort.replay (.start samplePair) sampleShortActs = some sampleShortEnd :=
    (Option.some_get _).symm
  have run' : sampleLong.replay (.start samplePair) sampleLongActs = some sampleLongEnd :=
    (Option.some_get _).symm
  have alike : sampleShort.Alike sampleLong "parcel" := by
    refine ⟨fun _ _ _ => rfl, fun _ _ _ => rfl, fun _ _ _ => rfl, fun _ _ _ => rfl, ?_⟩
    intro g own task since
    simp only [sampleShort, sampleLong, sampleSurroundings, if_pos own, and_self]
  have ties : SameOrder 1100
      (Watch.start.marks "parcel" (sampleShort.history (.start samplePair) sampleShortActs))
      (Watch.start.marks "parcel" (sampleLong.history (.start samplePair) sampleLongActs)) :=
    .of_nodup (by decide)
  have calls : upTo 1100 (heardBy "parcel" (sampleShort.history (.start samplePair) sampleShortActs)) =
      upTo 1100 (heardBy "parcel" (sampleLong.history (.start samplePair) sampleLongActs)) := by rfl
  refine ⟨types_isolated build_samplePair alike run run' (by decide) (by decide) calls ties,
    ?_, ?_, ?_⟩
  · decide
  · decide
  · decide

end TaskWorker
