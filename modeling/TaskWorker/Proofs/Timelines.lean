import TaskWorker.Proofs.Lanes
/-!
# Marks at their times

On an exact clock a lane goes through its marks when they are due, so that nothing is late. Calls
come when they like, and what falls on one instant comes in any order; these two settle the rest.

* `Lane.Follows`, marks at their times up to a time; `Lane.views`, what is seen of them;
* `upTo`, what happens before a time; `callsOf`, the calls; `SameOrder`, one order within instants;
* **`Lane.Follows.upTo_eq`**: two sequences with the same calls and one order are the same;
* `numbered`, calls with their places.
-/

namespace TaskWorker

variable {α : Type}

namespace Lane

variable {env : Surroundings α} {L : Lane α} {now : Nat} {m m' : Mark}

/-! ## Marks at their times -/

/-- Time passes, and nothing is due before it has. -/
def Idle (env : Surroundings α) (L : Lane α) (now later : Nat) : Prop :=
  now ≤ later ∧ (now < later → ∀ m d, L.due? env m = some d → later ≤ d)

theorem idle_of_eq {later : Nat} (same : later = now) : L.Idle env now later := by
  subst same
  exact ⟨Nat.le_refl _, fun passes => absurd passes (Nat.lt_irrefl _)⟩

theorem Idle.trans {later stop : Nat} (idle : L.Idle env now later) (rest : L.Idle env later stop) :
    L.Idle env now stop := by
  obtain ⟨le, due⟩ := idle
  obtain ⟨le', due'⟩ := rest
  refine ⟨Nat.le_trans le le', fun passes m d isDue => ?_⟩
  by_cases same : later = stop
  · rw [← same] at passes ⊢
    exact due passes m d isDue
  · exact due' (Nat.lt_of_le_of_ne le' same) m d isDue

/-- A mark can be made at a time: calls always can, the others when they are due. -/
def Allows (env : Surroundings α) (L : Lane α) (now : Nat) (m : Mark) : Prop :=
  m.isCall = true ∨ ∃ d ≤ now, L.due? env m = some d

/-- A lane goes through marks at their times, up to a time. -/
def Follows (env : Surroundings α) : Lane α → Nat → List (Nat × Mark) → Nat → Prop
  | L, now, [], stop => L.Idle env now stop
  | L, now, (t, m) :: ms, stop =>
    L.Idle env now t ∧ L.Allows env t m ∧ (L.next env t m).Follows env t ms stop

def views (env : Surroundings α) : Lane α → List (Nat × Mark) → List (Nat × Sight)
  | _, [] => []
  | L, (t, m) :: ms => (L.sights env t m).map (t, ·) ++ (L.next env t m).views env ms

end Lane

/-- What happens before a time. -/
def upTo {β : Type} (time : Nat) (l : List (Nat × β)) : List (Nat × β) := l.filter fun e => e.1 < time

/-- No two that fall on one instant before a time come in opposite orders. -/
def SameOrder {β : Type} (time : Nat) (l l' : List (Nat × β)) : Prop :=
  ∀ t < time, ∀ a b, a ≠ b → List.Sublist [(t, a), (t, b)] l → ¬ List.Sublist [(t, b), (t, a)] l'

section UpTo

variable {β : Type} {time t : Nat} {b : β} {l l' : List (Nat × β)}

theorem upTo_cons_of_lt (soon : t < time) : upTo time ((t, b) :: l) = (t, b) :: upTo time l :=
  List.filter_cons_of_pos (decide_eq_true soon)

theorem upTo_append : upTo time (l ++ l') = upTo time l ++ upTo time l' := List.filter_append _ _

theorem upTo_eq_nil (late : ∀ e ∈ l, time ≤ e.1) : upTo time l = [] := by
  refine List.filter_eq_nil_iff.mpr fun e mem => ?_
  have := late e mem
  simp only [decide_eq_true_eq]
  omega

end UpTo

/-- The calls among some marks. -/
def callsOf (ms : List (Nat × Mark)) : List (Nat × Mark) := ms.filter fun e => e.2.isCall

namespace Lane

variable {env : Surroundings α} {L : Lane α} {m m' : Mark} {ms ms' : List (Nat × Mark)}
  {now stop stop' t time : Nat}

theorem Follows.of_idle {later : Nat} (idle : L.Idle env now later)
    (follows : L.Follows env later ms stop) : L.Follows env now ms stop := by
  cases ms with
  | nil => exact idle.trans follows
  | cons e ms => exact ⟨idle.trans follows.1, follows.2⟩

theorem Follows.time_le (follows : L.Follows env now ms stop) : ∀ e ∈ ms, now ≤ e.1 := by
  induction ms generalizing L now with
  | nil => nofun
  | cons e ms ih =>
    obtain ⟨idle, -, rest⟩ := follows
    intro e' mem
    rcases List.mem_cons.mp mem with rfl | mem
    · exact idle.1
    · exact Nat.le_trans idle.1 (ih rest e' mem)

theorem Follows.pairwise (follows : L.Follows env now ms stop) :
    ms.Pairwise fun e e' => e.1 ≤ e'.1 := by
  induction ms generalizing L now with
  | nil => exact .nil
  | cons e ms ih => exact .cons follows.2.2.time_le (ih follows.2.2)

theorem Follows.late (follows : L.Follows env now ((t, m) :: ms) stop) (late : time ≤ t) :
    ∀ e ∈ (t, m) :: ms, time ≤ e.1 := by
  intro e mem
  rcases List.mem_cons.mp mem with rfl | mem
  · exact late
  · exact Nat.le_trans late (follows.2.2.time_le e mem)

theorem mem_callsOf_cons (soon : t < time) (call : m.isCall = true) :
    (t, m) ∈ callsOf (upTo time ((t, m) :: ms)) := by
  rw [upTo_cons_of_lt soon]
  exact List.mem_filter.mpr ⟨List.mem_cons_self, call⟩

theorem mem_of_callsOf {e : Nat × Mark} (mem : e ∈ callsOf (upTo time ms)) : e ∈ ms :=
  (List.mem_filter.mp (List.mem_filter.mp mem).1).1

/-- **What is due happens** before time goes on. -/
theorem Follows.mem_of_due (follows : L.Follows env now ms stop) {d : Nat}
    (due : L.due? env m = some d) (le : d ≤ now) (later : now < stop) : (now, m) ∈ ms := by
  induction ms generalizing L with
  | nil =>
    have := follows.2 later m d due
    omega
  | cons e ms ih =>
    obtain ⟨t, m'⟩ := e
    obtain ⟨idle, -, rest⟩ := follows
    have here : now = t := by
      by_contra other
      have passes : now < t := Nat.lt_of_le_of_ne idle.1 other
      have := idle.2 passes m d due
      omega
    subst here
    by_cases same : m' = m
    · rw [same]
      exact List.mem_cons_self
    · exact List.mem_cons_of_mem _ (ih rest (due?_next due same))

/-- The first mark of one sequence is not later than that of another one with the same calls. -/
theorem Follows.first_le (follows : L.Follows env now ((t, m) :: ms) stop)
    (follows' : L.Follows env now ms' stop') (soon : t < time) (far : time ≤ stop')
    (calls : callsOf (upTo time ((t, m) :: ms)) = callsOf (upTo time ms')) :
    ∃ t' m' rest, ms' = (t', m') :: rest ∧ t' ≤ t := by
  obtain ⟨idle, allows, -⟩ := follows
  -- The mark is one of the other sequence, or it is due there.
  have known : (∃ e ∈ ms', e.1 = t) ∨ ∃ d ≤ t, L.due? env m = some d := by
    refine allows.imp_left fun call => ⟨(t, m), ?_, rfl⟩
    have mem : (t, m) ∈ callsOf (upTo time ((t, m) :: ms)) := mem_callsOf_cons soon call
    rw [calls] at mem
    exact mem_of_callsOf mem
  have := idle.1
  cases ms' with
  | nil =>
    rcases known with ⟨e, mem, -⟩ | ⟨d, le, due⟩
    · cases mem
    · have := follows'.2 (by omega) m d due
      omega
  | cons e' rest =>
    obtain ⟨t', m'⟩ := e'
    obtain ⟨idle', -, rest'⟩ := follows'
    refine ⟨t', m', rest, rfl, ?_⟩
    rcases known with ⟨e, mem, rfl⟩ | ⟨d, le, due⟩
    · rcases List.mem_cons.mp mem with rfl | mem
      · exact Nat.le_refl _
      · exact rest'.time_le e mem
    · by_contra later
      have := idle'.2 (by omega) m d due
      omega

/-- A mark that another sequence begins with comes later in this one. -/
theorem Follows.mem_rest (follows : L.Follows env now ((t, m) :: ms) stop)
    (allows : L.Allows env t m') (other : m' ≠ m) (soon : t < time) (far : time ≤ stop)
    {rest : List (Nat × Mark)}
    (calls : callsOf (upTo time ((t, m) :: ms)) = callsOf (upTo time ((t, m') :: rest))) :
    (t, m') ∈ ms := by
  obtain ⟨-, -, follows⟩ := follows
  rcases allows with call | ⟨d, le, due⟩
  · have mem : (t, m') ∈ callsOf (upTo time ((t, m') :: rest)) := mem_callsOf_cons soon call
    rw [← calls] at mem
    rcases List.mem_cons.mp (mem_of_callsOf mem) with same | mem
    · cases same
      exact absurd rfl other
    · exact mem
  · exact follows.mem_of_due (due?_next due other.symm) le (by omega)

/-- Where nothing happens in one sequence, nothing happens in the other. -/
theorem Follows.upTo_nil (follows : L.Follows env now ms stop)
    (follows' : L.Follows env now ms' stop') (far : time ≤ stop) (none : upTo time ms = [])
    (calls : callsOf (upTo time ms) = callsOf (upTo time ms')) : upTo time ms' = [] := by
  cases ms' with
  | nil => rfl
  | cons e rest =>
    obtain ⟨t, m⟩ := e
    refine upTo_eq_nil (follows'.late ?_)
    by_contra late
    obtain ⟨t', m', rest', rfl, le⟩ := follows'.first_le follows (by omega) far calls.symm
    rw [upTo_cons_of_lt (by omega)] at none
    cases none

/-- **Marks are settled by the calls and the order within instants.** -/
theorem Follows.upTo_eq (follows : L.Follows env now ms stop)
    (follows' : L.Follows env now ms' stop') (far : time ≤ stop) (far' : time ≤ stop')
    (calls : callsOf (upTo time ms) = callsOf (upTo time ms'))
    (ties : SameOrder time ms ms') : upTo time ms = upTo time ms' := by
  induction ms generalizing L now ms' with
  | nil => exact (follows.upTo_nil follows' far rfl calls).symm
  | cons e rest ih =>
    obtain ⟨t, m⟩ := e
    by_cases soon : t < time
    · obtain ⟨t', m', rest', rfl, le⟩ := follows.first_le follows' soon far' calls
      obtain ⟨_, _, _, same, le'⟩ := follows'.first_le follows (by omega) far calls.symm
      cases same
      obtain rfl : t' = t := by omega
      have sameMark : m' = m := by
        by_contra other
        have first := follows.mem_rest follows'.2.1 other soon far calls
        have second := follows'.mem_rest follows.2.1 (Ne.symm other) soon far' calls.symm
        exact ties t' soon m m' (Ne.symm other) ((List.singleton_sublist.mpr first).cons_cons _)
          ((List.singleton_sublist.mpr second).cons_cons _)
      subst sameMark
      have calls' : callsOf (upTo time rest) = callsOf (upTo time rest') := by
        rw [upTo_cons_of_lt soon, upTo_cons_of_lt soon] at calls
        simp only [callsOf, List.filter_cons] at calls
        split_ifs at calls
        · exact (List.cons.inj calls).2
        · exact calls
      have ties' : SameOrder time rest rest' := fun t soon a b apart one two =>
        ties t soon a b apart (one.cons _) (two.cons _)
      rw [upTo_cons_of_lt soon, upTo_cons_of_lt soon, ih follows.2.2 follows'.2.2 calls' ties']
    · have none := upTo_eq_nil (follows.late (Nat.le_of_not_lt soon))
      rw [none, follows.upTo_nil follows' far none calls]

theorem time_of_views {v : Nat × Sight} (seen : v ∈ L.views env ms) : ∃ e ∈ ms, e.1 = v.1 := by
  induction ms generalizing L with
  | nil => cases seen
  | cons e ms ih =>
    rcases List.mem_append.mp seen with here | later
    · obtain ⟨sight, -, rfl⟩ := List.mem_map.mp here
      exact ⟨e, List.mem_cons_self, rfl⟩
    · obtain ⟨e', mem, same⟩ := ih later
      exact ⟨e', List.mem_cons_of_mem _ mem, same⟩

/-- What is seen before a time is what is seen of the marks before it. -/
theorem Follows.upTo_views (follows : L.Follows env now ms stop) :
    upTo time (L.views env ms) = L.views env (upTo time ms) := by
  induction ms generalizing L now with
  | nil => rfl
  | cons e ms ih =>
    obtain ⟨t, m⟩ := e
    by_cases soon : t < time
    · have here : upTo time ((L.sights env t m).map (t, ·)) = (L.sights env t m).map (t, ·) := by
        refine List.filter_eq_self.mpr fun v mem => ?_
        obtain ⟨sight, -, rfl⟩ := List.mem_map.mp mem
        exact decide_eq_true soon
      rw [upTo_cons_of_lt soon, views, upTo_append, here, ih follows.2.2, views]
    · have late := follows.late (Nat.le_of_not_lt soon)
      rw [upTo_eq_nil late]
      refine upTo_eq_nil fun v mem => ?_
      obtain ⟨e, mem, same⟩ := time_of_views mem
      rw [← same]
      exact late e mem

end Lane

/-! ## Order and places -/

/-- Where nothing falls on one instant, order does not matter. -/
theorem SameOrder.of_nodup {β : Type} {time : Nat} {l l' : List (Nat × β)}
    (nodup : (l.map Prod.fst).Nodup) : SameOrder time l l' := by
  intro u _ a b _ both
  have twice : List.Sublist [u, u] (l.map Prod.fst) := both.map Prod.fst
  have := nodup.sublist twice
  simp at this

/-- Calls with their places, which count from `k` on. -/
def numbered : Nat → List (Nat × Call) → List (Nat × Mark)
  | _, [] => []
  | k, (time, c) :: l => (time, .call k c) :: numbered (k + 1) l

theorem fst_numbered (k : Nat) (l : List (Nat × Call)) :
    (numbered k l).map Prod.fst = l.map Prod.fst := by
  induction l generalizing k with
  | nil => rfl
  | cons e l ih => rw [numbered, List.map_cons, List.map_cons, ih]

/-- What comes in the order of its times has the same places before a time and after it. -/
theorem upTo_numbered (time : Nat) {l : List (Nat × Call)}
    (sorted : (l.map Prod.fst).Pairwise (· ≤ ·)) (k : Nat) :
    upTo time (numbered k l) = numbered k (upTo time l) := by
  induction l generalizing k with
  | nil => rfl
  | cons e l ih =>
    obtain ⟨t, c⟩ := e
    rw [List.map_cons, List.pairwise_cons] at sorted
    by_cases soon : t < time
    · rw [upTo_cons_of_lt soon, numbered, numbered, upTo_cons_of_lt soon, ih sorted.2]
    · have late : ∀ u ∈ ((t, c) :: l).map Prod.fst, time ≤ u := by
        intro u mem
        rcases List.mem_cons.mp mem with rfl | mem
        · exact Nat.le_of_not_lt soon
        · exact Nat.le_trans (Nat.le_of_not_lt soon) (sorted.1 u mem)
      rw [upTo_eq_nil fun e mem => late e.1 (List.mem_map_of_mem mem)]
      refine upTo_eq_nil fun e mem => late e.1 ?_
      rw [← fst_numbered k]
      exact List.mem_map_of_mem mem

end TaskWorker
