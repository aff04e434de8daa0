import Mathlib.Tactic.SplitIfs
import TaskWorker.Proofs.Runs
/-!
# Slots step by step

To take a slot is to take a permit and then to count the slot; to give it back is to count it no
more and then to give the permit back. Whoever is between the two steps may be overtaken by others,
and the slots may be closed in between. The permit comes first and goes last, so whoever is counted
has a permit, and the count is never too high.

* `SlotUsers`, slots and those who have a permit; `SlotUsers.Event`, `SlotUsers.step?`: single
  steps; `SlotUsers.replay`, steps in any order;
* `SlotUsers.acquire?_eq`, `SlotUsers.release_eq`: whole operations are two steps with nothing in
  between;
* `SlotUsers.Turn`, what a step does; `SlotUsers.Balanced`, how permits, counts and users go
  together; **`Turn.balanced`**: a step keeps it so;
* **`SlotUsers.permits_go_around`**: all this for open slots in any order of steps.
-/

namespace TaskWorker

/-- Slots and those who have a permit for one, by the numbers of their permits. -/
structure SlotUsers where
  slots : Slots
  /-- They have just taken a permit, and are not counted yet. -/
  entering : List Nat
  /-- They hold a slot. -/
  holding : List Nat
  /-- They are counted no more, and still have their permit. -/
  leaving : List Nat
  /-- The number of permits that were handed out. -/
  granted : Nat
  deriving DecidableEq, Repr

namespace SlotUsers

/-! ## Steps -/

/-- Slots that nobody has used. -/
def start (slots : Slots) : SlotUsers := ⟨slots, [], [], [], 0⟩

/-- All who have a permit. -/
def users (u : SlotUsers) : List Nat := u.entering ++ (u.holding ++ u.leaving)

/-- Those who are between two steps. -/
def halfDone (u : SlotUsers) : List Nat := u.entering ++ u.leaving

/-- A single step of somebody. -/
inductive Event where
  /-- Somebody asks for a slot and gets a permit, or is refused. -/
  | asks
  /-- Who has taken a permit is counted. -/
  | counts (n : Nat)
  /-- Who holds a slot drops it and is counted no more. -/
  | drops (n : Nat)
  /-- Who is counted no more gives the permit back. -/
  | returns (n : Nat)
  | closes
  deriving DecidableEq, Repr

/-- Whose step it is, if somebody takes it who has a permit. -/
def Event.about? : Event → Option Nat
  | .counts n | .drops n | .returns n => some n
  | _ => none

/-- The permit that comes back. -/
def Event.back? : Event → Option Nat
  | .returns n => some n
  | _ => none

/-- The permits that come back, in their order. -/
def returned (es : List Event) : List Nat := es.filterMap Event.back?

/-- Hands out a permit, if the slots are open and one is free. -/
def grant? (u : SlotUsers) : Option SlotUsers :=
  u.slots.takePermit?.map fun slots =>
    { u with slots, entering := u.granted :: u.entering, granted := u.granted + 1 }

/-- The state after a step, if the step is possible. -/
def step? (u : SlotUsers) : Event → Option SlotUsers
  | .asks => some (u.grant?.getD u)
  | .counts n =>
    if n ∈ u.entering then
      some { u with
        slots := u.slots.countUp
        entering := u.entering.erase n
        holding := n :: u.holding }
    else none
  | .drops n =>
    if n ∈ u.holding then
      some { u with
        slots := u.slots.countDown
        holding := u.holding.erase n
        leaving := n :: u.leaving }
    else none
  | .returns n =>
    if n ∈ u.leaving then
      some { u with slots := u.slots.returnPermit, leaving := u.leaving.erase n }
    else none
  | .closes => some { u with slots := u.slots.close }

/-- The state after some steps, if each of them is possible in its turn. -/
def replay (u : SlotUsers) (es : List Event) : Option SlotUsers := es.foldlM step? u

variable {u v w : SlotUsers} {e : Event} {es fs : List Event} {m n : Nat} {back : List Nat}

/-! ## Whole operations -/

/-- **To take a slot is to take a permit and to be counted**, with nothing in between. -/
theorem acquire?_eq (u : SlotUsers) : u.slots.acquire?.map (fun slots =>
      { u with slots, holding := u.granted :: u.holding, granted := u.granted + 1 }) =
    u.grant?.bind (·.step? (.counts u.granted)) := by
  unfold Slots.acquire? grant?
  cases u.slots.takePermit? with
  | none => rfl
  | some slots => simp [step?]

/-- Whether a permit is handed out decides whether a slot is taken. -/
theorem exists_grant?_iff : (∃ v, u.grant? = some v) ↔ u.slots.acquire?.isSome = true := by
  unfold Slots.acquire? grant?
  cases u.slots.takePermit? <;> simp

/-- **To give a slot back is to be counted no more and to give the permit back.** -/
theorem release_eq (mem : n ∈ u.holding) : u.replay [.drops n, .returns n] =
    some { u with slots := u.slots.release, holding := u.holding.erase n } := by
  simp [replay, step?, mem, Slots.release]

/-! ## What a step does -/

/-- **What a step does.** -/
inductive Turn (u : SlotUsers) : Event → SlotUsers → Prop where
  | refused (none : u.slots.closed = true ∨ u.slots.available = 0) : Turn u .asks u
  | granted (isOpen : u.slots.closed = false) (free : 0 < u.slots.available) :
      Turn u .asks { u with
        slots := { u.slots with available := u.slots.available - 1 }
        entering := u.granted :: u.entering
        granted := u.granted + 1 }
  | counts {n : Nat} (mem : n ∈ u.entering) :
      Turn u (.counts n) { u with
        slots := u.slots.countUp
        entering := u.entering.erase n
        holding := n :: u.holding }
  | drops {n : Nat} (mem : n ∈ u.holding) :
      Turn u (.drops n) { u with
        slots := u.slots.countDown
        holding := u.holding.erase n
        leaving := n :: u.leaving }
  | returns {n : Nat} (mem : n ∈ u.leaving) :
      Turn u (.returns n) { u with
        slots := u.slots.returnPermit
        leaving := u.leaving.erase n }
  | closes : Turn u .closes { u with slots := u.slots.close }

/-- A permit is handed out exactly if the slots are open and one is free. -/
theorem grant?_eq (u : SlotUsers) : u.grant? =
    if u.slots.closed = false ∧ 0 < u.slots.available then
      some { u with
        slots := { u.slots with available := u.slots.available - 1 }
        entering := u.granted :: u.entering
        granted := u.granted + 1 }
    else none := by
  unfold grant? Slots.takePermit?
  by_cases shut : u.slots.closed = true
  · simp [shut]
  · by_cases none : u.slots.available = 0
    · simp [none]
    · simp [shut, none, Nat.pos_of_ne_zero none]

/-- **Every step does one of these things.** -/
theorem step?_turn (step : u.step? e = some v) : u.Turn e v := by
  cases e with
  | asks =>
    rw [step?, grant?_eq] at step
    split_ifs at step with free
    · obtain rfl := Option.some.inj step
      exact .granted free.1 free.2
    · obtain rfl := Option.some.inj step
      refine .refused ?_
      by_contra both
      simp only [not_or, Bool.not_eq_true] at both
      exact free ⟨both.1, Nat.pos_of_ne_zero both.2⟩
  | counts n | drops n | returns n =>
    simp only [step?] at step
    split_ifs at step with mem
    obtain rfl := Option.some.inj step
    constructor
    exact mem
  | closes =>
    obtain rfl := Option.some.inj step
    exact .closes

/-! ## Runs of steps -/

/-- **Induction on steps from their end**, where `P` may look at the steps so far. -/
theorem replay_induction {P : List Event → SlotUsers → Prop} (nil : P [] u)
    (snoc : ∀ {es v e w}, P es v → v.Turn e w → P (es ++ [e]) w) (run : u.replay es = some v) :
    P es v :=
  foldlM_induction nil (fun _ before step => snoc before (step?_turn step)) run

theorem returned_snoc (es : List Event) (e : Event) :
    returned (es ++ [e]) = returned es ++ e.back?.toList := by
  rw [returned, List.filterMap_append, returned]
  cases e <;> rfl

/-! ## Permits, counts and users -/

/-- How permits, counts and users go together when some permits have come back: the slots are
counted for those who hold them, the permits that nobody has are free, and each one that was handed
out has come back or is in use. -/
structure Balanced (c : UInt64) (back : List Nat) (u : SlotUsers) : Prop where
  capacity : u.slots.capacity = c
  busy : u.slots.busy = u.holding.length
  free : u.slots.available + u.users.length = c.toNat
  numbers : (List.range u.granted).Perm (back ++ u.users)

theorem balanced_start (c : UInt64) : Balanced c [] (start (.ofCapacity c)) :=
  ⟨rfl, rfl, rfl, .nil⟩

theorem perm_erase_append {xs : List Nat} (mem : n ∈ xs) (ys : List Nat) :
    (xs.erase n ++ n :: ys).Perm (xs ++ ys) :=
  List.perm_middle.trans ((List.perm_cons_erase mem).symm.append_right ys)

theorem users_counts (mem : n ∈ u.entering) :
    (u.entering.erase n ++ (n :: u.holding ++ u.leaving)).Perm u.users :=
  perm_erase_append mem (u.holding ++ u.leaving)

theorem users_drops (mem : n ∈ u.holding) :
    (u.entering ++ (u.holding.erase n ++ n :: u.leaving)).Perm u.users :=
  (perm_erase_append mem u.leaving).append_left u.entering

theorem users_returns (mem : n ∈ u.leaving) :
    u.users.Perm (n :: (u.entering ++ (u.holding ++ u.leaving.erase n))) := by
  have moved := ((List.perm_cons_erase mem).append_left u.holding).append_left u.entering
  exact moved.trans ((List.perm_middle.append_left u.entering).trans List.perm_middle)

/-- If those who have permits stay the same, only who is counted matters. -/
theorem Balanced.of_perm {c : UInt64} (b : u.Balanced c back)
    (capacity : v.slots.capacity = u.slots.capacity)
    (available : v.slots.available = u.slots.available) (granted : v.granted = u.granted)
    (users : v.users.Perm u.users) (busy : v.slots.busy = v.holding.length) :
    v.Balanced c back := by
  refine ⟨capacity.trans b.capacity, busy, ?_, ?_⟩
  · rw [available, users.length_eq]
    exact b.free
  · rw [granted]
    exact b.numbers.trans (users.symm.append_left back)

/-- **A step keeps permits, counts and users together.** -/
theorem Turn.balanced {c : UInt64} (turn : u.Turn e v) (b : u.Balanced c back) :
    v.Balanced c (e.back?.toList ++ back) := by
  have free := b.free
  have busy := b.busy
  cases turn with
  | refused _ | closes => exact b.of_perm rfl rfl rfl (.refl _) b.busy
  | granted _ some =>
    refine ⟨b.capacity, b.busy, ?_, ?_⟩
    · show u.slots.available - 1 + (u.users.length + 1) = c.toNat
      omega
    · show (List.range (u.granted + 1)).Perm (back ++ u.granted :: u.users)
      rw [List.range_succ]
      exact (List.perm_append_singleton _ _).trans ((b.numbers.cons _).trans List.perm_middle.symm)
  | counts mem =>
    refine b.of_perm rfl rfl rfl (users_counts mem) ?_
    show u.slots.busy + 1 = ((u.holding.length + 1 : Nat) : Int)
    omega
  | @drops n mem =>
    refine b.of_perm rfl rfl rfl (users_drops mem) ?_
    have one := (List.perm_cons_erase mem).length_eq
    rw [List.length_cons] at one
    show u.slots.busy - 1 = ((u.holding.erase n).length : Int)
    omega
  | returns mem =>
    have gone := users_returns mem
    refine ⟨b.capacity, b.busy, ?_, ?_⟩
    · rw [gone.length_eq] at free
      show u.slots.available + 1 + _ = c.toNat
      rw [← free, Nat.add_assoc, Nat.add_comm 1]
      rfl
    · exact b.numbers.trans ((gone.append_left back).trans List.perm_middle)

/-- **Steps in any order keep them together.** -/
theorem Balanced.replay {c : UInt64} (b : u.Balanced c back) (run : u.replay es = some v) :
    v.Balanced c (returned es ++ back) := by
  refine replay_induction (P := fun es v => v.Balanced c (returned es ++ back)) b ?_ run
  intro es v e w b turn
  have next := turn.balanced b
  refine { next with numbers := next.numbers.trans (.append_right _ ?_) }
  rw [returned_snoc, List.append_assoc]
  exact List.perm_append_comm_assoc _ _ _

namespace Balanced

variable {c : UInt64} (b : u.Balanced c back)

include b

theorem add_eq : u.slots.busy + u.slots.available + u.halfDone.length = c.toNat := by
  have free := b.free
  have busy := b.busy
  simp only [users, halfDone, List.length_append] at free ⊢
  omega

/-- The count and the free permits never come to more than there are slots. -/
theorem bounds : 0 ≤ u.slots.busy ∧ u.slots.busy + u.slots.available ≤ c.toNat := by
  have sum := b.add_eq
  have busy := b.busy
  omega

/-- They come to all slots exactly if nobody is between two steps. -/
theorem sum_eq_iff : u.slots.busy + u.slots.available = c.toNat ↔ u.halfDone = [] := by
  have sum := b.add_eq
  rw [← List.length_eq_zero_iff]
  omega

end Balanced

/-! ## Who goes on, and who comes back -/

/-- Nobody is counted by the step of another. -/
theorem Turn.entering (turn : u.Turn e v) (mem : m ∈ u.entering) (other : e ≠ .counts m) :
    m ∈ v.entering := by
  cases turn with
  | refused _ | drops _ | returns _ | closes => exact mem
  | granted _ _ => exact List.mem_cons_of_mem _ mem
  | counts _ => exact (List.mem_erase_of_ne fun same => other (congrArg _ same.symm)).mpr mem

/-- **Who has a permit comes to a slot**, whatever others do and if the slots are closed. -/
theorem counts_of_granted (granted : u.grant? = some v) (run : v.replay es = some w)
    (waits : .counts u.granted ∉ es) :
    ∃ x, w.step? (.counts u.granted) = some x ∧ u.granted ∈ x.holding := by
  have begun : u.granted ∈ v.entering := by
    rw [grant?_eq] at granted
    split_ifs at granted
    obtain rfl := Option.some.inj granted
    exact List.mem_cons_self
  have there : u.granted ∈ w.entering := by
    refine replay_induction (P := fun es w => .counts u.granted ∉ es → u.granted ∈ w.entering)
      (fun _ => begun) ?_ run waits
    intro es w e x there turn waits
    rw [List.mem_append, List.mem_singleton, not_or] at waits
    exact turn.entering (there waits.1) (Ne.symm waits.2)
  exact ⟨_, if_pos there, List.mem_cons_self⟩

/-- Somebody can give a permit back in steps of their own, and then one more is free. -/
def CanReturn (u : SlotUsers) (m : Nat) : Prop :=
  ∃ own v, u.replay own = some v ∧ (∀ e ∈ own, e.about? = some m) ∧ returned own = [m] ∧
    u.users.Perm (m :: v.users) ∧ v.slots.available = u.slots.available + 1

/-- **Everybody who has a permit can give it back at any time**, alone. -/
theorem canReturn (mem : m ∈ u.users) : u.CanReturn m := by
  simp only [users, List.mem_append] at mem
  rcases mem with entering | holding | leaving
  · refine ⟨[.counts m, .drops m, .returns m], { u with
      slots := u.slots.countUp.release
      entering := u.entering.erase m }, ?_, by simp [Event.about?], rfl, ?_, rfl⟩
    · simp [replay, step?, entering, Slots.release]
    · exact (List.perm_cons_erase entering).append_right _
  · refine ⟨_, _, release_eq holding, by simp [Event.about?], rfl, ?_, rfl⟩
    have moved := ((List.perm_cons_erase holding).append_right u.leaving).append_left u.entering
    exact moved.trans List.perm_middle
  · refine ⟨[.returns m], { u with
      slots := u.slots.returnPermit
      leaving := u.leaving.erase m }, ?_, by simp [Event.about?], rfl, users_returns leaving, rfl⟩
    simp [replay, step?, leaving]

/-! ## Closed slots -/

theorem Turn.closed_iff (turn : u.Turn e v) :
    v.slots.closed = true ↔ u.slots.closed = true ∨ e = .closes := by
  cases turn with
  | refused _ | granted _ _ | counts _ | drops _ | returns _ => exact (or_iff_left nofun).symm
  | closes => exact iff_of_true rfl (.inr rfl)

theorem closed_iff (run : u.replay es = some v) :
    v.slots.closed = true ↔ u.slots.closed = true ∨ .closes ∈ es := by
  refine replay_induction (P := fun es v => v.slots.closed = true ↔
    u.slots.closed = true ∨ .closes ∈ es) (or_iff_left nofun).symm ?_ run
  intro es v e w before turn
  rw [turn.closed_iff, before, List.mem_append, List.mem_singleton, or_assoc, @eq_comm _ e]

/-- **Closed slots hand out no permit.** -/
theorem granted_of_closed (run : u.replay es = some v) (closed : u.slots.closed = true) :
    v.granted = u.granted := by
  refine (replay_induction (P := fun _ v => v.slots.closed = true ∧ v.granted = u.granted)
    ⟨closed, rfl⟩ ?_ run).2
  rintro es v e w ⟨shut, same⟩ turn
  refine ⟨turn.closed_iff.mpr (.inl shut), ?_⟩
  cases turn with
  | granted isOpen _ => exact absurd shut (by simp [isOpen])
  | refused _ | counts _ | drops _ | returns _ | closes => exact same

/-- After the slots were closed, permits only come back. -/
theorem Balanced.of_closed {c : UInt64} (b : u.Balanced c back) (closed : u.slots.closed = true)
    (run : u.replay es = some v) :
    v.grant? = none ∧ u.users.Perm (returned es ++ v.users) ∧
      v.slots.available = u.slots.available + (returned es).length := by
  have later := b.replay run
  have shut := (closed_iff run).mpr (.inl closed)
  have same := later.numbers
  rw [granted_of_closed run closed, List.append_assoc] at same
  have users := (List.perm_append_left_iff back).mp
    (b.numbers.symm.trans (same.trans (List.perm_append_comm_assoc _ _ _)))
  refine ⟨?_, users, ?_⟩
  · rw [grant?_eq, if_neg]
    simp [shut]
  · have before := b.free
    have after := later.free
    rw [users.length_eq, List.length_append] at before
    omega

/-- **Permits go around.** There may be as many slots as can be, and whoever uses them takes single
steps in any order. Then the count of busy slots is that of those who hold one, and with the free
permits it comes to all slots but for those of people between two steps. A slot is taken exactly if
the slots are open and one is free, and this is decided when the permit is asked for: who gets one
comes to a slot, even if the slots are closed in between. Each permit that was handed out comes back
once or is in use, and can come back. After the slots were closed, none is handed out any more, and
those in use come back one by one. -/
theorem permits_go_around {c : UInt64} (fits : c ≤ maxSlots) :
    Slots.new? c = some (.ofCapacity c) ∧
    ∀ es u, (start (.ofCapacity c)).replay es = some u →
      u.slots.capacity = c ∧
      (0 ≤ u.slots.busy ∧ u.slots.busy + u.slots.available ≤ c.toNat) ∧
      (u.slots.busy + u.slots.available = c.toNat ↔ u.halfDone = []) ∧
      u.slots.busy = u.holding.length ∧
      (u.slots.acquire?.isSome = true ↔ u.slots.closed = false ∧ 0 < u.slots.available) ∧
      ((∃ v, u.grant? = some v) ↔ u.slots.acquire?.isSome = true) ∧
      (∀ v later w, u.grant? = some v → v.replay later = some w → .counts u.granted ∉ later →
        ∃ x, w.step? (.counts u.granted) = some x ∧ u.granted ∈ x.holding) ∧
      (List.range u.granted).Perm (returned es ++ u.users) ∧ (∀ m ∈ u.users, u.CanReturn m) ∧
      (u.slots.closed = true ↔ .closes ∈ es) ∧
      (u.slots.closed = true → ∀ later v, u.replay later = some v →
        v.grant? = none ∧ u.users.Perm (returned later ++ v.users) ∧
          v.slots.available = u.slots.available + (returned later).length) := by
  refine ⟨if_neg (UInt64.not_lt.mpr fits), fun es u run => ?_⟩
  have b := (balanced_start c).replay run
  rw [List.append_nil] at b
  refine ⟨b.capacity, b.bounds, b.sum_eq_iff, b.busy, Slots.acquire?_isSome_iff, exists_grant?_iff,
    fun v later w granted run waits => counts_of_granted granted run waits, b.numbers,
    fun m mem => canReturn mem, ?_, fun closed later v run => b.of_closed closed run⟩
  rw [closed_iff run]
  exact or_iff_right nofun

/-- Somebody has taken the first of two permits. -/
def sampleFirst : SlotUsers := ((start (.ofCapacity 2)).replay [.asks]).get (by decide)

/-- Somebody else has taken the second one. -/
def sampleSecond : SlotUsers := sampleFirst.grant?.get (by decide)

/-- The first slot is held; then the slots are closed, and it is dropped. -/
def sampleSteps : List Event := [.counts 0, .closes, .drops 0]

def sampleMidway : SlotUsers := (sampleSecond.replay sampleSteps).get (by decide)

/-- Both permits come back, the second one after its slot was held. -/
def sampleReturns : List Event := [.counts 1, .returns 0, .asks, .drops 1, .returns 1]

def sampleLast : SlotUsers := (sampleMidway.replay sampleReturns).get (by decide)

/-- With both users between two steps, no slot is busy and no permit is free. -/
theorem sample_permits_go_around :
    sampleMidway.halfDone = [1, 0] ∧ sampleMidway.slots.closed = true ∧
      sampleMidway.slots.busy + sampleMidway.slots.available = 0 ∧
      sampleMidway.slots.busy + sampleMidway.slots.available ≤ 2 ∧
      (∃ x, sampleMidway.step? (.counts 1) = some x ∧ 1 ∈ x.holding) ∧
      sampleMidway.CanReturn 1 ∧ sampleLast.grant? = none ∧
      sampleMidway.users.Perm ([0, 1] ++ sampleLast.users) ∧
      sampleLast.slots.available = sampleMidway.slots.available + 2 := by
  have around := (permits_go_around (c := 2) (by decide)).2
  have first : (start (.ofCapacity 2)).replay [.asks] = some sampleFirst := (Option.some_get _).symm
  have second : sampleFirst.grant? = some sampleSecond := (Option.some_get _).symm
  have steps : sampleSecond.replay sampleSteps = some sampleMidway := (Option.some_get _).symm
  have midway : (start (.ofCapacity 2)).replay (.asks :: .asks :: sampleSteps) =
      some sampleMidway := by decide
  obtain ⟨-, -, -, -, -, -, comes, -⟩ := around _ _ first
  obtain ⟨-, bounds, -, -, -, -, -, -, returns, -, closed⟩ := around _ _ midway
  have last := closed (by decide) sampleReturns sampleLast (Option.some_get _).symm
  exact ⟨by decide, by decide, by decide, bounds.2, comes _ _ _ second steps (by decide),
    returns 1 (by decide), last⟩

end SlotUsers

end TaskWorker
