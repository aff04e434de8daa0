import TaskWorker.Json.Shape
/-!
# Payloads read back

A document has the same structure wherever it is met; only its numbers may differ, as a text spells
them out in digits. So a document is turned into a draft by a spelling, which says what becomes of
its numbers: on its own, it is its own draft.

* `Json.depth`, how deep brackets nest; `Json.doubles`, the numbers of double precision in a
  document;
* `Spelling`, `Spelling.draft`; `Spelling.plain`, where nothing becomes of numbers;
* `membersToJson_eq`: members that come in order are kept in order;
* **`Spelling.toJson_draft_iff`**: a payload reads back exactly if it is not too deep and its
  doubles do.
-/

namespace TaskWorker

namespace Json

mutual

/-- How deep brackets nest. -/
def depth : Json → Nat
  | .arr items => depthOfItems items + 1
  | .obj members => depthOfMembers members + 1
  | _ => 0

def depthOfItems : List Json → Nat
  | [] => 0
  | j :: js => max (depth j) (depthOfItems js)

def depthOfMembers : List (String × Json) → Nat
  | [] => 0
  | (_, j) :: ms => max (depth j) (depthOfMembers ms)

end

mutual

/-- The numbers of double precision. -/
def doubles : Json → List Double
  | .double d => [d]
  | .arr items => doublesOfItems items
  | .obj members => doublesOfMembers members
  | _ => []

def doublesOfItems : List Json → List Double
  | [] => []
  | j :: js => doubles j ++ doublesOfItems js

def doublesOfMembers : List (String × Json) → List Double
  | [] => []
  | (_, j) :: ms => doubles j ++ doublesOfMembers ms

end

end Json

/-! ## Spellings -/

/-- What becomes of the numbers of a document. Integers that are kept exact stay as they are. -/
structure Spelling where
  int : Int → Draft
  double : Double → Draft
  int_exact : ∀ {n : Int}, Json.isExact n = true → int n = .int n

namespace Spelling

/-- Nothing becomes of numbers. -/
def plain : Spelling := ⟨.int, .double, fun _ => rfl⟩

variable (σ : Spelling)

mutual

/-- The draft of a document in a spelling. -/
def draft : Json → Draft
  | .null => .null
  | .bool b => .bool b
  | .int n => σ.int n
  | .double d => σ.double d
  | .str s => .str s
  | .arr items => .arr (draftItems items) none
  | .obj members => .obj (draftMembers members) none

def draftItems : List Json → List Draft
  | [] => []
  | j :: js => draft j :: draftItems js

def draftMembers : List (String × Json) → List (String × Draft)
  | [] => []
  | (k, j) :: ms => (k, draft j) :: draftMembers ms

end

mutual

theorem draft_plain : ∀ j : Json, plain.draft j = .ofJson j
  | .null | .bool _ | .int _ | .double _ | .str _ => rfl
  | .arr items => by rw [draft, Draft.ofJson, draftItems_plain items]
  | .obj members => by rw [draft, Draft.ofJson, draftMembers_plain members]

theorem draftItems_plain : ∀ js : List Json, plain.draftItems js = Draft.ofItems js
  | [] => rfl
  | j :: js => by rw [draftItems, Draft.ofItems, draft_plain j, draftItems_plain js]

theorem draftMembers_plain : ∀ ms : List (String × Json), plain.draftMembers ms = Draft.ofMembers ms
  | [] => rfl
  | (_, j) :: ms => by rw [draftMembers, Draft.ofMembers, draft_plain j, draftMembers_plain ms]

end

theorem draftItems_eq_map (js : List Json) : σ.draftItems js = js.map σ.draft := by
  induction js with
  | nil => rfl
  | cons j js ih => rw [draftItems, ih, List.map_cons]

theorem draftMembers_eq_map (ms : List (String × Json)) :
    σ.draftMembers ms = ms.map fun m => (m.1, σ.draft m.2) := by
  induction ms with
  | nil => rfl
  | cons m ms ih => rw [draftMembers, ih, List.map_cons]

end Spelling

/-! ## Members in order -/

theorem put_of_forall_lt {α : Type} {k : String} {v : α} {es : List (String × α)}
    (last : ∀ e ∈ es, e.1 < k) : put k v es = es ++ [(k, v)] := by
  induction es with
  | nil => rfl
  | cons e es ih =>
    have lt : e.1 < k := last e (.head _)
    have rest := ih fun f mem => last f (.tail _ mem)
    rw [put, if_neg (String.lt_asymm lt), if_pos lt, rest, List.cons_append]

namespace Draft

variable {room : Nat}

/-- Members that come in the order of their names are kept in it. -/
theorem membersToJson_eq (room : Nat) (acc : List (String × Json)) (ms : List (String × Draft))
    (order : (acc.map Prod.fst ++ ms.map Prod.fst).Pairwise (· < ·)) :
    membersToJson room acc ms =
      (itemsToJson room (ms.map Prod.snd)).map fun js => acc ++ (ms.map Prod.fst).zip js := by
  induction ms generalizing acc with
  | nil => simp [membersToJson, itemsToJson, Except.map]
  | cons m ms ih =>
    obtain ⟨k, d⟩ := m
    simp only [membersToJson, List.map_cons, itemsToJson]
    cases toJson room d with
    | error f => rfl
    | ok j =>
      have last : ∀ e ∈ acc, e.1 < k := by
        intro e mem
        exact (List.pairwise_append.mp order).2.2 e.1 (List.mem_map_of_mem mem) k (.head _)
      have order' : ((acc ++ [(k, j)]).map Prod.fst ++ ms.map Prod.fst).Pairwise (· < ·) := by
        simpa using order
      simp only [put_of_forall_lt last, ih _ order']
      cases itemsToJson room (ms.map Prod.snd) with
      | error f => rfl
      | ok js => simp [Except.map]

theorem itemsToJson_cons_eq_ok {d : Draft} {ds : List Draft} {j : Json} {js : List Json} :
    itemsToJson room (d :: ds) = .ok (j :: js) ↔
      toJson room d = .ok j ∧ itemsToJson room ds = .ok js := by
  rw [itemsToJson]
  cases toJson room d with
  | error f => simp
  | ok j' => cases itemsToJson room ds <;> simp

theorem length_of_itemsToJson {ds : List Draft} {js : List Json}
    (read : itemsToJson room ds = .ok js) : js.length = ds.length := by
  induction ds generalizing js with
  | nil =>
    cases read
    rfl
  | cons d ds ih =>
    cases js with
    | nil =>
      simp only [itemsToJson] at read
      split at read
      · cases read
      · split at read <;> cases read
    | cons j js =>
      rw [List.length_cons, List.length_cons, ih (itemsToJson_cons_eq_ok.mp read).2]

theorem toJson_eq_ok_double {d : Draft} {x : Double} :
    toJson room d = .ok (.double x) ↔ d = .double x := by
  constructor
  · intro read
    cases d with
    | double y =>
      rw [toJson] at read
      cases read
      rfl
    | arr items close =>
      cases room with
      | zero => cases read
      | succ room =>
        simp only [toJson] at read
        split at read <;> cases read
    | obj members gap =>
      cases room with
      | zero => cases read
      | succ room =>
        simp only [toJson] at read
        split at read <;> cases read
    | _ =>
      rw [toJson] at read
      cases read
  · rintro rfl
    rw [toJson]

theorem toJson_arr_eq_ok {ds : List Draft} {js : List Json} :
    toJson room (.arr ds none) = .ok (.arr js) ↔
      ∃ inner, room = inner + 1 ∧ itemsToJson inner ds = .ok js := by
  cases room with
  | zero => simp [toJson]
  | succ inner =>
    simp only [toJson]
    cases read : itemsToJson inner ds <;> simp [read]

/-- An object reads back if its values do, provided that its names come in order. -/
theorem toJson_obj_eq_ok {ms : List (String × Draft)} {js : List (String × Json)}
    (names : ms.map Prod.fst = js.map Prod.fst) (order : Increasing js) :
    toJson room (.obj ms none) = .ok (.obj js) ↔
      ∃ inner, room = inner + 1 ∧ itemsToJson inner (ms.map Prod.snd) = .ok (js.map Prod.snd) := by
  cases room with
  | zero => simp [toJson]
  | succ inner =>
    have order' : ([] ++ ms.map Prod.fst).Pairwise (· < ·) := by
      rw [names]
      exact order
    have kept := membersToJson_eq inner [] ms order'
    simp only [toJson, kept]
    cases read : itemsToJson inner (ms.map Prod.snd) with
    | error f => simp [Except.map, read]
    | ok vs =>
      have length : vs.length = js.length := by
        rw [length_of_itemsToJson read, List.length_map, ← List.length_map Prod.fst, names,
          List.length_map]
      have zip : (js.map Prod.fst).zip vs = js ↔ vs = js.map Prod.snd := by
        constructor
        · intro same
          rw [← same, List.map_snd_zip]
          simp [length]
        · rintro rfl
          exact (List.zip_of_prod rfl rfl).symm
      simp [Except.map, names, zip, read]

end Draft

/-! ## Payloads -/

namespace Spelling

variable (σ : Spelling)

theorem names_draftMembers (ms : List (String × Json)) :
    (σ.draftMembers ms).map Prod.fst = ms.map Prod.fst := by
  rw [draftMembers_eq_map, List.map_map]
  rfl

mutual

/-- **A payload reads back** exactly if its brackets do not nest too deep and each of its numbers of
double precision is met as it is. -/
theorem toJson_draft_iff : ∀ {j : Json} (room : Nat), j.Normal →
    (Draft.toJson room (σ.draft j) = .ok j ↔
      j.depth ≤ room ∧ ∀ d ∈ j.doubles, σ.double d = .double d)
  | .null, _, _ | .bool _, _, _ | .str _, _, _ => by
    simp [draft, Draft.toJson, Json.depth, Json.doubles]
  | .int n, _, normal => by
    obtain ⟨⟩ | ⟨⟩ | ⟨n, exact⟩ := normal
    simp [draft, σ.int_exact exact, Draft.toJson, Json.depth, Json.doubles]
  | .double d, _, _ => by
    simp [draft, Draft.toJson_eq_ok_double, Json.depth, Json.doubles]
  | .arr items, room, normal => by
    cases normal with
    | arr _ inner =>
      rw [draft, Draft.toJson_arr_eq_ok, Json.depth, Json.doubles]
      constructor
      · rintro ⟨room, rfl, read⟩
        have := (itemsToJson_draft_iff room inner).mp read
        exact ⟨Nat.succ_le_succ this.1, this.2⟩
      · rintro ⟨deep, kept⟩
        obtain ⟨room, rfl⟩ : ∃ r, room = r + 1 := ⟨room - 1, by omega⟩
        exact ⟨room, rfl, (itemsToJson_draft_iff room inner).mpr ⟨by omega, kept⟩⟩
  | .obj members, room, normal => by
    cases normal with
    | obj _ order inner =>
      rw [draft, Draft.toJson_obj_eq_ok (σ.names_draftMembers members) order, Json.depth,
        Json.doubles]
      constructor
      · rintro ⟨room, rfl, read⟩
        have := (valuesToJson_draft_iff room inner).mp read
        exact ⟨Nat.succ_le_succ this.1, this.2⟩
      · rintro ⟨deep, kept⟩
        obtain ⟨room, rfl⟩ : ∃ r, room = r + 1 := ⟨room - 1, by omega⟩
        exact ⟨room, rfl, (valuesToJson_draft_iff room inner).mpr ⟨by omega, kept⟩⟩

theorem itemsToJson_draft_iff : ∀ {js : List Json} (room : Nat), (∀ j ∈ js, j.Normal) →
    (Draft.itemsToJson room (σ.draftItems js) = .ok js ↔
      Json.depthOfItems js ≤ room ∧ ∀ d ∈ Json.doublesOfItems js, σ.double d = .double d)
  | [], _, _ => by
    simp [draftItems, Draft.itemsToJson, Json.depthOfItems, Json.doublesOfItems]
  | j :: js, room, normal => by
    have first := toJson_draft_iff room (normal j (.head _))
    have rest := itemsToJson_draft_iff room fun i mem => normal i (.tail _ mem)
    rw [draftItems, Draft.itemsToJson_cons_eq_ok, first, rest, Json.depthOfItems,
      Json.doublesOfItems]
    rw [Nat.max_le, List.forall_mem_append, and_and_and_comm]

theorem valuesToJson_draft_iff : ∀ {ms : List (String × Json)} (room : Nat),
    (∀ m ∈ ms, m.2.Normal) →
    (Draft.itemsToJson room ((σ.draftMembers ms).map Prod.snd) = .ok (ms.map Prod.snd) ↔
      Json.depthOfMembers ms ≤ room ∧ ∀ d ∈ Json.doublesOfMembers ms, σ.double d = .double d)
  | [], _, _ => by
    simp [draftMembers, Draft.itemsToJson, Json.depthOfMembers, Json.doublesOfMembers]
  | (k, j) :: ms, room, normal => by
    have first := toJson_draft_iff room (normal (k, j) (.head _))
    have rest := valuesToJson_draft_iff room fun m mem => normal m (.tail _ mem)
    rw [draftMembers, List.map_cons, List.map_cons, Draft.itemsToJson_cons_eq_ok, first, rest,
      Json.depthOfMembers, Json.doublesOfMembers]
    rw [Nat.max_le, List.forall_mem_append, and_and_and_comm]

end

end Spelling

end TaskWorker
