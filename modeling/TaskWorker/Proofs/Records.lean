import TaskWorker.Proofs.Payloads
import TaskWorker.Proofs.Tables
/-!
# Records read back

A record is read twice: once member by member, for its faults, and once to build its value. What is
built was read without a fault, so if all members are known and none is given twice, then the value
alone decides. A written record is such a record.

* `Record.Sound`: a record that is built has no fault; `sound_member`, `Sound.seq`, `Sound.map`;
* **`Record.shape_obj_eq_ok`**: an object is read if the value can be built;
* `Record.build_seq`, `Record.build_map`: values are built member by member;
* `Record.Reads`, a record whose members are the fields that are written;
* `Spelling.members`, the members of a written record; **`Spelling.shape_record_eq_ok`**: it is read
  if its value can be built from them; `Spelling.build_member`: what is built of one.
-/

namespace TaskWorker

theorem faultOf_eq_none {α : Type} {s : Shape α} {d : Draft} {a : α} (read : s d = .ok a) :
    faultOf s d = none := by
  rw [faultOf, read]

namespace Record

variable {α β : Type} {ms : List (String × Draft)}

/-! ## Building without a fault -/

/-- What is built has no fault in any member. -/
def Sound (r : Record α) : Prop :=
  ∀ {ms : List (String × Draft)} {a : α}, r.build ms = .ok a →
    ∀ m ∈ r.members, ∀ d, valueOf? m.name ms = some d → m.check d = none

theorem sound_member (k : String) (s : Shape α) (absent : Except Fault α) (mayEnd : Bool) :
    (member k s absent mayEnd).Sound := by
  intro ms a built m mem d there
  obtain rfl := List.mem_singleton.mp mem
  simp only [member, there] at built
  exact faultOf_eq_none built

theorem Sound.map {r : Record α} (sound : r.Sound) (f : α → β) : (f <$> r).Sound := by
  intro ms b built m mem d there
  have built : f <$> r.build ms = .ok b := built
  cases inner : r.build ms with
  | error e =>
    rw [inner] at built
    cases built
  | ok a => exact sound inner m mem d there

/-- Two records in one are built one after the other. -/
theorem build_seq (f : Record (α → β)) (x : Record α) (ms : List (String × Draft)) :
    (f <*> x).build ms = f.build ms <*> x.build ms := by
  cases first : f.build ms with
  | error e => cases second : x.build ms <;> simp only [Seq.seq, first, second] <;> rfl
  | ok g => cases second : x.build ms <;> simp only [Seq.seq, first, second] <;> rfl

theorem build_map (f : α → β) (r : Record α) (ms : List (String × Draft)) :
    (f <$> r).build ms = f <$> r.build ms :=
  rfl

theorem Sound.seq {f : Record (α → β)} {x : Record α} (soundF : f.Sound) (soundX : x.Sound) :
    (f <*> x).Sound := by
  intro ms b built m mem d there
  rw [build_seq] at built
  cases first : f.build ms with
  | error e =>
    rw [first] at built
    cases built
  | ok g =>
    cases second : x.build ms with
    | error e =>
      rw [first, second] at built
      cases built
    | ok a =>
      rcases List.mem_append.mp mem with mem | mem
      · exact soundF first m mem d there
      · exact soundX second m mem d there

/-! ## Objects -/

/-- Known members that are given once are read without a fault if each of them is. -/
theorem scan_eq_none {known : List Member} {seen : List String}
    (unique : (ms.map Prod.fst).Nodup) (new : ∀ k ∈ ms.map Prod.fst, k ∉ seen)
    (clean : ∀ m ∈ ms, ∃ i, known.find? (fun i => i.name = m.1) = some i ∧ i.check m.2 = none) :
    scan known seen ms = none := by
  induction ms generalizing seen with
  | nil => rfl
  | cons m ms ih =>
    obtain ⟨k, d⟩ := m
    rw [List.map_cons, List.nodup_cons] at unique
    obtain ⟨i, found, checked⟩ := clean (k, d) (.head _)
    have rest : scan known (k :: seen) ms = none := by
      refine ih unique.2 (fun k' mem => ?_) fun m mem => clean m (.tail _ mem)
      rintro (_ | ⟨_, old⟩)
      · exact unique.1 mem
      · exact new k' (.tail _ mem) old
    simp only [scan, found, if_neg (new k (.head _)), checked, rest, Option.or]

/-- **An object of known members, each given once, is read if the value can be built.** -/
theorem shape_obj_eq_ok {r : Record α} (sound : r.Sound) (unique : (ms.map Prod.fst).Nodup)
    (known : ∀ k ∈ ms.map Prod.fst, k ∈ r.members.map Member.name) {a : α} :
    r.shape (.obj ms none) = .ok a ↔ r.build ms = .ok a := by
  constructor
  · intro read
    simp only [shape] at read
    split at read
    · cases read
    · exact read
  · intro built
    have clean : scan r.members [] ms = none := by
      refine scan_eq_none unique (fun _ _ => List.not_mem_nil) fun m mem => ?_
      obtain ⟨i, hi, name⟩ := List.mem_map.mp (known m.1 (List.mem_map_of_mem mem))
      obtain ⟨j, found⟩ : ∃ j, r.members.find? (fun i => i.name = m.1) = some j :=
        Option.isSome_iff_exists.mp (List.find?_isSome.mpr ⟨i, hi, by simpa using name⟩)
      have own : j.name = m.1 := by simpa using List.find?_some found
      refine ⟨j, found, sound built j (List.mem_of_find?_eq_some found) m.2 ?_⟩
      rw [own]
      exact (valueOf?_eq_some_iff unique).mpr mem
    simp only [shape, clean, Option.map_none, Option.or]
    exact built

end Record

/-- The record knows the fields that are written, in their order. -/
structure Record.Reads {α : Type} (r : Record α) (fields : List (String × Option Json)) : Prop where
  sound : r.Sound
  unique : (fields.map Prod.fst).Nodup
  names : r.members.map Member.name = fields.map Prod.fst

/-! ## Written records -/

namespace Spelling

variable (σ : Spelling)

/-- The members of a written record, some of which are left out. -/
def members (fields : List (String × Option Json)) : List (String × Draft) :=
  σ.draftMembers (fields.filterMap fun m => m.2.map fun j => (m.1, j))

theorem draft_record (fields : List (String × Option Json)) :
    σ.draft (.record fields) = .obj (σ.members fields) none := by
  rw [Json.record, draft, members]

variable {fields : List (String × Option Json)}

theorem nodup_members (unique : (fields.map Prod.fst).Nodup) :
    ((σ.members fields).map Prod.fst).Nodup := by
  rw [members, names_draftMembers]
  exact nodup_filterMap unique

theorem mem_of_mem_members {k : String} (mem : k ∈ (σ.members fields).map Prod.fst) :
    k ∈ fields.map Prod.fst := by
  rw [members, names_draftMembers] at mem
  obtain ⟨m, hm, rfl⟩ := List.mem_map.mp mem
  obtain ⟨f, hf, kept⟩ := List.mem_filterMap.mp hm
  obtain ⟨j, -, rfl⟩ := Option.map_eq_some_iff.mp kept
  exact List.mem_map_of_mem hf

theorem valueOf?_members (unique : (fields.map Prod.fst).Nodup) (k : String) :
    valueOf? k (σ.members fields) = (valueOf? k fields).join.map σ.draft := by
  rw [members, draftMembers_eq_map, Table.valueOf?_map fun _ => σ.draft,
    valueOf?_filterMap unique]

/-- **A written record is read** if its value can be built from what is there. -/
theorem shape_record_eq_ok {α : Type} {r : Record α} (reads : r.Reads fields) {a : α} :
    r.shape (σ.draft (.record fields)) = .ok a ↔ r.build (σ.members fields) = .ok a := by
  rw [draft_record]
  refine Record.shape_obj_eq_ok reads.sound (σ.nodup_members reads.unique) fun k mem => ?_
  rw [reads.names]
  exact σ.mem_of_mem_members mem

section

variable {α β : Type} {r : Record β} {k : String} (s : Shape α) (absent : Except Fault α)
  (mayEnd : Bool)

/-- What is built of a member: what its field is read as, or else what stands for its absence. -/
theorem build_member (reads : r.Reads fields) {field : Option Json}
    (here : valueOf? k fields = some field) :
    (Record.member k s absent mayEnd).build (σ.members fields) =
      field.elim absent fun j => s (σ.draft j) := by
  simp only [Record.member, σ.valueOf?_members reads.unique, here, Option.join_some]
  cases field <;> rfl

theorem build_present (reads : r.Reads fields) {j : Json}
    (here : valueOf? k fields = some (some j)) :
    (Record.member k s absent mayEnd).build (σ.members fields) = s (σ.draft j) :=
  σ.build_member s absent mayEnd reads here

theorem build_text (reads : r.Reads fields) {t : String}
    (here : valueOf? k fields = some (some (.str t))) (absent : Except Fault String) :
    (Record.member k .text absent mayEnd).build (σ.members fields) = .ok t :=
  σ.build_present _ _ mayEnd reads here

/-- A text that is left out if there is none. -/
theorem build_text? (reads : r.Reads fields) {o : Option String}
    (here : valueOf? k fields = some (o.map .str)) :
    (Record.member k (Shape.optional .text) (.ok none) mayEnd).build (σ.members fields) =
      .ok o := by
  rw [σ.build_member _ _ mayEnd reads here]
  cases o <;> rfl

end

end Spelling

end TaskWorker
