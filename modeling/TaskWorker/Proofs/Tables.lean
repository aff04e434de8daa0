import Mathlib.Data.List.Nodup
import TaskWorker.Table
/-!
# Names and entries of tables

A table is the list of its entries in order. Here the entries and the names of a table are told by
look-ups, and look-ups in a table that was made of a list by the list.

* `Table.mem_entries_iff`, **`Table.mem_keys_iff`**: what is in a table is what can be looked up;
  `Table.nodup_keys`: each name once;
* `valueOf?_eq_some_iff`, **`valueOf?_perm`**: if each name is given one value, the order of the
  entries does not matter; `Table.valueOf?_of_perm`, **`Table.ofList_of_perm`**: the entries of a
  table in another order;
* **`valueOf?_filterMap`**: look-up among entries some of which are missing;
* **`Table.get?_ofList_map`**: the table of a function on names; `Table.keys_congr`: the names of a
  table are in one order.
-/

namespace TaskWorker

universe u

variable {α : Type u} {k : String} {v : α} {es fs : List (String × α)}

/-! ## Entries -/

theorem mem_of_valueOf? (found : valueOf? k es = some v) : (k, v) ∈ es := by
  induction es with
  | nil => cases found
  | cons e es ih =>
    obtain ⟨k', v'⟩ := e
    simp only [valueOf?] at found
    split at found
    · rename_i same
      cases found
      rw [same]
      exact List.mem_cons_self
    · exact List.mem_cons_of_mem _ (ih found)

/-- Where each name has one entry, that entry is found. -/
theorem valueOf?_eq_some_iff (unique : (es.map Prod.fst).Nodup) :
    valueOf? k es = some v ↔ (k, v) ∈ es := by
  refine ⟨mem_of_valueOf?, fun mem => ?_⟩
  induction es with
  | nil => cases mem
  | cons e es ih =>
    obtain ⟨k', v'⟩ := e
    rw [List.map_cons, List.nodup_cons] at unique
    simp only [valueOf?]
    rcases List.mem_cons.mp mem with same | mem
    · cases same
      rw [if_pos rfl]
    · have other : k' ≠ k := by
        rintro rfl
        exact unique.1 (List.mem_map.mpr ⟨_, mem, rfl⟩)
      rw [if_neg other, ih unique.2 mem]

theorem valueOf?_eq_none_iff : valueOf? k es = none ↔ k ∉ es.map Prod.fst := by
  induction es with
  | nil => simp [valueOf?]
  | cons e es ih =>
    simp only [valueOf?, List.map_cons, List.mem_cons, not_or]
    by_cases same : e.1 = k
    · simp [same]
    · simp [same, ih, Ne.symm same]

/-- **The order of entries does not matter** where each name has one. -/
theorem valueOf?_perm (unique : (es.map Prod.fst).Nodup) (perm : es.Perm fs) :
    valueOf? k es = valueOf? k fs := by
  have unique' : (fs.map Prod.fst).Nodup := (perm.map Prod.fst).nodup_iff.mp unique
  refine Option.ext fun v => ?_
  rw [valueOf?_eq_some_iff unique, valueOf?_eq_some_iff unique', perm.mem_iff]

/-! ## Entries that may be missing -/

variable {ms : List (String × Option α)}

theorem nodup_filterMap (unique : (ms.map Prod.fst).Nodup) :
    ((ms.filterMap fun e => e.2.map fun v => (e.1, v)).map Prod.fst).Nodup := by
  refine List.Nodup.sublist ?_ unique
  clear unique
  induction ms with
  | nil => exact .slnil
  | cons e ms ih =>
    obtain ⟨k, _ | v⟩ := e
    · exact ih.cons k
    · exact ih.cons_cons k

theorem valueOf?_filterMap (unique : (ms.map Prod.fst).Nodup) (key : String) :
    valueOf? key (ms.filterMap fun e => e.2.map fun v => (e.1, v)) = (valueOf? key ms).join := by
  induction ms with
  | nil => rfl
  | cons e ms ih =>
    rw [List.map_cons, List.nodup_cons] at unique
    have rest := ih unique.2
    obtain ⟨k, _ | v⟩ := e
    · simp only [List.filterMap_cons, Option.map_none, rest, valueOf?]
      by_cases here : k = key
      · rw [if_pos here, valueOf?_eq_none_iff.mpr (here ▸ unique.1)]
        rfl
      · rw [if_neg here]
    · simp only [List.filterMap_cons, Option.map_some, rest, valueOf?]
      by_cases here : k = key
      · rw [if_pos here, if_pos here]
        rfl
      · rw [if_neg here, if_neg here]

namespace Table

variable {t : Table α}

theorem nodup_keys (t : Table α) : t.keys.Nodup :=
  t.increasing.imp fun lt => ne_of_lt lt

theorem mem_entries_iff : (k, v) ∈ t.entries ↔ t.get? k = some v :=
  (valueOf?_eq_some_iff t.nodup_keys).symm

theorem entries_eq_nil_iff : t.entries = [] ↔ ∀ k, t.get? k = none := by
  constructor
  · intro empty k
    rw [get?, empty]
    rfl
  · intro absent
    apply List.eq_nil_iff_forall_not_mem.mpr
    rintro ⟨k, v⟩ mem
    rw [mem_entries_iff, absent] at mem
    cases mem

/-- **The names of a table are those that can be looked up.** -/
theorem mem_keys_iff : k ∈ t.keys ↔ t.get? k ≠ none := by
  rw [get?, ne_eq, valueOf?_eq_none_iff, not_not, keys]

/-- Tables with the same names have them in the same order. -/
theorem keys_congr {β : Type u} {s : Table β} (same : ∀ k, k ∈ s.keys ↔ k ∈ t.keys) :
    s.keys = t.keys :=
  ((List.perm_ext_iff_of_nodup s.nodup_keys t.nodup_keys).mpr same).eq_of_pairwise
    (fun _ _ _ _ h₁ h₂ => absurd h₂ (String.lt_asymm h₁)) s.increasing t.increasing

/-! ## Tables of a list -/

theorem get?_foldl_insert_of_nodup (unique : (es.map Prod.fst).Nodup) (t : Table α) (k : String) :
    (es.foldl (fun t e => t.insert e.1 e.2) t).get? k = (valueOf? k es).or (t.get? k) := by
  induction es generalizing t with
  | nil => rfl
  | cons e es ih =>
    rw [List.map_cons, List.nodup_cons] at unique
    rw [List.foldl_cons, ih unique.2, get?_insert, valueOf?]
    by_cases here : e.1 = k
    · rw [if_pos here, if_pos here, valueOf?_eq_none_iff.mpr (here ▸ unique.1)]
      rfl
    · rw [if_neg here, if_neg here]

theorem nodup_of_perm (perm : es.Perm t.entries) : (es.map Prod.fst).Nodup :=
  (perm.map Prod.fst).nodup_iff.mpr t.nodup_keys

/-- The entries of a table can be looked up in any order. -/
theorem valueOf?_of_perm (perm : es.Perm t.entries) (k : String) : valueOf? k es = t.get? k :=
  valueOf?_perm (nodup_of_perm perm) perm

/-- A table made of its own entries, in any order, is that table. -/
theorem ofList_of_perm (perm : es.Perm t.entries) : ofList es = t := by
  apply ext_get?
  intro k
  rw [ofList, get?_foldl_insert_of_nodup (nodup_of_perm perm), valueOf?_of_perm perm]
  exact Option.or_none

theorem eq_empty_of_perm (perm : List.Perm [] t.entries) : t = ∅ := (ofList_of_perm perm).symm

/-! ## Tables of a function -/

theorem get?_foldl_insert (f : String → α) (names : List String) (t : Table α) (k : String) :
    ((names.map fun n => (n, f n)).foldl (fun t e => t.insert e.1 e.2) t).get? k =
      if k ∈ names then some (f k) else t.get? k := by
  induction names generalizing t with
  | nil => rfl
  | cons n names ih =>
    rw [List.map_cons, List.foldl_cons, ih, get?_insert]
    by_cases later : k ∈ names
    · simp [later]
    · by_cases same : n = k
      · simp [same]
      · simp [later, same, Ne.symm same]

/-- Look-up in the table of a function on some names. -/
theorem get?_ofList_map (f : String → α) (names : List String) (k : String) :
    (ofList (names.map fun n => (n, f n))).get? k = if k ∈ names then some (f k) else none :=
  get?_foldl_insert f names empty k

theorem mem_keys_ofList_map {f : String → α} {names : List String} :
    k ∈ (ofList (names.map fun n => (n, f n))).keys ↔ k ∈ names := by
  rw [mem_keys_iff, get?_ofList_map]
  by_cases mem : k ∈ names <;> simp [mem]

end Table

end TaskWorker
