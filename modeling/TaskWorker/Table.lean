/-!
# Tables

A table holds values under names, in increasing order of the names, each name once. Two tables that
answer every look-up alike are therefore equal.

* `put`, the sorted insertion on lists of entries; `Table`, such a list with its order;
* `Table.get?`, `Table.insert`, `Table.insertNew`, `Table.ofList`;
* **`Table.get?_insert`**, **`Table.get?_insertNew`**: look-up after each insertion;
* **`Table.ext_get?`**: equal look-ups make equal tables.
-/

namespace TaskWorker

universe u

variable {α : Type u}

/-! ## Entries -/

/-- Puts an entry into its place; an entry of the same name gives way. -/
def put (k : String) (v : α) : List (String × α) → List (String × α)
  | [] => [(k, v)]
  | (k', v') :: es =>
    if k < k' then (k, v) :: (k', v') :: es
    else if k' < k then (k', v') :: put k v es
    else (k, v) :: es

/-- The value under a name. -/
def valueOf? (k : String) : List (String × α) → Option α
  | [] => none
  | (k', v) :: es => if k' = k then some v else valueOf? k es

/-- Increasing order of names, each name once. -/
def Increasing (es : List (String × α)) : Prop := (es.map Prod.fst).Pairwise (· < ·)

theorem eq_of_not_lt {a b : String} (h₁ : ¬ a < b) (h₂ : ¬ b < a) : a = b :=
  String.le_antisymm (String.not_lt.mp h₂) (String.not_lt.mp h₁)

theorem ne_of_lt {a b : String} (h : a < b) : a ≠ b := by
  rintro rfl
  exact String.lt_irrefl _ h

theorem mem_put {k : String} {v : α} {es : List (String × α)} {e : String × α}
    (h : e ∈ put k v es) : e = (k, v) ∨ e ∈ es := by
  induction es with
  | nil => simpa [put] using h
  | cons f es ih =>
    obtain ⟨k', v'⟩ := f
    simp only [put] at h
    split at h
    · simpa using h
    · split at h
      · rcases List.mem_cons.mp h with h | h
        · exact .inr (by simp [h])
        · exact (ih h).imp id (by simp +contextual)
      · rcases List.mem_cons.mp h with h | h
        · exact .inl h
        · exact .inr (by simp [h])

theorem increasing_put (k : String) (v : α) {es : List (String × α)} (h : Increasing es) :
    Increasing (put k v es) := by
  induction es with
  | nil => simp [put, Increasing]
  | cons f es ih =>
    obtain ⟨k', v'⟩ := f
    simp only [Increasing, List.map_cons, List.pairwise_cons] at h
    obtain ⟨hk, hes⟩ := h
    simp only [put]
    split
    · rename_i hlt
      simp only [Increasing, List.map_cons, List.pairwise_cons, List.mem_cons]
      refine ⟨?_, hk, hes⟩
      rintro x (rfl | hx)
      · exact hlt
      · exact String.lt_trans hlt (hk x hx)
    · split
      · rename_i hlt
        simp only [Increasing, List.map_cons, List.pairwise_cons]
        refine ⟨?_, ih hes⟩
        intro x hx
        obtain ⟨e, he, rfl⟩ := List.mem_map.mp hx
        rcases mem_put he with rfl | he
        · exact hlt
        · exact hk _ (List.mem_map_of_mem he)
      · rename_i h₁ h₂
        obtain rfl := eq_of_not_lt h₁ h₂
        simpa only [Increasing, List.map_cons, List.pairwise_cons] using And.intro hk hes

theorem valueOf?_put (k : String) (v : α) (es : List (String × α)) (k' : String) :
    valueOf? k' (put k v es) = if k = k' then some v else valueOf? k' es := by
  induction es with
  | nil => simp [put, valueOf?]
  | cons f es ih =>
    obtain ⟨k₁, v₁⟩ := f
    simp only [put]
    split
    · simp [valueOf?]
    · split
      · rename_i hlt
        simp only [valueOf?, ih]
        by_cases h₁ : k₁ = k'
        · have : k ≠ k' := fun h => ne_of_lt hlt (h₁.trans h.symm)
          simp [h₁, this]
        · simp [h₁]
      · rename_i h₁ h₂
        obtain rfl := eq_of_not_lt h₁ h₂
        by_cases h : k = k' <;> simp [valueOf?, h]

theorem valueOf?_eq_none_of_lt {k : String} {es : List (String × α)}
    (h : ∀ e ∈ es, k < e.1) : valueOf? k es = none := by
  induction es with
  | nil => rfl
  | cons e es ih =>
    have : e.1 ≠ k := fun he => ne_of_lt (h e (by simp)) he.symm
    simp [valueOf?, this, ih fun f hf => h f (by simp [hf])]

theorem Increasing.head_lt {k : String} {v : α} {es : List (String × α)}
    (h : Increasing ((k, v) :: es)) : ∀ e ∈ es, k < e.1 := by
  simp only [Increasing, List.map_cons, List.pairwise_cons] at h
  exact fun e he => h.1 _ (List.mem_map_of_mem he)

theorem Increasing.tail {e : String × α} {es : List (String × α)} (h : Increasing (e :: es)) :
    Increasing es := by
  simp only [Increasing, List.map_cons, List.pairwise_cons] at h
  exact h.2

/-- Equal look-ups make equal entries. -/
theorem Increasing.ext {es fs : List (String × α)} (he : Increasing es) (hf : Increasing fs)
    (h : ∀ k, valueOf? k es = valueOf? k fs) : es = fs := by
  induction es generalizing fs with
  | nil =>
    cases fs with
    | nil => rfl
    | cons f fs => simpa [valueOf?] using h f.1
  | cons e es ih =>
    obtain ⟨k, v⟩ := e
    cases fs with
    | nil => simpa [valueOf?] using h k
    | cons f fs =>
      obtain ⟨k', v'⟩ := f
      have hk : k = k' := by
        apply eq_of_not_lt
        · intro hlt
          have h₀ := h k
          have : valueOf? k ((k', v') :: fs) = none := by
            refine valueOf?_eq_none_of_lt fun g hg => ?_
            rcases List.mem_cons.mp hg with rfl | hg
            · exact hlt
            · exact String.lt_trans hlt (hf.head_lt g hg)
          rw [this] at h₀
          simp [valueOf?] at h₀
        · intro hlt
          have h₀ := h k'
          have : valueOf? k' ((k, v) :: es) = none := by
            refine valueOf?_eq_none_of_lt fun g hg => ?_
            rcases List.mem_cons.mp hg with rfl | hg
            · exact hlt
            · exact String.lt_trans hlt (he.head_lt g hg)
          rw [this] at h₀
          simp [valueOf?] at h₀
      subst hk
      have hv : v = v' := by simpa [valueOf?] using h k
      subst hv
      refine congrArg _ (ih he.tail hf.tail fun x => ?_)
      by_cases hx : k = x
      · subst hx
        rw [valueOf?_eq_none_of_lt he.head_lt, valueOf?_eq_none_of_lt hf.head_lt]
      · simpa [valueOf?, hx] using h x

/-! ## Tables -/

/-- Values under names, in increasing order of the names. -/
structure Table (α : Type u) where
  entries : List (String × α)
  increasing : Increasing entries

namespace Table

/-- The table without entries. -/
def empty : Table α := ⟨[], List.Pairwise.nil⟩

instance : EmptyCollection (Table α) := ⟨empty⟩
instance : Inhabited (Table α) := ⟨empty⟩

instance [DecidableEq α] : DecidableEq (Table α) := fun s t =>
  decidable_of_iff (s.entries = t.entries) (by cases s; cases t; simp)

/-- The value under a name. -/
def get? (t : Table α) (k : String) : Option α := valueOf? k t.entries

/-- Whether a name has a value. -/
def contains (t : Table α) (k : String) : Bool := (t.get? k).isSome

/-- Sets the value of a name. -/
def insert (t : Table α) (k : String) (v : α) : Table α :=
  ⟨put k v t.entries, increasing_put k v t.increasing⟩

/-- Sets the value of a name that has none yet. -/
def insertNew (t : Table α) (k : String) (v : α) : Table α :=
  if t.contains k then t else t.insert k v

/-- The table of a list of entries; of one name the last entry counts. -/
def ofList (es : List (String × α)) : Table α :=
  es.foldl (fun t e => t.insert e.1 e.2) empty

/-- The names, in order. -/
def keys (t : Table α) : List String := t.entries.map Prod.fst

/-- The values, in the order of their names. -/
def values (t : Table α) : List α := t.entries.map Prod.snd

/-- The number of entries. -/
def size (t : Table α) : Nat := t.entries.length

/-- Whether a table has no entry. -/
def isEmpty (t : Table α) : Bool := t.entries.isEmpty

/-- Changes each value by a function of its name and itself. -/
def map {β : Type u} (f : String → α → β) (t : Table α) : Table β :=
  ⟨t.entries.map fun e => (e.1, f e.1 e.2), by
    have : (t.entries.map fun e => (e.1, f e.1 e.2)).map Prod.fst = t.entries.map Prod.fst := by
      simp [Function.comp_def]
    rw [Increasing, this]
    exact t.increasing⟩

/-- Changes the value of one name. -/
def modify (t : Table α) (k : String) (f : α → α) : Table α :=
  t.map fun k' v => if k' = k then f v else v

/-! ## Look-up -/

@[simp] theorem get?_empty (k : String) : (∅ : Table α).get? k = none := rfl

/-- **Look-up after an insertion.** -/
theorem get?_insert (t : Table α) (k : String) (v : α) (k' : String) :
    (t.insert k v).get? k' = if k = k' then some v else t.get? k' :=
  valueOf?_put k v t.entries k'

/-- **Look-up after an insertion that spares what is there.** -/
theorem get?_insertNew (t : Table α) (k : String) (v : α) (k' : String) :
    (t.insertNew k v).get? k' = if k = k' then some ((t.get? k).getD v) else t.get? k' := by
  unfold insertNew
  by_cases h : t.contains k
  · obtain ⟨w, hw⟩ := Option.isSome_iff_exists.mp h
    simp only [h, if_true]
    split
    · rename_i hk; subst hk; simp [hw]
    · rfl
  · have hn : t.get? k = none := by simpa [contains] using h
    simp [h, get?_insert, hn]

/-- **Equal look-ups make equal tables.** -/
theorem ext_get? {s t : Table α} (h : ∀ k, s.get? k = t.get? k) : s = t := by
  have := s.increasing.ext t.increasing h
  cases s
  cases t
  simpa using this

theorem valueOf?_map {β : Type u} (f : String → α → β) (es : List (String × α)) (k : String) :
    valueOf? k (es.map fun e => (e.1, f e.1 e.2)) = (valueOf? k es).map (f k) := by
  induction es with
  | nil => rfl
  | cons e es ih =>
    by_cases h : e.1 = k
    · subst h; simp [valueOf?]
    · simp [valueOf?, h, ih]

theorem get?_map {β : Type u} (f : String → α → β) (t : Table α) (k : String) :
    (t.map f).get? k = (t.get? k).map (f k) :=
  valueOf?_map f t.entries k

/-- Look-up after a change of one value. -/
theorem get?_modify (t : Table α) (k : String) (f : α → α) (k' : String) :
    (t.modify k f).get? k' = if k' = k then (t.get? k').map f else t.get? k' := by
  simp only [modify, get?_map]
  by_cases h : k' = k
  · simp [h]
  · simp [h]

end Table

end TaskWorker
