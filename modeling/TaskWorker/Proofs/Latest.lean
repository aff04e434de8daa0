import Mathlib.Data.List.Induction
import Mathlib.Data.List.Nodup
/-!
# The latest of each key

Handlers and registrations are kept one for each task type, and a later one takes the place of an
earlier one. What is left of a list that is kept so can be read off the list: each key once, in the
order in which the keys first occur, and under each key the last item that has it.

* `putLatest` keeps one item more, `putAll` keeps the items of a list; `latest?`, the last item of a
  key;
* `map_putLatest`, `nodup_putLatest`, `find?_putLatest`: the keys and the items after one more;
* **`keys_putAll`**, **`find?_putAll`**: the keys and the items of a list; `mem_of_mem_putAll`: no
  item is made up;
* `map_putAll`, `putAll_of_nodup`: lists under a function, and lists in which nothing gives way;
* `latest?_eq_none_iff`, `exists_latest?`: the keys that have a last item.
-/

namespace TaskWorker

universe u v

variable {β : Type u} {γ : Type v} {key : β → String} {x : β} {xs ys : List β} {t : String}

/-- Keeps an item; one of the same key gives its place to it. -/
def putLatest (key : β → String) (x : β) : List β → List β
  | [] => [x]
  | y :: ys => if key y = key x then x :: ys else y :: putLatest key x ys

/-- Keeps the items of a list, one after the other. -/
def putAll (key : β → String) (xs : List β) : List β :=
  xs.foldl (fun ys x => putLatest key x ys) []

/-- The last item of a key. -/
def latest? (key : β → String) (t : String) (xs : List β) : Option β :=
  xs.reverse.find? fun x => key x = t

/-! ## One item -/

theorem map_putLatest (key : β → String) (x : β) (ys : List β) :
    (putLatest key x ys).map key =
      if key x ∈ ys.map key then ys.map key else ys.map key ++ [key x] := by
  induction ys with
  | nil => simp [putLatest]
  | cons y ys ih =>
    unfold putLatest
    by_cases same : key y = key x
    · simp [same]
    · rw [if_neg same, List.map_cons, ih]
      by_cases known : key x ∈ ys.map key
      · simp [known]
      · simp [known, Ne.symm same]

theorem nodup_putLatest (nodup : (ys.map key).Nodup) : ((putLatest key x ys).map key).Nodup := by
  rw [map_putLatest]
  by_cases known : key x ∈ ys.map key
  · rw [if_pos known]
    exact nodup
  · rw [if_neg known, ← List.concat_eq_append]
    exact nodup.concat known

theorem mem_putLatest {y : β} (mem : y ∈ putLatest key x ys) : y = x ∨ y ∈ ys := by
  induction ys with
  | nil => exact .inl (List.mem_singleton.mp mem)
  | cons z ys ih =>
    unfold putLatest at mem
    by_cases same : key z = key x
    · rw [if_pos same] at mem
      exact (List.mem_cons.mp mem).imp_right (List.mem_cons_of_mem _)
    · rw [if_neg same] at mem
      rcases List.mem_cons.mp mem with rfl | mem
      · exact .inr List.mem_cons_self
      · exact (ih mem).imp_right (List.mem_cons_of_mem _)

theorem find?_putLatest (key : β → String) (x : β) (ys : List β) (t : String) :
    (putLatest key x ys).find? (fun y => key y = t) =
      if key x = t then some x else ys.find? fun y => key y = t := by
  induction ys with
  | nil => by_cases here : key x = t <;> simp [putLatest, here]
  | cons y ys ih =>
    unfold putLatest
    by_cases same : key y = key x
    · rw [if_pos same]
      by_cases here : key x = t
      · simp [here]
      · simp [here, same]
    · rw [if_neg same]
      by_cases here : key y = t
      · have other : key x ≠ t := fun h => same (here.trans h.symm)
        simp [here, other]
      · simp [here, ih]

theorem putLatest_of_notMem (new : key x ∉ ys.map key) : putLatest key x ys = ys ++ [x] := by
  induction ys with
  | nil => rfl
  | cons y ys ih =>
    rw [List.map_cons, List.mem_cons, not_or] at new
    rw [putLatest, if_neg (Ne.symm new.1), ih new.2, List.cons_append]

theorem map_putLatest_of_key {key' : γ → String} {f : β → γ} (same : ∀ y, key' (f y) = key y)
    (x : β) (ys : List β) : (putLatest key x ys).map f = putLatest key' (f x) (ys.map f) := by
  induction ys with
  | nil => rfl
  | cons y ys ih =>
    rw [List.map_cons, putLatest, putLatest, same, same]
    by_cases here : key y = key x
    · rw [if_pos here, if_pos here, List.map_cons]
    · rw [if_neg here, if_neg here, List.map_cons, ih]

/-! ## The items of a list -/

theorem putAll_concat (key : β → String) (xs : List β) (x : β) :
    putAll key (xs ++ [x]) = putLatest key x (putAll key xs) := by
  rw [putAll, List.foldl_append]
  rfl

theorem latest?_concat (key : β → String) (t : String) (xs : List β) (x : β) :
    latest? key t (xs ++ [x]) = if key x = t then some x else latest? key t xs := by
  unfold latest?
  by_cases here : key x = t <;> simp [here]

theorem eraseDups_concat (ks : List String) (k : String) :
    (ks ++ [k]).eraseDups = if k ∈ ks then ks.eraseDups else ks.eraseDups ++ [k] := by
  rw [List.eraseDups_append]
  by_cases known : k ∈ ks
  · simp [List.removeAll, known]
  · simp [List.removeAll, known, List.eraseDups_cons]

/-- **Each key is kept once, in the order in which the keys first occur.** -/
theorem keys_putAll (key : β → String) (xs : List β) :
    (putAll key xs).map key = (xs.map key).eraseDups := by
  induction xs using List.reverseRecOn with
  | nil => rfl
  | append_singleton xs x ih =>
    rw [putAll_concat, map_putLatest, ih, List.map_append, List.map_singleton, eraseDups_concat]
    simp only [List.mem_eraseDups]

theorem nodup_putAll (key : β → String) (xs : List β) : ((putAll key xs).map key).Nodup := by
  induction xs using List.reverseRecOn with
  | nil => exact List.nodup_nil
  | append_singleton xs x ih =>
    rw [putAll_concat]
    exact nodup_putLatest ih

/-- **The item that is kept under a key is the last one.** -/
theorem find?_putAll (key : β → String) (xs : List β) (t : String) :
    (putAll key xs).find? (fun y => key y = t) = latest? key t xs := by
  induction xs using List.reverseRecOn with
  | nil => rfl
  | append_singleton xs x ih => rw [putAll_concat, find?_putLatest, ih, latest?_concat]

theorem mem_of_mem_putAll (mem : x ∈ putAll key xs) : x ∈ xs := by
  induction xs using List.reverseRecOn with
  | nil => cases mem
  | append_singleton xs y ih =>
    rw [putAll_concat] at mem
    rcases mem_putLatest mem with rfl | mem
    · exact List.mem_append_right _ (List.mem_singleton_self _)
    · exact List.mem_append_left _ (ih mem)

theorem mem_keys_putAll : t ∈ (putAll key xs).map key ↔ t ∈ xs.map key := by
  rw [keys_putAll, List.mem_eraseDups]

/-- Where each key occurs once, nothing is replaced. -/
theorem putAll_of_nodup (nodup : (xs.map key).Nodup) : putAll key xs = xs := by
  induction xs using List.reverseRecOn with
  | nil => rfl
  | append_singleton xs x ih =>
    rw [List.map_append, List.map_singleton, List.nodup_append] at nodup
    obtain ⟨nodup, -, apart⟩ := nodup
    have new : key x ∉ xs.map key := fun mem => apart _ mem _ (List.mem_singleton_self _) rfl
    rw [putAll_concat, ih nodup, putLatest_of_notMem new]

/-- Keeping goes together with a function that leaves the keys alone. -/
theorem map_putAll {key' : γ → String} {f : β → γ} (same : ∀ y, key' (f y) = key y) (xs : List β) :
    (putAll key xs).map f = putAll key' (xs.map f) := by
  induction xs using List.reverseRecOn with
  | nil => rfl
  | append_singleton xs x ih =>
    rw [putAll_concat, map_putLatest_of_key same, ih, List.map_append, List.map_singleton,
      putAll_concat]

theorem latest?_eq_none_iff : latest? key t xs = none ↔ t ∉ xs.map key := by
  rw [latest?, List.find?_eq_none, List.mem_map, not_exists]
  refine forall_congr' fun x => ?_
  rw [List.mem_reverse, not_and, decide_eq_true_iff]

theorem mem_of_latest? (latest : latest? key t xs = some x) : x ∈ xs ∧ key x = t := by
  unfold latest? at latest
  exact ⟨List.mem_reverse.mp (List.mem_of_find?_eq_some latest), by
    simpa using List.find?_some latest⟩

theorem exists_latest? (mem : t ∈ xs.map key) : ∃ x, latest? key t xs = some x ∧ key x = t := by
  obtain ⟨x, latest⟩ := Option.ne_none_iff_exists'.mp fun none => latest?_eq_none_iff.mp none mem
  exact ⟨x, latest, (mem_of_latest? latest).2⟩

end TaskWorker
