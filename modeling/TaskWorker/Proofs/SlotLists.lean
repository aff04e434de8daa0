import TaskWorker.Proofs.Numerals
import TaskWorker.Proofs.PairLists
/-!
# Numbers in lists of pairs

The slots of each type are a list of pairs whose values are numerals. The pairs go into a table
before their numbers are read, so that of one name only the last value is looked at.

* `Environment.word64_eq_ok_iff`, `Environment.forall₂_of_numbersOf`: the numbers of some pairs;
  **`Environment.exists_numbers_iff`**, `Environment.get?_of_numbers`: the numbers of a list of
  pairs; `Environment.numbers_eq_error`: what is reported;
* `PairList.FitsNumber`, the entries that give a number; `PairList.Overwritten`, the pairs that give
  way; `PairList.forall_fitsNumber_iff`: a list of such entries;
* `Environment.only`, an environment with one variable; `Settings.ofSlotList_eq`;
* **`Settings.slots_by_entries`**: when settings with nothing but slots of each type are accepted,
  and what becomes of them; **`Settings.overwritten_number`**: a bad number that is not reported.
-/

namespace TaskWorker

open Text (IsNumeral IsNumeralOf)

namespace Environment

open PairList (Fits Gives LastGives parts)

variable {key value k v : String} {ps : List (String × String)} {ns : List (String × UInt64)}
  {texts : Table String} {t : Table UInt64} {n : UInt64} {error : SettingsError}

/-! ## Numbers -/

theorem word64_eq (key value : String) : word64 key value =
    match Text.readNumeral (UInt64.size - 1) (Text.trim value.toList) with
    | .ok n => .ok (UInt64.ofNat n)
    | .error fault => .error (.badVariable key value (.number fault)) := by
  rw [word64, number]
  cases Text.readNumeral (UInt64.size - 1) (Text.trim value.toList) <;> rfl

theorem word64_eq_ok_iff :
    word64 key value = .ok n ↔ IsNumeralOf (Text.trim value.toList) n.toNat := by
  rw [← Text.readNumeral_word_iff, word64_eq]
  cases Text.readNumeral (UInt64.size - 1) (Text.trim value.toList) <;> simp

theorem exists_word64_iff : (∃ n, word64 key value = .ok n) ↔
    IsNumeral (UInt64.size - 1) (Text.trim value.toList) := by
  rw [Text.isNumeral_iff, word64_eq]
  cases Text.readNumeral (UInt64.size - 1) (Text.trim value.toList) <;> simp

theorem word64_error (refused : word64 key value = .error error) :
    ∃ fault, error = .badVariable key value fault := by
  rw [word64_eq] at refused
  split at refused
  · cases refused
  · cases refused
    exact ⟨_, rfl⟩

/-- A number stands under the name of its text. -/
def ReadAs (key : String) (p : String × String) (m : String × UInt64) : Prop :=
  m.1 = p.1 ∧ word64 key p.2 = .ok m.2

theorem forall₂_of_numbersOf (read : numbersOf key ps = .ok ns) :
    List.Forall₂ (ReadAs key) ps ns := by
  induction ps generalizing ns with
  | nil =>
    cases read
    exact .nil
  | cons p ps ih =>
    obtain ⟨k, v⟩ := p
    rw [numbersOf] at read
    cases first : word64 key v with
    | error e =>
      rw [first] at read
      cases read
    | ok n =>
      rw [first] at read
      cases rest : numbersOf key ps with
      | error e =>
        rw [rest] at read
        cases read
      | ok ms =>
        rw [rest] at read
        cases read
        exact .cons ⟨rfl, first⟩ (ih rest)

theorem numbersOf_error (refused : numbersOf key ps = .error error) :
    ∃ p ∈ ps, word64 key p.2 = .error error := by
  induction ps with
  | nil => cases refused
  | cons p ps ih =>
    obtain ⟨k, v⟩ := p
    rw [numbersOf] at refused
    cases first : word64 key v with
    | error e =>
      rw [first] at refused
      cases refused
      exact ⟨(k, v), List.mem_cons_self, first⟩
    | ok n =>
      rw [first] at refused
      cases rest : numbersOf key ps with
      | error e =>
        rw [rest] at refused
        cases refused
        obtain ⟨p, mem, error⟩ := ih rest
        exact ⟨p, List.mem_cons_of_mem _ mem, error⟩
      | ok ms =>
        rw [rest] at refused
        cases refused

/-- A number is found where its text is. -/
theorem valueOf?_of_forall₂ (read : List.Forall₂ (ReadAs key) ps ns) :
    valueOf? k ns = some n ↔ ∃ v, valueOf? k ps = some v ∧ word64 key v = .ok n := by
  induction read with
  | nil => exact ⟨nofun, nofun⟩
  | @cons p m ps ns first _ ih =>
    rw [valueOf?, valueOf?, first.1]
    by_cases here : p.1 = k
    · rw [if_pos here, if_pos here]
      constructor
      · intro same
        cases same
        exact ⟨p.2, rfl, first.2⟩
      · rintro ⟨v, same, number⟩
        cases same
        rw [first.2] at number
        cases number
        rfl
    · rw [if_neg here, if_neg here]
      exact ih

theorem names_of_forall₂ (read : List.Forall₂ (ReadAs key) ps ns) :
    ns.map Prod.fst = ps.map Prod.fst := by
  induction read with
  | nil => rfl
  | cons first _ ih => rw [List.map_cons, List.map_cons, ih, first.1]

/-- Where a text is, there is a number. -/
theorem exists_of_forall₂ (read : List.Forall₂ (ReadAs key) ps ns)
    (found : valueOf? k ps = some v) : ∃ n, word64 key v = .ok n := by
  cases there : valueOf? k ns with
  | none =>
    rw [valueOf?_eq_none_iff, names_of_forall₂ read, ← valueOf?_eq_none_iff, found] at there
    cases there
  | some n =>
    obtain ⟨w, text, number⟩ := (valueOf?_of_forall₂ read).mp there
    rw [found] at text
    cases text
    exact ⟨n, number⟩

/-! ## Numbers of a list of pairs -/

theorem numbers_eq_ok (read : numbers key value = .ok t) : ∃ texts ns,
    pairs key value = .ok texts ∧ List.Forall₂ (ReadAs key) texts.entries ns ∧ t = .ofList ns := by
  rw [numbers] at read
  cases form : pairs key value with
  | error e =>
    rw [form] at read
    cases read
  | ok texts =>
    rw [form] at read
    cases each : numbersOf key texts.entries with
    | error e =>
      simp only [each] at read
      cases read
    | ok ns =>
      simp only [each] at read
      cases read
      exact ⟨texts, ns, rfl, forall₂_of_numbersOf each, rfl⟩

/-- Each name has the number of its last entry. -/
theorem get?_of_numbers (read : numbers key value = .ok t) :
    t.get? k = some n ↔ ∃ v, LastGives (parts value) k v ∧ word64 key v = .ok n := by
  obtain ⟨texts, ns, form, each, rfl⟩ := numbers_eq_ok read
  have unique : (ns.map Prod.fst).Nodup := by
    rw [names_of_forall₂ each]
    exact texts.nodup_keys
  have found : (Table.ofList ns).get? k = valueOf? k ns := by
    rw [Table.ofList, Table.get?_foldl_insert_of_nodup unique]
    exact Option.or_none
  rw [found, valueOf?_of_forall₂ each]
  simp only [← get?_of_pairs form, Table.get?]

theorem pairs_error (refused : pairs key value = .error error) :
    ∃ fault, error = .badVariable key value fault := by
  rw [pairs] at refused
  split at refused
  · cases refused
  · cases refused
    exact ⟨_, rfl⟩

/-- What is reported is an entry that does not fit or the last value of a name. -/
theorem numbers_eq_error (refused : numbers key value = .error error) :
    pairs key value = .error error ∨
      ∃ k v, LastGives (parts value) k v ∧ word64 key v = .error error := by
  rw [numbers] at refused
  cases form : pairs key value with
  | error e =>
    rw [form] at refused
    cases refused
    exact .inl rfl
  | ok texts =>
    rw [form] at refused
    cases each : numbersOf key texts.entries with
    | error e =>
      simp only [each] at refused
      cases refused
      obtain ⟨⟨k, v⟩, mem, number⟩ := numbersOf_error each
      exact .inr ⟨k, v, (get?_of_pairs form).mp (Table.mem_entries_iff.mp mem), number⟩
    | ok ns =>
      simp only [each] at refused
      cases refused

/-- **The numbers of a list of pairs are read if all entries fit and the last value of each name is
a numeral.** -/
theorem exists_numbers_iff : (∃ t, numbers key value = .ok t) ↔ (∀ e ∈ parts value, Fits e) ∧
    ∀ k v, LastGives (parts value) k v → ∃ n, word64 key v = .ok n := by
  constructor
  · rintro ⟨t, read⟩
    obtain ⟨texts, ns, form, each, -⟩ := numbers_eq_ok read
    refine ⟨exists_pairs_iff.mp ⟨texts, form⟩, fun k v given => ?_⟩
    exact exists_of_forall₂ each ((get?_of_pairs form).mpr given)
  · rintro ⟨fits, last⟩
    have formed : ∃ texts, pairs key value = .ok texts := exists_pairs_iff.mpr fits
    obtain ⟨texts, form⟩ := formed
    cases read : numbers key value with
    | ok t => exact ⟨t, rfl⟩
    | error e =>
      rcases numbers_eq_error read with refused | ⟨k, v, given, refused⟩
      · rw [form] at refused
        cases refused
      · obtain ⟨n, number⟩ := last k v given
        rw [refused] at number
        cases number

/-- An environment in which one variable is set. -/
def only (name value : String) : Environment := fun key => if key = name then some value else none

theorem get_only (name value : String) {α : Type}
    {read : String → String → Except SettingsError α} {absent : α} :
    (only name value).get name read absent = read name value :=
  get_of_some (if_pos rfl)

theorem get_only_of_ne {name value key : String} (other : key ≠ name) {α : Type}
    {read : String → String → Except SettingsError α} {absent : α} :
    (only name value).get key read absent = .ok absent := by
  have unset : only name value key = none := if_neg other
  rw [get, unset]

end Environment

/-! ## Entries with numbers -/

namespace PairList

variable {e : List Char} {es : List (List Char)} {k k' v v' : String}

/-- A text that is a numeral of 64 bits, with blanks around it or not. -/
def IsNumber (v : String) : Prop := IsNumeral (UInt64.size - 1) (Text.trim v.toList)

/-- An entry is blank or gives a number to a name. -/
def FitsNumber (e : List Char) : Prop := Text.trim e = [] ∨ ∃ k v, Gives e k v ∧ IsNumber v

/-- An entry gives a value to a name, and a later one gives the name another value. -/
def Overwritten (es : List (List Char)) (k v : String) : Prop :=
  ∃ before e after, es = before ++ e :: after ∧ Gives e k v ∧ ∃ f ∈ after, ∃ w, Gives f k w

theorem Gives.unique (gives : Gives e k v) (gives' : Gives e k' v') : k' = k ∧ v' = v := by
  rw [← given?_eq_some_iff] at gives gives'
  rw [gives] at gives'
  cases gives'
  exact ⟨rfl, rfl⟩

theorem Gives.not_blank (gives : Gives e k v) : Text.trim e ≠ [] := by
  obtain ⟨l, r, parts, -⟩ := gives
  rw [parts]
  simp

/-- What an entry gives is the last value of its name or overwritten. -/
theorem Gives.last_or_overwritten (gives : Gives e k v) (mem : e ∈ es) :
    LastGives es k v ∨ Overwritten es k v := by
  obtain ⟨before, after, rfl⟩ := List.append_of_mem mem
  by_cases later : ∃ f ∈ after, ∃ w, Gives f k w
  · exact .inr ⟨before, e, after, rfl, gives, later⟩
  · push Not at later
    exact .inl ⟨before, e, after, rfl, gives, later⟩

/-- **All entries give numbers if they fit, and both the values that count and those that are
overwritten are numbers.** -/
theorem forall_fitsNumber_iff : (∀ e ∈ es, FitsNumber e) ↔
    ((∀ e ∈ es, Fits e) ∧ ∀ k v, LastGives es k v → IsNumber v) ∧
      ∀ k v, Overwritten es k v → IsNumber v := by
  constructor
  · intro numbers
    have number {e : List Char} {k v : String} (mem : e ∈ es) (gives : Gives e k v) :
        IsNumber v := by
      rcases numbers e mem with blank | ⟨k', v', gives', number⟩
      · exact absurd blank gives.not_blank
      · rw [← (gives.unique gives').2]
        exact number
    refine ⟨⟨fun e mem => ?_, ?_⟩, ?_⟩
    · exact (numbers e mem).imp_right fun ⟨k, v, gives, _⟩ => ⟨k, v, gives⟩
    · rintro k v ⟨before, e, after, rfl, gives, -⟩
      exact number (by simp) gives
    · rintro k v ⟨before, e, after, rfl, gives, -⟩
      exact number (by simp) gives
  · rintro ⟨⟨fits, last⟩, overwritten⟩ e mem
    refine (fits e mem).imp_right ?_
    rintro ⟨k, v, gives⟩
    refine ⟨k, v, gives, ?_⟩
    exact (gives.last_or_overwritten mem).elim (last k v) (overwritten k v)

end PairList

/-! ## Settings with slots of each type -/

namespace Settings

open PairList (Fits FitsNumber IsNumber LastGives Overwritten parts)

/-- The settings of an environment in which nothing but the slots of each type is set. -/
def ofSlotList (value freshId : String) : Except SettingsError Settings :=
  ofEnvironment (.only "WORKER_TASK_THREAD_COUNT" value) freshId

theorem ofSlotList_eq (value freshId : String) : ofSlotList value freshId =
      (Environment.numbers "WORKER_TASK_THREAD_COUNT" value).map fun t =>
        { standard freshId with slotsPerType := t } := by
  have unset {key : String} (other : key ≠ "WORKER_TASK_THREAD_COUNT") :
      Environment.only "WORKER_TASK_THREAD_COUNT" value key = none := if_neg other
  have absent {key : String} (other : key ≠ "WORKER_TASK_THREAD_COUNT") {α : Type}
      {read : String → String → Except SettingsError α} {a : α} :
      (Environment.only "WORKER_TASK_THREAD_COUNT" value).get key read a = .ok a :=
    Environment.get_only_of_ne other
  unfold ofSlotList ofEnvironment
  simp only [Environment.get_only, absent (by decide : "WORKER_THREAD_COUNT" ≠ _),
    absent (by decide : "WORKER_SLEEP_WHEN_RETRY_MS" ≠ _),
    absent (by decide : "WORKER_UPDATE_RETRY_COUNT" ≠ _),
    absent (by decide : "WORKER_SHUTDOWN_GRACE_PERIOD_SECS" ≠ _),
    absent (by decide : "WORKER_TASK_TO_DOMAIN" ≠ _), unset (by decide : "WORKER_ID" ≠ _),
    unset (by decide : "WORKER_NAME_PREFIX" ≠ _)]
  cases Environment.numbers "WORKER_TASK_THREAD_COUNT" value <;> rfl

theorem ofSlotList_eq_ok {value freshId : String} {s : Settings}
    (read : ofSlotList value freshId = .ok s) : ∃ t,
      Environment.numbers "WORKER_TASK_THREAD_COUNT" value = .ok t ∧
        s = { standard freshId with slotsPerType := t } := by
  rw [ofSlotList_eq] at read
  cases numbers : Environment.numbers "WORKER_TASK_THREAD_COUNT" value with
  | ok t =>
    rw [numbers] at read
    cases read
    exact ⟨t, rfl, rfl⟩
  | error e =>
    rw [numbers] at read
    cases read

theorem exists_ofSlotList_iff {value freshId : String} : (∃ s, ofSlotList value freshId = .ok s) ↔
    (∀ e ∈ parts value, Fits e) ∧ ∀ k v, LastGives (parts value) k v → IsNumber v := by
  have numbers : (∃ s, ofSlotList value freshId = .ok s) ↔
      ∃ t, Environment.numbers "WORKER_TASK_THREAD_COUNT" value = .ok t := by
    constructor
    · rintro ⟨s, read⟩
      obtain ⟨t, numbers, -⟩ := ofSlotList_eq_ok read
      exact ⟨t, numbers⟩
    · rintro ⟨t, numbers⟩
      rw [ofSlotList_eq, numbers]
      exact ⟨_, rfl⟩
  rw [numbers, Environment.exists_numbers_iff]
  simp only [Environment.exists_word64_iff, IsNumber]

/-- **When settings with slots of each type are accepted.** All entries have to fit, and the last
value of each type has to be a number; that type then gets this number of slots and all else is
standard. So a value that is no number is refused, except where a later entry of the same type takes
its place: exactly such values keep a list from being refused that does not give numbers alone. -/
theorem slots_by_entries (value freshId : String) :
    ((∃ s, ofSlotList value freshId = .ok s) ↔
      (∀ e ∈ parts value, Fits e) ∧ ∀ k v, LastGives (parts value) k v → IsNumber v) ∧
      ((∀ e ∈ parts value, FitsNumber e) ↔
        (∃ s, ofSlotList value freshId = .ok s) ∧
          ∀ k v, Overwritten (parts value) k v → IsNumber v) ∧
      (∀ s, ofSlotList value freshId = .ok s →
        s = { standard freshId with slotsPerType := s.slotsPerType } ∧
          ∀ k n, s.slotsPerType.get? k = some n ↔
            ∃ v, LastGives (parts value) k v ∧ IsNumeralOf (Text.trim v.toList) n.toNat) ∧
      ∀ error, ofSlotList value freshId = .error error →
        ∃ text fault, error = .badVariable "WORKER_TASK_THREAD_COUNT" text fault := by
  refine ⟨exists_ofSlotList_iff, ?_, ?_, ?_⟩
  · rw [exists_ofSlotList_iff, PairList.forall_fitsNumber_iff]
  · intro s read
    obtain ⟨t, numbers, rfl⟩ := ofSlotList_eq_ok read
    refine ⟨rfl, fun k n => ?_⟩
    rw [Environment.get?_of_numbers numbers]
    simp only [Environment.word64_eq_ok_iff]
  · intro error refused
    rw [ofSlotList_eq] at refused
    cases numbers : Environment.numbers "WORKER_TASK_THREAD_COUNT" value with
    | ok t =>
      rw [numbers] at refused
      cases refused
    | error e =>
      rw [numbers] at refused
      cases refused
      rcases Environment.numbers_eq_error numbers with form | ⟨k, v, -, number⟩
      · exact ⟨value, Environment.pairs_error form⟩
      · exact ⟨v, Environment.word64_error number⟩

/-- **A bad number can go unreported.** The first entry gives a type a value that is no number, and
the second one takes its place. -/
theorem overwritten_number :
    (∃ s, ofSlotList "pack=x,pack=1" "0" = .ok s ∧ s.slotsPerType.get? "pack" = some 1) ∧
      ¬∀ e ∈ parts "pack=x,pack=1", FitsNumber e := by
  constructor
  · have numbers : Environment.numbers "WORKER_TASK_THREAD_COUNT" "pack=x,pack=1" =
        .ok (.ofList [("pack", 1)]) := by rfl
    rw [ofSlotList_eq, numbers]
    exact ⟨_, rfl, rfl⟩
  · intro numbers
    have overwritten : Overwritten (parts "pack=x,pack=1") "pack" "x" :=
      ⟨[], "pack=x".toList, ["pack=1".toList], by decide, by decide, "pack=1".toList, by simp, "1",
        by decide⟩
    exact absurd ((PairList.forall_fitsNumber_iff.mp numbers).2 _ _ overwritten)
      (by unfold IsNumber; decide)

end Settings

end TaskWorker
