import Mathlib.Data.List.Basic
import TaskWorker.Overrides.Properties
import TaskWorker.Proofs.Numerals
/-!
# Properties that hide others

What a property of a task type comes to stands under the type's own name or under the name of all
types. A blank entry under the own name lets the general one through. An entry that is not blank
does not, also if it cannot be read; so it is not the same to have such an entry and to have none.

* `Table.filter`, **`Table.get?_filter`**: some entries of a table;
* `Properties.says?`, what an entry says in some reading; `Properties.firstSaid?`, the first of the
  two entries that says something; `Properties.Hides`, an entry that cannot be read in front of one
  that can; **`Properties.bind_property?_eq_iff`**: where the two differ;
* `Properties.saidFor`, all that the first such entries say about a type; `Properties.Idle`, entries
  that are blank or cannot be read; `Properties.without`, properties without some entries;
* **`Properties.overrides_by_entries`**: what entries that cannot be read change, and what it would
  change to remove them; **`Properties.unread_hides_general`**: such an entry.
-/

namespace TaskWorker

universe u

/-! ## Some entries of a table -/

namespace Table

variable {α : Type u}

/-- The entries that pass a test. -/
def filter (keep : String → α → Bool) (t : Table α) : Table α :=
  ⟨t.entries.filter fun e => keep e.1 e.2, t.increasing.sublist (List.filter_sublist.map Prod.fst)⟩

theorem valueOf?_filter (keep : String → α → Bool) {es : List (String × α)}
    (increasing : Increasing es) (k : String) :
    valueOf? k (es.filter fun e => keep e.1 e.2) = (valueOf? k es).filter (keep k) := by
  induction es with
  | nil => rfl
  | cons e es ih =>
    obtain ⟨k', v⟩ := e
    rw [List.filter_cons, valueOf?]
    by_cases kept : keep k' v = true
    · rw [if_pos kept, valueOf?, ih increasing.tail]
      by_cases here : k' = k
      · subst here
        rw [if_pos rfl, if_pos rfl, Option.filter_some, if_pos kept]
      · rw [if_neg here, if_neg here]
    · rw [if_neg kept, ih increasing.tail]
      by_cases here : k' = k
      · subst here
        rw [valueOf?_eq_none_of_lt increasing.head_lt, Option.filter_none, if_pos rfl,
          Option.filter_some, if_neg kept]
      · rw [if_neg here]

/-- **Look-up among some entries.** -/
theorem get?_filter (keep : String → α → Bool) (t : Table α) (k : String) :
    (t.filter keep).get? k = (t.get? k).filter (keep k) :=
  valueOf?_filter keep t.increasing k

end Table

namespace Properties

open Text (IsNumeralOf)

variable {p : Properties} {t k property : String} {β : Type u} {read : List Char → Option β}
  {gone : String → Bool}

/-! ## Readings of an entry -/

/-- What an entry says in a reading, unless it is blank. -/
def says? (p : Properties) (read : List Char → Option β) (k : String) : Option β :=
  (p.value? k).bind read

/-- What a property of a type says: its own entry, or else the one for every type, whichever is the
first to say something. -/
def firstSaid? (p : Properties) (read : List Char → Option β) (t property : String) : Option β :=
  (p.says? read (key t property)).or (p.says? read (key everyType property))

/-- The type's own entry is not blank and cannot be read, and the one for every type can. -/
def Hides (p : Properties) (read : List Char → Option β) (t property : String) : Prop :=
  p.value? (key t property) ≠ none ∧ p.says? read (key t property) = none ∧
    p.says? read (key everyType property) ≠ none

instance [DecidableEq β] : Decidable (p.Hides read t property) :=
  inferInstanceAs (Decidable (_ ∧ _ ∧ _))

theorem bind_property? (own : p.value? (key t property) ≠ none) :
    (p.property? t property).bind read = p.says? read (key t property) := by
  obtain ⟨v, found⟩ := Option.ne_none_iff_exists'.mp own
  rw [property?, says?, found, Option.some_or]

theorem bind_property?_of_blank (blank : p.value? (key t property) = none) :
    (p.property? t property).bind read = p.says? read (key everyType property) := by
  rw [property?, says?, blank, Option.none_or]

/-- **The entry that counts is the first one that says something,** unless it hides the other. -/
theorem bind_property?_eq_iff : (p.property? t property).bind read = p.firstSaid? read t property ↔
    ¬p.Hides read t property := by
  unfold Hides firstSaid?
  by_cases own : p.value? (key t property) = none
  · have silent : p.says? read (key t property) = none := by rw [says?, own, Option.bind_none]
    rw [bind_property?_of_blank own, silent, Option.none_or]
    simp [own]
  · rw [bind_property? own]
    cases said : p.says? read (key t property) with
    | some b => simp
    | none =>
      rw [Option.none_or]
      simp [own, eq_comm]

theorem bind_property?_of_hides (hides : p.Hides read t property) :
    (p.property? t property).bind read = none := by
  rw [bind_property? hides.1]
  exact hides.2.1

/-! ## All that is said about a type -/

/-- The properties whose values are numbers. -/
def numbers : List String := ["thread_count", "polling_interval"]

/-- Reads a number of 64 bits. -/
def number (v : List Char) : Option UInt64 :=
  (Text.readNumeral (UInt64.size - 1) v).toOption.map UInt64.ofNat

/-- Takes a text as it is. -/
def text (v : List Char) : Option String := some (String.ofList v)

/-- Overrides with these numbers and this domain. -/
def overrides (numbers : String → Option UInt64) (domain : Option String) : Overrides :=
  { slots := numbers "thread_count"
    interval := (numbers "polling_interval").map Span.ofMillis, domain }

/-- All that the first entries say about a type that say something. -/
def saidFor (p : Properties) (t : String) : Overrides :=
  overrides (p.firstSaid? number t) (p.firstSaid? text t "domain")

theorem overridesFor_eq (p : Properties) (t : String) :
    p.overridesFor t = overrides (p.number? t) ((p.property? t "domain").bind text) := by
  rw [overridesFor, overrides]
  cases p.property? t "domain" <;> rfl

theorem number_eq_some_iff {v : List Char} {n : UInt64} :
    number v = some n ↔ IsNumeralOf v n.toNat := by
  rw [← Text.readNumeral_word_iff, number]
  cases Text.readNumeral (UInt64.size - 1) v <;> simp [Except.toOption]

theorem number?_eq (p : Properties) (t property : String) :
    p.number? t property = (p.property? t property).bind number := rfl

theorem ofMillis_injective : Function.Injective Span.ofMillis := by
  intro m n same
  have nanos : m.toNat * 1_000_000 = n.toNat * 1_000_000 := congrArg Span.nanos same
  exact UInt64.toNat_inj.mp (by omega)

theorem overrides_eq_iff {f g : String → Option UInt64} {domain : Option String} :
    overrides f domain = overrides g domain ↔ ∀ property ∈ numbers, f property = g property := by
  rw [overrides, overrides, Overrides.mk.injEq, (Option.map_injective ofMillis_injective).eq_iff]
  simp [numbers]

/-- A text is never hidden: it can always be read. -/
theorem not_hides_text : ¬p.Hides text t property := by
  rintro ⟨own, silent, -⟩
  obtain ⟨v, found⟩ := Option.ne_none_iff_exists'.mp own
  rw [says?, found] at silent
  cases silent

/-! ## Without some entries -/

/-- The properties without the entries of some names. -/
def without (p : Properties) (gone : String → Bool) : Properties :=
  ⟨p.table.filter fun k _ => !gone k⟩

/-- The entry under a full name is blank, or it is to be a number and cannot be read. -/
def Idle (p : Properties) (k : String) : Prop :=
  p.value? k = none ∨ (∃ t, ∃ property ∈ numbers, k = key t property) ∧ p.says? number k = none

theorem value?_without (p : Properties) (gone : String → Bool) (k : String) :
    (p.without gone).value? k = if gone k then none else p.value? k := by
  unfold value? without
  rw [Table.get?_filter]
  by_cases drop : gone k = true
  · rw [if_pos drop]
    cases p.table.get? k <;> simp [drop]
  · rw [if_neg drop]
    cases p.table.get? k with
    | none => rfl
    | some v => rw [Option.filter_some, if_pos (by simpa using drop)]

/-- Numbers are not said by idle entries. -/
theorem says?_without (idle : ∀ k, gone k = true → p.Idle k) (k : String) :
    (p.without gone).says? number k = p.says? number k := by
  rw [says?, value?_without]
  by_cases drop : gone k = true
  · rw [if_pos drop]
    rcases idle k drop with blank | ⟨-, silent⟩
    · rw [says?, blank]
    · rw [silent, Option.bind_none]
  · rw [if_neg drop, says?]

theorem firstSaid?_without (idle : ∀ k, gone k = true → p.Idle k) (t property : String) :
    (p.without gone).firstSaid? number t property = p.firstSaid? number t property := by
  rw [firstSaid?, says?_without idle, says?_without idle, firstSaid?]

theorem hides_without_iff (idle : ∀ k, gone k = true → p.Idle k) :
    (p.without gone).Hides number t property ↔
      gone (key t property) = false ∧ p.Hides number t property := by
  unfold Hides
  rw [says?_without idle, says?_without idle, value?_without]
  cases gone (key t property) <;> simp

/-- **What is gone matters exactly where it was hiding something.** -/
theorem number?_without_iff (idle : ∀ k, gone k = true → p.Idle k) :
    (p.without gone).number? t property = p.number? t property ↔
      (gone (key t property) = true → ¬p.Hides number t property) := by
  rw [number?_eq, number?_eq]
  by_cases hides : p.Hides number t property
  · rw [bind_property?_of_hides hides]
    cases drop : gone (key t property) with
    | true =>
      have open' : ¬(p.without gone).Hides number t property := by
        rw [hides_without_iff idle, drop]
        simp
      rw [bind_property?_eq_iff.mpr open', firstSaid?_without idle, firstSaid?, hides.2.1,
        Option.none_or]
      simp [hides, hides.2.2]
    | false =>
      have still : (p.without gone).Hides number t property :=
        (hides_without_iff idle).mpr ⟨drop, hides⟩
      rw [bind_property?_of_hides still]
      simp
  · have open' : ¬(p.without gone).Hides number t property := fun still =>
      hides ((hides_without_iff idle).mp still).2
    rw [bind_property?_eq_iff.mpr open', bind_property?_eq_iff.mpr hides, firstSaid?_without idle]
    simp [hides]

theorem getLast?_key (t : String) (full : property ≠ "") :
    (key t property).toList.getLast? = property.toList.getLast? := by
  have some : property.toList ≠ [] := by simpa using full
  rw [key, String.toList_append, List.getLast?_append_of_ne_nil _ some]

/-- A domain is no number. -/
theorem key_domain_ne {t' : String} (number : property ∈ numbers) :
    key t "domain" ≠ key t' property := by
  intro same
  have last := congrArg (fun k => k.toList.getLast?) same
  rcases List.mem_cons.mp number with rfl | number
  · rw [getLast?_key t (by decide), getLast?_key t' (by decide)] at last
    exact absurd last (by decide)
  · obtain rfl := List.mem_singleton.mp number
    rw [getLast?_key t (by decide), getLast?_key t' (by decide)] at last
    exact absurd last (by decide)

theorem value?_domain_without (idle : ∀ k, gone k = true → p.Idle k) (t : String) :
    (p.without gone).value? (key t "domain") = p.value? (key t "domain") := by
  rw [value?_without]
  by_cases drop : gone (key t "domain") = true
  · rcases idle _ drop with blank | ⟨⟨t', property, number, same⟩, -⟩
    · rw [if_pos drop, blank]
    · exact absurd same (key_domain_ne number)
  · rw [if_neg drop]

theorem property?_domain_without (idle : ∀ k, gone k = true → p.Idle k) (t : String) :
    (p.without gone).property? t "domain" = p.property? t "domain" := by
  rw [property?, value?_domain_without idle, value?_domain_without idle, property?]

/-! ## What is said, and what would be -/

theorem says?_number_eq_some_iff {n : UInt64} :
    p.says? number k = some n ↔ ∃ v, p.value? k = some v ∧ IsNumeralOf v n.toNat := by
  simp only [says?, Option.bind_eq_some_iff, number_eq_some_iff]

theorem number?_eq_ite : p.number? t property =
    if p.Hides number t property then none else p.firstSaid? number t property := by
  split_ifs with hides
  · exact bind_property?_of_hides hides
  · exact bind_property?_eq_iff.mpr hides

theorem overridesFor_eq_iff : p.overridesFor t = p.saidFor t ↔
    ∀ property ∈ numbers, ¬p.Hides number t property := by
  rw [overridesFor_eq, saidFor, bind_property?_eq_iff.mpr not_hides_text, overrides_eq_iff]
  exact forall₂_congr fun _ _ => bind_property?_eq_iff

theorem overridesFor_without_iff (idle : ∀ k, gone k = true → p.Idle k) :
    (p.without gone).overridesFor t = p.overridesFor t ↔
      ∀ property ∈ numbers, gone (key t property) = true → ¬p.Hides number t property := by
  rw [overridesFor_eq, overridesFor_eq, property?_domain_without idle, overrides_eq_iff]
  exact forall₂_congr fun _ _ => number?_without_iff idle

/-- Where nothing idle is left, what counts is what is said first. -/
theorem overridesFor_without_all (idle : ∀ k, gone k = true ↔ p.Idle k) (t : String) :
    (p.without gone).overridesFor t = p.saidFor t := by
  have idle' : ∀ k, gone k = true → p.Idle k := fun k => (idle k).mp
  have said : (p.without gone).overridesFor t = (p.without gone).saidFor t := by
    refine overridesFor_eq_iff.mpr fun property number hides => ?_
    obtain ⟨stays, -, silent, -⟩ := (hides_without_iff idle').mp hides
    have drop := (idle _).mpr (.inr ⟨⟨t, property, number, rfl⟩, silent⟩)
    rw [drop] at stays
    cases stays
  have same : (p.without gone).firstSaid? number t = p.firstSaid? number t :=
    funext fun property => firstSaid?_without idle' t property
  have domain : (p.without gone).firstSaid? text t "domain" = p.firstSaid? text t "domain" := by
    rw [firstSaid?, says?, value?_domain_without idle', says?, value?_domain_without idle']
    rfl
  rw [said, saidFor, same, domain, saidFor]

/-- **What entries that cannot be read change.** A number is what the type's own entry says or else
the one for every type, unless the own entry is not blank and cannot be read and the other one can:
then there is none. A domain is always what is said first. To remove blank entries and entries that
cannot be read changes something exactly if one of them was hiding another entry, and once all of
them are gone the overrides are those that are said first. -/
theorem overrides_by_entries (p : Properties) (t : String) :
    (∀ k n, p.says? number k = some n ↔ ∃ v, p.value? k = some v ∧ IsNumeralOf v n.toNat) ∧
      p.overridesFor t = overrides (p.number? t) (p.firstSaid? text t "domain") ∧
      (∀ property, p.number? t property =
        if p.Hides number t property then none else p.firstSaid? number t property) ∧
      (p.overridesFor t = p.saidFor t ↔ ∀ property ∈ numbers, ¬p.Hides number t property) ∧
      (∀ gone, (∀ k, gone k = true → p.Idle k) →
        ((p.without gone).overridesFor t = p.overridesFor t ↔
          ∀ property ∈ numbers, gone (key t property) = true → ¬p.Hides number t property)) ∧
      ∀ gone, (∀ k, gone k = true ↔ p.Idle k) → (p.without gone).overridesFor t = p.saidFor t := by
  refine ⟨fun _ _ => says?_number_eq_some_iff, ?_, fun _ => number?_eq_ite, overridesFor_eq_iff,
    fun _ => overridesFor_without_iff, fun _ idle => overridesFor_without_all idle t⟩
  rw [overridesFor_eq, bind_property?_eq_iff.mpr not_hides_text]

/-- Slots that cannot be read in front of slots for every type. -/
def unreadSlots : Properties :=
  .ofList [("worker.pack.thread_count", "many"), ("worker.all.thread_count", "2")]

theorem idle_unreadSlots {k : String} (own : (k == "worker.pack.thread_count") = true) :
    unreadSlots.Idle k := by
  rw [beq_iff_eq.mp own]
  exact .inr ⟨⟨"pack", "thread_count", by decide, by decide⟩, by decide⟩

theorem sample_overrides_by_entries :
    unreadSlots.overridesFor "pack" ≠ unreadSlots.saidFor "pack" ∧
      (unreadSlots.without (· == "worker.pack.thread_count")).overridesFor "pack" ≠
        unreadSlots.overridesFor "pack" := by
  have hides : unreadSlots.Hides number "pack" "thread_count" := by decide
  obtain ⟨-, -, -, said, without, -⟩ := overrides_by_entries unreadSlots "pack"
  exact ⟨fun same => said.mp same "thread_count" (by decide) hides,
    fun same => (without _ fun _ => idle_unreadSlots).mp same "thread_count" (by decide) (by decide)
      hides⟩

/-- **An entry that cannot be read is not as good as none.** It hides the slots for every type,
which count as soon as it is gone. -/
theorem unread_hides_general :
    (unreadSlots.overridesFor "pack").slots = none ∧
      (unreadSlots.saidFor "pack").slots = some 2 ∧
      unreadSlots.says? number "worker.pack.thread_count" = none ∧
      ((unreadSlots.without (· == "worker.pack.thread_count")).overridesFor "pack").slots =
        some 2 := by
  decide

end Properties

end TaskWorker
