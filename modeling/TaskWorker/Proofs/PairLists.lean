import Mathlib.Data.List.Find
import Mathlib.Data.List.TakeWhile
import Mathlib.Logic.Relation
import TaskWorker.Proofs.Latest
import TaskWorker.Proofs.Variables
/-!
# What lists of pairs say

A list of pairs is read entry by entry, and what it says can be read off its entries: which name an
entry gives a value to, which entries do not fit, and what a table holds when all of them do. Only
the pairs count, and not how much room is left around them.

* `Text.trim_padded`, `Text.trim_append_cons`: blanks at the ends of a text, and a character in it
  that is no blank;
* `PairList.Gives`, the pair of an entry; `PairList.Fits`, entries that are no mistake;
  `PairList.LastGives`, the pair of the last entry of a name;
* `PairList.pairsOf_eq`, **`PairList.table_eq`**: the first entry that does not fit, or else all
  pairs; `Table.get?_ofList`: of one name the last pair counts;
* `PairList.Padded`, entries with more room around them; `PairList.Padded.same`,
  `PairList.same_of_padded`: they say the same;
* **`Environment.pairs_by_entries`**: what a variable with a list of pairs says.
-/

namespace TaskWorker

/-! ## Blanks around texts -/

namespace Text

variable {a b s l r : List Char} {c : Char}

theorem isBlankText_append : isBlankText (a ++ b) = true ↔
    isBlankText a = true ∧ isBlankText b = true := by
  rw [isBlankText, List.all_append, Bool.and_eq_true]
  rfl

theorem isBlankText_reverse : isBlankText s.reverse = isBlankText s := List.all_reverse

theorem trimFront_blank_append (blank : isBlankText a = true) (s : List Char) :
    trimFront (a ++ s) = trimFront s :=
  List.dropWhile_append_of_pos (List.all_eq_true.mp blank)

theorem trimBack_append_blank (blank : isBlankText b = true) (s : List Char) :
    trimBack (s ++ b) = trimBack s := by
  rw [trimBack, List.reverse_append, trimFront_blank_append (by rwa [isBlankText_reverse]),
    trimBack]

/-- What is trimmed to nothing is blank. -/
theorem trim_eq_nil_iff : trim s = [] ↔ isBlankText s = true := by
  constructor
  · intro nothing
    by_contra some
    obtain ⟨c, r, left⟩ := List.exists_cons_of_ne_nil (mt trimFront_eq_nil_iff.mp some)
    obtain ⟨u, kept⟩ := trimBack_cons_of_not_blank (s := r) (head_trimFront left)
    rw [trim, left, kept] at nothing
    cases nothing
  · intro blank
    rw [trim, trimFront_eq_nil_iff.mpr blank]
    rfl

/-- **Blanks at the ends of a text do not count.** -/
theorem trim_padded (front : isBlankText a = true) (back : isBlankText b = true) (s : List Char) :
    trim (a ++ s ++ b) = trim s := by
  rw [List.append_assoc, trim, trimFront_blank_append front, trim]
  by_cases blank : isBlankText s = true
  · rw [trimFront_eq_nil_iff.mpr (isBlankText_append.mpr ⟨blank, back⟩),
      trimFront_eq_nil_iff.mpr blank]
  · have some : (s.dropWhile isBlank).isEmpty = false := by
      rw [Bool.eq_false_iff, ne_eq, List.isEmpty_iff]
      exact mt trimFront_eq_nil_iff.mp blank
    have kept : trimFront (s ++ b) = trimFront s ++ b := by
      rw [trimFront, List.dropWhile_append, some]
      rfl
    rw [kept, trimBack_append_blank back]

theorem exists_blank_trimFront (s : List Char) :
    ∃ a, isBlankText a = true ∧ s = a ++ trimFront s :=
  ⟨s.takeWhile isBlank, List.all_takeWhile, List.takeWhile_append_dropWhile.symm⟩

theorem exists_trimBack_blank (s : List Char) :
    ∃ b, isBlankText b = true ∧ s = trimBack s ++ b := by
  obtain ⟨a, blank, front⟩ := exists_blank_trimFront s.reverse
  refine ⟨a.reverse, by rwa [isBlankText_reverse], ?_⟩
  rw [trimBack, ← List.reverse_append, ← front, List.reverse_reverse]

theorem trim_trimFront (s : List Char) : trim (trimFront s) = trim s := by
  rw [trim, trimFront_trimFront, trim]

theorem trim_trimBack (s : List Char) : trim (trimBack s) = trim s := by
  obtain ⟨b, blank, back⟩ := exists_trimBack_blank s
  have padded := trim_padded (a := []) rfl blank (trimBack s)
  rw [List.nil_append, ← back] at padded
  exact padded.symm

theorem trimFront_append_cons (clear : isBlank c = false) :
    trimFront (l ++ c :: r) = trimFront l ++ c :: r := by
  rw [trimFront, List.dropWhile_append]
  by_cases nothing : (l.dropWhile isBlank).isEmpty = true
  · rw [if_pos nothing, trimFront, List.isEmpty_iff.mp nothing]
    exact trimFront_cons_of_not_blank clear
  · rw [if_neg nothing, trimFront]

/-- **A character that is no blank keeps all that stands between it and other such characters.** -/
theorem trim_append_cons (clear : isBlank c = false) :
    trim (l ++ c :: r) = trimFront l ++ c :: trimBack r := by
  rw [trim, trimFront_append_cons clear, trimBack, List.reverse_append, List.reverse_cons,
    List.append_assoc, List.singleton_append, trimFront_append_cons clear, List.reverse_append,
    List.reverse_cons, List.reverse_reverse, List.append_assoc, List.singleton_append, trimBack]

end Text

/-! ## The last value of a name -/

/-- **Of one name the last entry counts.** -/
theorem Table.get?_ofList {α : Type} (es : List (String × α)) (k : String) :
    (Table.ofList es).get? k = (latest? Prod.fst k es).map Prod.snd := by
  induction es using List.reverseRecOn with
  | nil => rfl
  | append_singleton es e ih =>
    have last : Table.ofList (es ++ [e]) = (Table.ofList es).insert e.1 e.2 := by
      rw [Table.ofList, List.foldl_append]
      rfl
    rw [last, Table.get?_insert, latest?_concat, ih]
    by_cases here : e.1 = k
    · rw [if_pos here, if_pos here]
      rfl
    · rw [if_neg here, if_neg here]

namespace PairList

open Text (trim trimFront trimBack)

variable {e l r name value : List Char} {es fs : List (List Char)} {k v : String}

/-! ## Entries -/

/-- An entry gives a value to a name: without the blanks around it, it has an equal sign, what
stands before the first one is not blank, and name and value stand on its sides. -/
def Gives (e : List Char) (k v : String) : Prop :=
  ∃ l r, trim e = l ++ '=' :: r ∧ '=' ∉ l ∧ trim l ≠ [] ∧
    k = String.ofList (trim l) ∧ v = String.ofList (trim r)

/-- An entry is blank or gives a value to a name. -/
def Fits (e : List Char) : Prop := trim e = [] ∨ ∃ k v, Gives e k v

/-- The last one of the entries that give a value to a name gives it this value. -/
def LastGives (es : List (List Char)) (k v : String) : Prop :=
  ∃ before e after, es = before ++ e :: after ∧ Gives e k v ∧ ∀ f ∈ after, ∀ w, ¬Gives f k w

/-- The pair that an entry gives. -/
def given? (e : List Char) : Option (String × String) :=
  (pair? (trim e)).map fun p => (String.ofList p.1, String.ofList p.2)

theorem ne_of_notMem (absent : '=' ∉ l) : ∀ c ∈ l, decide (c ≠ '=') = true := by
  intro c mem
  apply decide_eq_true
  rintro rfl
  exact absent mem

theorem pair?_append (first : '=' ∉ l) :
    pair? (l ++ '=' :: r) = if (trim l).isEmpty then none else some (trim l, trim r) := by
  have plain := ne_of_notMem first
  rw [pair?, List.span_eq_takeWhile_dropWhile, List.takeWhile_append_of_pos plain,
    List.dropWhile_append_of_pos plain]
  simp

theorem pair?_of_notMem (absent : '=' ∉ e) : pair? e = none := by
  have plain := ne_of_notMem absent
  rw [pair?, List.span_eq_takeWhile_dropWhile, List.dropWhile_eq_nil_iff.mpr plain]

theorem pair?_eq_some_iff : pair? e = some (name, value) ↔
    ∃ l r, e = l ++ '=' :: r ∧ '=' ∉ l ∧ trim l ≠ [] ∧ name = trim l ∧ value = trim r := by
  constructor
  · intro pair
    by_cases mem : '=' ∈ e
    · obtain ⟨l, r, rfl, first⟩ := List.eq_append_cons_of_mem mem
      rw [pair?_append first] at pair
      split_ifs at pair with nothing
      cases pair
      exact ⟨l, r, rfl, first, by simpa using nothing, rfl, rfl⟩
    · rw [pair?_of_notMem mem] at pair
      cases pair
  · rintro ⟨l, r, rfl, first, some, rfl, rfl⟩
    rw [pair?_append first, if_neg (by simpa using some)]

theorem given?_eq_some_iff : given? e = some (k, v) ↔ Gives e k v := by
  rw [given?, Option.map_eq_some_iff]
  constructor
  · rintro ⟨⟨name, value⟩, pair, same⟩
    obtain ⟨l, r, parts, first, some, rfl, rfl⟩ := pair?_eq_some_iff.mp pair
    cases same
    exact ⟨l, r, parts, first, some, rfl, rfl⟩
  · rintro ⟨l, r, parts, first, some, rfl, rfl⟩
    exact ⟨(trim l, trim r), pair?_eq_some_iff.mpr ⟨l, r, parts, first, some, rfl, rfl⟩, rfl⟩

theorem fits_iff : Fits e ↔ trim e = [] ∨ pair? (trim e) ≠ none := by
  refine or_congr Iff.rfl ?_
  rw [Option.ne_none_iff_exists']
  constructor
  · rintro ⟨k, v, gives⟩
    obtain ⟨pair, found, -⟩ := Option.map_eq_some_iff.mp (given?_eq_some_iff.mpr gives)
    exact ⟨pair, found⟩
  · rintro ⟨pair, found⟩
    exact ⟨_, _, given?_eq_some_iff.mp (congrArg (Option.map _) found)⟩

instance (e : List Char) : Decidable (Fits e) := decidable_of_iff _ fits_iff.symm

instance (e : List Char) (k v : String) : Decidable (Gives e k v) :=
  decidable_of_iff _ given?_eq_some_iff

/-! ## The pairs of a text -/

theorem pairsOf_eq (es : List (List Char)) : pairsOf es =
    match es.find? fun e => (pair? e).isNone with
    | some e => .error e
    | none => .ok (es.filterMap fun e =>
        (pair? e).map fun p => (String.ofList p.1, String.ofList p.2)) := by
  induction es with
  | nil => rfl
  | cons e es ih =>
    rw [pairsOf]
    cases pair : pair? e with
    | none => rw [List.find?_cons_of_pos (by rw [pair]; rfl)]
    | some p =>
      rw [List.find?_cons_of_neg (by simp [pair]), ih, List.filterMap_cons, pair]
      cases es.find? fun e => (pair? e).isNone <;> rfl

/-- The entries of a text: what stands between its commas. -/
def parts (s : String) : List (List Char) := s.toList.splitOn ','

/-- **A text is refused for its first entry that does not fit,** and otherwise all its pairs are
taken. -/
theorem table_eq (s : String) : table s =
    match (parts s).find? fun e => ¬Fits e with
    | some e => .error (trim e)
    | none => .ok (.ofList ((parts s).filterMap given?)) := by
  have faults : (entries s.toList).find? (fun e => (pair? e).isNone) =
      ((parts s).find? fun e => ¬Fits e).map trim := by
    rw [entries, List.find?_filter, List.find?_map, split_eq, ← parts]
    congr 2
    funext e
    rw [Bool.eq_iff_iff]
    simp [fits_iff, Option.isNone_iff_eq_none]
  have found : (entries s.toList).filterMap
      (fun e => (pair? e).map fun p => (String.ofList p.1, String.ofList p.2)) =
        (parts s).filterMap given? := by
    rw [entries, List.filterMap_filter, List.filterMap_map, split_eq, ← parts]
    refine List.filterMap_congr fun e _ => ?_
    -- A blank entry has no pair.
    by_cases blank : trim e = []
    · simp [blank, given?, pair?_of_notMem]
    · simp [blank, given?]
  rw [table, pairs, pairsOf_eq, faults, found]
  cases (parts s).find? fun e => ¬Fits e <;> rfl

/-- The last pair of a name is that of the last entry that gives the name a value. -/
theorem lastGives_iff :
    (latest? Prod.fst k (es.filterMap given?)).map Prod.snd = some v ↔ LastGives es k v := by
  have gives (e : List Char) : (given? e).any (fun p => p.1 = k) = true ↔ ∃ w, Gives e k w := by
    rw [Option.any_eq_true]
    constructor
    · rintro ⟨p, found, same⟩
      exact ⟨p.2, given?_eq_some_iff.mp (found.trans (by rw [← of_decide_eq_true same]))⟩
    · rintro ⟨w, gives⟩
      exact ⟨(k, w), given?_eq_some_iff.mpr gives, by simp⟩
  rw [latest?, ← List.filterMap_reverse, List.find?_filterMap]
  constructor
  · intro latest
    obtain ⟨p, bound, rfl⟩ := Option.map_eq_some_iff.mp latest
    obtain ⟨e, found, pair⟩ := Option.bind_eq_some_iff.mp bound
    obtain ⟨named, after, before, parts, others⟩ := List.find?_eq_some_iff_append.mp found
    obtain ⟨w, given⟩ := (gives e).mp named
    refine ⟨before.reverse, e, after.reverse, ?_, ?_, ?_⟩
    · rw [List.reverse_eq_iff.mp parts]
      simp
    · rw [← given?_eq_some_iff, pair]
      rw [given?_eq_some_iff.mpr given] at pair
      cases pair
      rfl
    · intro f mem w given
      have other := others f (List.mem_reverse.mp mem)
      rw [Bool.not_eq_true', ← Bool.not_eq_true, gives] at other
      exact other ⟨w, given⟩
  · rintro ⟨before, e, after, rfl, given, last⟩
    have found : (before ++ e :: after).reverse.find?
        (fun f => (given? f).any fun p => p.1 = k) = some e := by
      refine List.find?_eq_some_iff_append.mpr
        ⟨(gives e).mpr ⟨v, given⟩, after.reverse, before.reverse, by simp, ?_⟩
      intro f mem
      rw [Bool.not_eq_true', ← Bool.not_eq_true, gives]
      rintro ⟨w, given⟩
      exact last f (List.mem_reverse.mp mem) w given
    rw [found, Option.bind_some, given?_eq_some_iff.mpr given]
    rfl

/-! ## Room around the pairs -/

/-- Entries with more room: one entry more, which is blank, or more blanks around the name and the
value of one entry. -/
inductive Padded : List (List Char) → List (List Char) → Prop where
  | entry {before after : List (List Char)} {e : List Char} (blank : Text.isBlankText e = true) :
    Padded (before ++ after) (before ++ e :: after)
  | gaps {before after : List (List Char)} {l r a b c d : List Char} (first : '=' ∉ l)
    (name : Text.isBlankText a = true ∧ Text.isBlankText b = true)
    (value : Text.isBlankText c = true ∧ Text.isBlankText d = true) :
    Padded (before ++ (l ++ '=' :: r) :: after)
      (before ++ (a ++ l ++ b ++ '=' :: (c ++ r ++ d)) :: after)

theorem given?_of_blank (blank : Text.isBlankText e = true) : given? e = none := by
  rw [given?, Text.trim_eq_nil_iff.mpr blank]
  rfl

theorem fits_of_blank (blank : Text.isBlankText e = true) : Fits e :=
  .inl (Text.trim_eq_nil_iff.mpr blank)

theorem notMem_of_blank (blank : Text.isBlankText e = true) : '=' ∉ e := by
  intro mem
  exact absurd (List.all_eq_true.mp blank '=' mem) (by decide)

theorem given?_append (first : '=' ∉ l) : given? (l ++ '=' :: r) =
    if (trim l).isEmpty then none else some (String.ofList (trim l), String.ofList (trim r)) := by
  have first' : '=' ∉ trimFront l := fun mem => first ((Text.trimFront_suffix l).subset mem)
  rw [given?, Text.trim_append_cons (by decide), pair?_append first', Text.trim_trimFront,
    Text.trim_trimBack]
  split_ifs <;> rfl

theorem fits_append (first : '=' ∉ l) : Fits (l ++ '=' :: r) ↔ trim l ≠ [] := by
  rw [fits_iff, Text.trim_append_cons (by decide)]
  have first' : '=' ∉ trimFront l := fun mem => first ((Text.trimFront_suffix l).subset mem)
  rw [pair?_append first', Text.trim_trimFront]
  simp

/-- **Entries with more room give the same pairs, and fit if the others do.** -/
theorem Padded.same (padded : Padded es fs) :
    fs.filterMap given? = es.filterMap given? ∧ ((∀ e ∈ fs, Fits e) ↔ ∀ e ∈ es, Fits e) := by
  cases padded with
  | entry blank =>
    rw [List.filterMap_append, List.filterMap_cons_none (given?_of_blank blank),
      List.filterMap_append, List.forall_mem_append, List.forall_mem_cons, List.forall_mem_append]
    exact ⟨rfl, and_congr_right fun _ => and_iff_right (fits_of_blank blank)⟩
  | @gaps before after l r a b c d first name value =>
    have first' : '=' ∉ a ++ l ++ b := by
      simp [first, notMem_of_blank name.1, notMem_of_blank name.2]
    have same : given? (a ++ l ++ b ++ '=' :: (c ++ r ++ d)) = given? (l ++ '=' :: r) := by
      rw [given?_append first', given?_append first, Text.trim_padded name.1 name.2,
        Text.trim_padded value.1 value.2]
    have fits : Fits (a ++ l ++ b ++ '=' :: (c ++ r ++ d)) ↔ Fits (l ++ '=' :: r) := by
      rw [fits_append first', fits_append first, Text.trim_padded name.1 name.2]
    constructor
    · rw [List.filterMap_append, List.filterMap_append, List.filterMap_cons, List.filterMap_cons,
        same]
    · simp only [List.forall_mem_append, List.forall_mem_cons, fits]

theorem same_of_padded (padded : Relation.ReflTransGen Padded es fs) :
    fs.filterMap given? = es.filterMap given? ∧ ((∀ e ∈ fs, Fits e) ↔ ∀ e ∈ es, Fits e) := by
  induction padded with
  | refl => exact ⟨rfl, Iff.rfl⟩
  | tail _ last ih => exact ⟨last.same.1.trans ih.1, last.same.2.trans ih.2⟩

end PairList

/-! ## Variables with lists of pairs -/

namespace Environment

open PairList (Fits Gives LastGives Padded parts given?)

variable {key value : String} {t : Table String}

theorem pairs_eq_ok_iff : pairs key value = .ok t ↔
    (∀ e ∈ parts value, Fits e) ∧ t = .ofList ((parts value).filterMap given?) := by
  rw [pairs, PairList.table_eq]
  cases misfit : (parts value).find? fun e => ¬Fits e with
  | some e =>
    have found := List.find?_some misfit
    have mem := List.mem_of_find?_eq_some misfit
    simp only [reduceCtorEq, false_iff, not_and]
    exact fun fits => absurd (fits e mem) (of_decide_eq_true found)
  | none =>
    have fits : ∀ e ∈ parts value, Fits e := by simpa using misfit
    simp only [Except.ok.injEq]
    exact ⟨fun same => ⟨fits, same.symm⟩, fun same => same.2.symm⟩

theorem pairs_eq_error {before after : List (List Char)} {e : List Char}
    (split : parts value = before ++ e :: after) (fits : ∀ f ∈ before, Fits f) (misfit : ¬Fits e) :
    pairs key value = .error (.badVariable key value (.entry (String.ofList (Text.trim e)))) := by
  have found : (parts value).find? (fun e => ¬Fits e) = some e :=
    List.find?_eq_some_iff_append.mpr
      ⟨by simpa using misfit, before, after, split, by simpa using fits⟩
  rw [pairs, PairList.table_eq, found]

/-- Each name has the value of its last entry. -/
theorem get?_of_pairs (read : pairs key value = .ok t) {k v : String} :
    t.get? k = some v ↔ LastGives (parts value) k v := by
  rw [(pairs_eq_ok_iff.mp read).2, Table.get?_ofList]
  exact PairList.lastGives_iff

theorem exists_pairs_iff : (∃ t, pairs key value = .ok t) ↔ ∀ e ∈ parts value, Fits e := by
  constructor
  · rintro ⟨t, read⟩
    exact (pairs_eq_ok_iff.mp read).1
  · intro fits
    exact ⟨_, pairs_eq_ok_iff.mpr ⟨fits, rfl⟩⟩

theorem pairs_padded {value' : String}
    (padded : Relation.ReflTransGen Padded (parts value) (parts value')) :
    pairs key value' = .ok t ↔ pairs key value = .ok t := by
  obtain ⟨given, fits⟩ := PairList.same_of_padded padded
  rw [pairs_eq_ok_iff, pairs_eq_ok_iff, given, fits]

/-- **What a variable with a list of pairs says.** It is accepted exactly if each of its entries is
blank or gives a value to a name. Then each name has the value of its last entry, and more commas
and blanks around names and values change nothing. Otherwise the first entry that does not fit is
reported, with the whole list, whatever comes after it. -/
theorem pairs_by_entries (key value : String) :
    ((∃ t, pairs key value = .ok t) ↔ ∀ e ∈ parts value, Fits e) ∧
      (∀ t, pairs key value = .ok t →
        ∀ k v, t.get? k = some v ↔ LastGives (parts value) k v) ∧
      (∀ value' t, Relation.ReflTransGen Padded (parts value) (parts value') →
        (pairs key value' = .ok t ↔ pairs key value = .ok t)) ∧
      ∀ before e after, parts value = before ++ e :: after → (∀ f ∈ before, Fits f) → ¬Fits e →
        pairs key value =
          .error (.badVariable key value (.entry (String.ofList (Text.trim e)))) := by
  exact ⟨exists_pairs_iff, fun _ read _ _ => get?_of_pairs read, fun _ _ => pairs_padded,
    fun _ _ _ => pairs_eq_error⟩

/-- The first list has room around its pairs and gives two values to one name, the second one has
two entries that do not fit. -/
theorem sample_pairs_by_entries :
    (∃ t, pairs "LIST" " pack= 4 ,,parcel=1,pack =5=x, " = .ok t ∧ t.get? "pack" = some "5=x") ∧
      pairs "LIST" "pack=4, =5 ,parcel" =
        .error (.badVariable "LIST" "pack=4, =5 ,parcel" (.entry "=5")) := by
  obtain ⟨accepted, last, -⟩ := pairs_by_entries "LIST" " pack= 4 ,,parcel=1,pack =5=x, "
  obtain ⟨t, read⟩ := accepted.mpr (by decide)
  refine ⟨⟨t, read, (last t read _ _).mpr ⟨[" pack= 4 ".toList, [], "parcel=1".toList],
    "pack =5=x".toList, [" ".toList], by decide, by decide, ?_⟩⟩, ?_⟩
  · intro f mem w given
    rw [List.mem_singleton.mp mem, ← PairList.given?_eq_some_iff,
      PairList.given?_of_blank (by decide)] at given
    cases given
  · exact (pairs_by_entries "LIST" "pack=4, =5 ,parcel").2.2.2 ["pack=4".toList] " =5 ".toList
      ["parcel".toList] (by decide) (by decide) (by decide)

end Environment

end TaskWorker
