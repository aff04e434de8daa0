import Mathlib.Data.List.TakeDrop
import TaskWorker.Proofs.Tables
import TaskWorker.Settings.Environment
/-!
# Settings written as variables

Settings can be written as variables of the environment: numbers in decimal, tables as lists of
pairs, and nothing for what is empty. Lengths of time are rounded down to whole milliseconds or
seconds, and a list of pairs cannot hold every text, as blanks around names and values do not count
and commas and equal signs have a meaning of their own. Settings that lose nothing in this way are
read back as they were.

* `Text.trim_eq_self_iff`, `Text.trim_of_notBlank`: texts that trimming leaves alone;
* `PairList.IsName`, `PairList.IsValue`, what a list of pairs can hold; `PairList.split_eq`,
  `PairList.pair?_written`, **`PairList.table_pairText`**: lists of pairs are read back;
* `Environment.number_toString`, `Environment.numbers_pairText`: numbers are read back, alone and in
  tables; `Environment.ofList_filterMap`: variables that may be missing;
* `Settings.Writable`, settings that lose nothing; **`Settings.ofEnvironment_toVariables`**: they
  are read back.
-/

namespace TaskWorker

/-! ## Texts without blanks around them -/

namespace Text

variable {s r : List Char}

theorem trimFront_suffix (s : List Char) : trimFront s <:+ s := List.dropWhile_suffix _

/-- Trimming leaves a text alone if it does so at each end. -/
theorem trim_eq_self_iff : trim s = s ↔ trimFront s = s ∧ trimFront s.reverse = s.reverse := by
  constructor
  · intro same
    have back : (trim s).length ≤ (trimFront s).length := by
      have := (trimFront_suffix (trimFront s).reverse).length_le
      rw [List.length_reverse] at this
      rwa [trim, trimBack, List.length_reverse]
    have front : trimFront s = s := by
      apply (trimFront_suffix s).eq_of_length
      have := (trimFront_suffix s).length_le
      rw [same] at back
      omega
    rw [trim, front, trimBack] at same
    exact ⟨front, by rw [← List.reverse_reverse (trimFront s.reverse), same]⟩
  · rintro ⟨front, back⟩
    rw [trim, front, trimBack, back, List.reverse_reverse]

theorem trimFront_append (some : s ≠ []) (same : trimFront s = s) (r : List Char) :
    trimFront (s ++ r) = s ++ r := by
  obtain ⟨c, s, rfl⟩ := List.exists_cons_of_ne_nil some
  exact trimFront_cons_of_not_blank (head_trimFront same)

theorem trimFront_of_notBlank (clear : ∀ c ∈ s, isBlank c = false) : trimFront s = s := by
  cases s with
  | nil => rfl
  | cons c s => exact trimFront_cons_of_not_blank (clear c List.mem_cons_self)

theorem trim_of_notBlank (clear : ∀ c ∈ s, isBlank c = false) : trim s = s :=
  trim_eq_self_iff.mpr ⟨trimFront_of_notBlank clear,
    trimFront_of_notBlank fun c mem => clear c (List.mem_reverse.mp mem)⟩

/-- A number in decimal has no blanks around it. -/
theorem trim_toDigits (n : Nat) : trim (Nat.toDigits 10 n) = Nat.toDigits 10 n :=
  trim_of_notBlank fun _ mem =>
    isBlank_of_isDigit (Nat.isDigit_of_mem_toDigits (by decide) (by decide) mem)

end Text

/-! ## Lists of pairs -/

namespace PairList

open Text (trim trimFront)

/-- A text that can be a value of a list of pairs. -/
def IsValue (v : String) : Prop := ',' ∉ v.toList ∧ trim v.toList = v.toList

/-- A text that can be a name of a list of pairs. -/
def IsName (k : String) : Prop := IsValue k ∧ k ≠ "" ∧ '=' ∉ k.toList

instance (v : String) : Decidable (IsValue v) := inferInstanceAs (Decidable (_ ∧ _))
instance (k : String) : Decidable (IsName k) := inferInstanceAs (Decidable (_ ∧ _))

/-- A pair in writing. -/
def written (p : String × String) : List Char := p.1.toList ++ '=' :: p.2.toList

variable {p : String × String} {ps : List (String × String)}

theorem split_eq (s : List Char) : split s = s.splitOn ',' := by
  unfold List.splitOn
  induction s with
  | nil => rfl
  | cons c s ih =>
    rw [split, ih, List.splitOnP_cons_eq_if_modifyHead]
    by_cases comma : c = ','
    · simp [comma]
    · rw [if_neg comma, if_neg (by simpa using comma)]
      obtain ⟨e, es, parts⟩ := List.exists_cons_of_ne_nil (List.splitOnP_ne_nil (· == ',') s)
      rw [parts]
      rfl

theorem pair?_written (name : IsName p.1) (value : IsValue p.2) :
    pair? (written p) = some (p.1.toList, p.2.toList) := by
  have plain : ∀ c ∈ p.1.toList, decide (c ≠ '=') = true := by
    intro c mem
    apply decide_eq_true
    rintro rfl
    exact name.2.2 mem
  have full : p.1.toList.isEmpty = false := by simpa using name.2.1
  unfold pair? written
  rw [List.span_eq_takeWhile_dropWhile, List.takeWhile_append_of_pos plain,
    List.dropWhile_append_of_pos plain]
  simp [name.1.2, value.2, full]

theorem trim_written (name : IsName p.1) (value : IsValue p.2) :
    trim (written p) = written p := by
  rw [Text.trim_eq_self_iff]
  constructor
  · exact Text.trimFront_append (by simpa using name.2.1) (Text.trim_eq_self_iff.mp name.1.2).1 _
  · rw [written, List.reverse_append, List.reverse_cons, List.append_assoc]
    -- Without a value the equal sign is at the end.
    by_cases empty : p.2.toList = []
    · rw [empty]
      exact Text.trimFront_cons_of_not_blank rfl
    · exact Text.trimFront_append (by simpa using empty) (Text.trim_eq_self_iff.mp value.2).2 _

theorem toList_pairText (ps : List (String × String)) :
    (Settings.pairText ps).toList = [','].intercalate (ps.map written) := by
  rw [Settings.pairText, String.toList_intercalate, List.map_map]
  congr 1
  refine List.map_congr_left fun p _ => ?_
  simp [written]

/-- The entries of a list are the pairs in writing. -/
theorem entries_pairText (plain : ∀ p ∈ ps, IsName p.1 ∧ IsValue p.2) :
    entries (Settings.pairText ps).toList = ps.map written := by
  rw [entries, toList_pairText, split_eq]
  -- A list without pairs is one blank entry, which does not count.
  by_cases empty : ps = []
  · rw [empty]
    rfl
  · have apart : ∀ e ∈ ps.map written, ',' ∉ e := by
      intro e mem
      obtain ⟨p, member, rfl⟩ := List.mem_map.mp mem
      obtain ⟨name, value⟩ := plain p member
      simp [written, name.1.1, value.1]
    have trimmed : (ps.map written).map trim = ps.map written := by
      rw [List.map_map]
      refine List.map_congr_left fun p mem => ?_
      exact trim_written (plain p mem).1 (plain p mem).2
    rw [List.splitOn_intercalate ',' apart (by simpa using empty), trimmed, List.filter_eq_self]
    intro e mem
    obtain ⟨p, -, rfl⟩ := List.mem_map.mp mem
    simp [written]

theorem pairsOf_written (plain : ∀ p ∈ ps, IsName p.1 ∧ IsValue p.2) :
    pairsOf (ps.map written) = .ok ps := by
  induction ps with
  | nil => rfl
  | cons p ps ih =>
    rw [List.forall_mem_cons] at plain
    rw [List.map_cons, pairsOf, pair?_written plain.1.1 plain.1.2]
    simp [ih plain.2]

/-- **A list of pairs in writing is read back.** -/
theorem table_pairText (plain : ∀ p ∈ ps, IsName p.1 ∧ IsValue p.2) :
    table (Settings.pairText ps) = .ok (.ofList ps) := by
  rw [table, pairs, entries_pairText plain, pairsOf_written plain]

end PairList

/-! ## Variables -/

namespace Environment

variable {key : String} {n bound : Nat}

theorem number_toString (le : n ≤ bound) : number bound key (toString n) = .ok n := by
  have digits : (toString n).toList = Nat.toDigits 10 n := by simp
  rw [number, digits, Text.trim_toDigits, Text.readNumeral_toDigits n le]

theorem word64_toString_of_lt (lt : n < UInt64.size) :
    word64 key (toString n) = .ok (UInt64.ofNat n) := by
  rw [word64, number_toString (Nat.le_sub_one_of_lt lt)]
  rfl

theorem word64_toString (n : UInt64) : word64 key (toString n) = .ok n := by
  show word64 key (toString n.toNat) = _
  rw [word64_toString_of_lt n.toNat_lt_size, UInt64.ofNat_toNat]

theorem word32_toString (n : UInt32) : word32 key (toString n) = .ok n := by
  show UInt32.ofNat <$> number _ key (toString n.toNat) = _
  rw [number_toString (Nat.le_sub_one_of_lt n.toNat_lt_size)]
  exact congrArg Except.ok UInt32.ofNat_toNat

theorem numbersOf_toString (es : List (String × UInt64)) :
    numbersOf key (es.map fun e => (e.1, toString e.2)) = .ok es := by
  induction es with
  | nil => rfl
  | cons e es ih => rw [List.map_cons, numbersOf, word64_toString]; simp [ih]

theorem get_of_some {α : Type} {env : Environment} {read : String → String → Except SettingsError α}
    {absent : α} {value : String} (found : env key = some value) :
    env.get key read absent = read key value := by
  rw [get, found]

open PairList (IsName IsValue)

theorem isValue_toString (n : UInt64) : IsValue (toString n) := by
  have digits : (toString n).toList = Nat.toDigits 10 n.toNat := by
    show (toString n.toNat).toList = _
    simp
  rw [IsValue, digits]
  refine ⟨fun comma => ?_, Text.trim_toDigits _⟩
  exact absurd (Nat.isDigit_of_mem_toDigits (by decide) (by decide) comma) (by decide)

/-- A table of texts is read back, in whatever order it was written. -/
theorem pairs_pairText {t : Table String} {ps : List (String × String)}
    (plain : ∀ p ∈ t.entries, IsName p.1 ∧ IsValue p.2) (perm : ps.Perm t.entries) :
    pairs key (Settings.pairText ps) = .ok t := by
  rw [pairs, PairList.table_pairText fun p mem => plain p (perm.mem_iff.mp mem),
    Table.ofList_of_perm perm]

/-- A table of numbers is read back, in whatever order it was written. -/
theorem numbers_pairText {t : Table UInt64} {es : List (String × UInt64)}
    (names : ∀ k ∈ t.keys, IsName k) (perm : es.Perm t.entries) :
    numbers key (Settings.pairText (es.map fun e => (e.1, toString e.2))) = .ok t := by
  have texts : pairs key (Settings.pairText (es.map fun e => (e.1, toString e.2))) =
      .ok (t.map fun _ n => toString n) := by
    refine pairs_pairText ?_ (perm.map _)
    intro p mem
    obtain ⟨e, entry, rfl⟩ := List.mem_map.mp mem
    exact ⟨names e.1 (List.mem_map_of_mem entry), isValue_toString e.2⟩
  have read : numbersOf key (t.map fun _ n => toString n).entries = .ok t.entries :=
    numbersOf_toString t.entries
  rw [numbers, texts]
  simp only [read, Table.ofList_of_perm (.refl t.entries)]

/-- Look-up among variables some of which are missing. -/
theorem ofList_filterMap {es : List (String × Option String)} (unique : (es.map Prod.fst).Nodup)
    (key : String) :
    Environment.ofList (es.filterMap fun e => e.2.map fun v => (e.1, v)) key =
      (valueOf? key es).join := by
  rw [Environment.ofList, Table.ofList,
    Table.get?_foldl_insert_of_nodup (nodup_filterMap unique), valueOf?_filterMap unique]
  exact Option.or_none

end Environment

namespace Settings

open PairList (IsName IsValue)

variable {s : Settings} {slots : List (String × UInt64)} {domains : List (String × String)}

/-- Settings that lose nothing when they are written as variables. -/
structure Writable (s : Settings) : Prop where
  /-- The pause is a whole number of milliseconds. -/
  millis : s.retryPause.nanos % 1_000_000 = 0
  /-- They fit into 64 bits. -/
  pause : s.retryPause.wholeMillis < UInt64.size
  /-- The grace period is a whole number of seconds. -/
  seconds : s.gracePeriod.nanos % 1_000_000_000 = 0
  slots : ∀ k ∈ s.slotsPerType.keys, IsName k
  domains : ∀ e ∈ s.domains.entries, IsName e.1 ∧ IsValue e.2

/-- The value of a list of pairs, unless it is empty. -/
def pairVariable (ps : List (String × String)) : Option String :=
  if ps.isEmpty then none else some (pairText ps)

/-- The variables of settings, with those that are missing. -/
def variableTable (s : Settings) (slots : List (String × UInt64))
    (domains : List (String × String)) : List (String × Option String) :=
  [("WORKER_ID", some s.workerId),
    ("WORKER_THREAD_COUNT", s.sharedSlots.map toString),
    ("WORKER_TASK_THREAD_COUNT", pairVariable (slots.map fun e => (e.1, toString e.2))),
    ("WORKER_SLEEP_WHEN_RETRY_MS", some (toString s.retryPause.wholeMillis)),
    ("WORKER_UPDATE_RETRY_COUNT", some (toString s.retries)),
    ("WORKER_SHUTDOWN_GRACE_PERIOD_SECS", some (toString s.gracePeriod.wholeSeconds)),
    ("WORKER_TASK_TO_DOMAIN", pairVariable domains),
    ("WORKER_NAME_PREFIX", some s.namePattern)]

theorem get_of_pairVariable {α : Type} {env : Environment} {key : String}
    {read : String → String → Except SettingsError α} {absent a : α} {ps : List (String × String)}
    (value : env key = pairVariable ps) (full : read key (pairText ps) = .ok a)
    (none : ps = [] → a = absent) : env.get key read absent = .ok a := by
  rw [pairVariable] at value
  by_cases empty : ps = []
  · rw [if_pos (by simpa using empty)] at value
    rw [Environment.get, value, none empty]
  · rw [if_neg (by simpa using empty)] at value
    rw [Environment.get_of_some value, full]

theorem toVariables_eq (s : Settings) (slots : List (String × UInt64))
    (domains : List (String × String)) : s.toVariables slots domains =
      (s.variableTable slots domains).filterMap fun e => e.2.map fun v => (e.1, v) := by
  unfold toVariables variableTable pairVariable
  cases s.sharedSlots <;> cases slots <;> cases domains <;> rfl

theorem ofList_toVariables (s : Settings) (slots : List (String × UInt64))
    (domains : List (String × String)) (key : String) :
    Environment.ofList (s.toVariables slots domains) key =
      (valueOf? key (s.variableTable slots domains)).join := by
  rw [toVariables_eq]
  apply Environment.ofList_filterMap
  show ["WORKER_ID", "WORKER_THREAD_COUNT", "WORKER_TASK_THREAD_COUNT",
    "WORKER_SLEEP_WHEN_RETRY_MS", "WORKER_UPDATE_RETRY_COUNT", "WORKER_SHUTDOWN_GRACE_PERIOD_SECS",
    "WORKER_TASK_TO_DOMAIN", "WORKER_NAME_PREFIX"].Nodup
  decide

/-- **Settings that lose nothing are read back as they were,** in whatever orders their tables are
written. -/
theorem ofEnvironment_toVariables (writable : s.Writable)
    (slotsOrder : slots.Perm s.slotsPerType.entries)
    (domainsOrder : domains.Perm s.domains.entries) (freshId : String) :
    ofEnvironment (.ofList (s.toVariables slots domains)) freshId = .ok s := by
  have look := ofList_toVariables s slots domains
  generalize Environment.ofList (s.toVariables slots domains) = env at look
  have workerId : env "WORKER_ID" = some s.workerId := look _
  have namePattern : env "WORKER_NAME_PREFIX" = some s.namePattern := look _
  have sharedSlots : env.get "WORKER_THREAD_COUNT" (fun k v => some <$> Environment.word64 k v)
      (standard freshId).sharedSlots = .ok s.sharedSlots := by
    have value : env "WORKER_THREAD_COUNT" = s.sharedSlots.map toString := look _
    cases shared : s.sharedSlots with
    | none => rw [Environment.get, value, shared]; rfl
    | some n =>
      rw [shared] at value
      rw [Environment.get_of_some value]
      exact congrArg (some <$> ·) (Environment.word64_toString n)
  have slotsPerType : env.get "WORKER_TASK_THREAD_COUNT" Environment.numbers
      (standard freshId).slotsPerType = .ok s.slotsPerType := by
    apply get_of_pairVariable (look _) (Environment.numbers_pairText writable.slots slotsOrder)
    intro empty
    rw [List.map_eq_nil_iff] at empty
    exact Table.eq_empty_of_perm (empty ▸ slotsOrder)
  have retryPause : env.get "WORKER_SLEEP_WHEN_RETRY_MS"
      (fun k v => Span.ofMillis <$> Environment.word64 k v) (standard freshId).retryPause =
        .ok s.retryPause := by
    rw [Environment.get_of_some (look _), Environment.word64_toString_of_lt writable.pause]
    exact congrArg Except.ok (Span.ofMillis_wholeMillis writable.pause writable.millis)
  have retries : env.get "WORKER_UPDATE_RETRY_COUNT" Environment.word32 (standard freshId).retries =
      .ok s.retries := by
    rw [Environment.get_of_some (look _), Environment.word32_toString]
  have gracePeriod : env.get "WORKER_SHUTDOWN_GRACE_PERIOD_SECS"
      (fun k v => Span.ofSeconds <$> Environment.word64 k v) (standard freshId).gracePeriod =
        .ok s.gracePeriod := by
    rw [Environment.get_of_some (look _), Environment.word64_toString]
    exact congrArg Except.ok (Span.ofSeconds_wholeSeconds writable.seconds)
  have domainTable : env.get "WORKER_TASK_TO_DOMAIN" Environment.pairs (standard freshId).domains =
      .ok s.domains := by
    apply get_of_pairVariable (look _) (Environment.pairs_pairText writable.domains domainsOrder)
    intro empty
    exact Table.eq_empty_of_perm (empty ▸ domainsOrder)
  unfold ofEnvironment
  simp only [sharedSlots, slotsPerType, retryPause, retries, gracePeriod, domainTable, workerId,
    namePattern]
  rfl

/-- Both tables have several entries, which are written out of order; one domain has an equal sign
in its name, and one has no name. -/
def sampleSettings : Settings :=
  { standard "0" with
    workerId := "north 1"
    slotsPerType := .ofList [("pack", 18446744073709551615), ("parcel", 0)]
    retryPause := .ofMillis 1500
    gracePeriod := .ofSeconds 3
    domains := .ofList [("pack", "zone=a"), ("parcel", ""), ("post box", "b")] }

theorem sample_ofEnvironment_toVariables :
    sampleSettings.Writable ∧
      ofEnvironment (.ofList
        [("WORKER_ID", "north 1"),
          ("WORKER_TASK_THREAD_COUNT", "parcel=0,pack=18446744073709551615"),
          ("WORKER_SLEEP_WHEN_RETRY_MS", "1500"), ("WORKER_UPDATE_RETRY_COUNT", "3"),
          ("WORKER_SHUTDOWN_GRACE_PERIOD_SECS", "3"),
          ("WORKER_TASK_TO_DOMAIN", "post box=b,parcel=,pack=zone=a"),
          ("WORKER_NAME_PREFIX", "workflow-worker-%d")]) "1" = .ok sampleSettings := by
  have writable : sampleSettings.Writable := by
    constructor <;> decide
  have slotsOrder : [("parcel", 0), ("pack", 18446744073709551615)].Perm
      sampleSettings.slotsPerType.entries := by decide
  have domainsOrder : [("post box", "b"), ("parcel", ""), ("pack", "zone=a")].Perm
      sampleSettings.domains.entries := by decide
  exact ⟨writable, ofEnvironment_toVariables writable slotsOrder domainsOrder "1"⟩

end Settings

end TaskWorker
