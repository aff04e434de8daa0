import TaskWorker.Settings.Basic
import TaskWorker.Settings.PairList
/-!
# Settings in the environment

Each setting has a variable; a variable that is not set leaves the standard in place. The variables
are read one after the other and the first bad one is reported, with its value as it stands there.
Numbers are decimal numerals, with blanks around them or not. In the list of slots the pairs are
checked for form before their numbers are read.

* `Environment`, the variables; `Settings.ofEnvironment` reads them;
* `Settings.toVariables` writes settings as variables.
-/

namespace TaskWorker

/-- The values of variables. -/
abbrev Environment := String → Option String

namespace Environment

/-- A numeral of at most `bound` in the variable `key`. -/
def number (bound : Nat) (key value : String) : Except SettingsError Nat :=
  match Text.readNumeral bound (Text.trim value.toList) with
  | .ok n => .ok n
  | .error fault => .error (.badVariable key value (.number fault))

/-- A numeral of 64 bits. -/
def word64 (key value : String) : Except SettingsError UInt64 :=
  UInt64.ofNat <$> number (UInt64.size - 1) key value

/-- A numeral of 32 bits. -/
def word32 (key value : String) : Except SettingsError UInt32 :=
  UInt32.ofNat <$> number (UInt32.size - 1) key value

/-- A list of pairs. -/
def pairs (key value : String) : Except SettingsError (Table String) :=
  match PairList.table value with
  | .ok t => .ok t
  | .error e => .error (.badVariable key value (.entry (String.ofList e)))

/-- The numbers of a list of pairs, each a numeral of 64 bits. -/
def numbersOf (key : String) :
    List (String × String) → Except SettingsError (List (String × UInt64))
  | [] => .ok []
  | (name, value) :: ps =>
    match word64 key value with
    | .error e => .error e
    | .ok n =>
      match numbersOf key ps with
      | .error e => .error e
      | .ok ns => .ok ((name, n) :: ns)

/-- A list of pairs with numbers. -/
def numbers (key value : String) : Except SettingsError (Table UInt64) :=
  match pairs key value with
  | .error e => .error e
  | .ok t =>
    match numbersOf key t.entries with
    | .error e => .error e
    | .ok ns => .ok (.ofList ns)

/-- The value of a variable as `read` sees it, or `absent` if it is not set. -/
def get {α : Type} (env : Environment) (key : String)
    (read : String → String → Except SettingsError α) (absent : α) : Except SettingsError α :=
  match env key with
  | none => .ok absent
  | some value => read key value

end Environment

namespace Settings

/-- The settings of an environment. -/
def ofEnvironment (env : Environment) (freshId : String) : Except SettingsError Settings := do
  let standard := standard freshId
  let workerId := (env "WORKER_ID").getD standard.workerId
  let sharedSlots ←
    env.get "WORKER_THREAD_COUNT" (fun k v => some <$> Environment.word64 k v) standard.sharedSlots
  let slotsPerType ←
    env.get "WORKER_TASK_THREAD_COUNT" Environment.numbers standard.slotsPerType
  let retryPause ←
    env.get "WORKER_SLEEP_WHEN_RETRY_MS" (fun k v => Span.ofMillis <$> Environment.word64 k v)
      standard.retryPause
  let retries ← env.get "WORKER_UPDATE_RETRY_COUNT" Environment.word32 standard.retries
  let gracePeriod ←
    env.get "WORKER_SHUTDOWN_GRACE_PERIOD_SECS"
      (fun k v => Span.ofSeconds <$> Environment.word64 k v) standard.gracePeriod
  let domains ← env.get "WORKER_TASK_TO_DOMAIN" Environment.pairs standard.domains
  let namePattern := (env "WORKER_NAME_PREFIX").getD standard.namePattern
  return { workerId, sharedSlots, slotsPerType, retryPause, retries, gracePeriod, domains,
           namePattern }

/-- Pairs in writing. -/
def pairText (ps : List (String × String)) : String :=
  String.intercalate "," (ps.map fun p => p.1 ++ "=" ++ p.2)

/-- The variables of some settings, whose tables are written in the given orders. -/
def toVariables (s : Settings) (slots : List (String × UInt64)) (domains : List (String × String)) :
    List (String × String) :=
  [("WORKER_ID", s.workerId)] ++
    (s.sharedSlots.map fun n => ("WORKER_THREAD_COUNT", toString n)).toList ++
    (if slots.isEmpty then []
      else [("WORKER_TASK_THREAD_COUNT", pairText (slots.map fun p => (p.1, toString p.2)))]) ++
    [("WORKER_SLEEP_WHEN_RETRY_MS", toString s.retryPause.wholeMillis),
      ("WORKER_UPDATE_RETRY_COUNT", toString s.retries),
      ("WORKER_SHUTDOWN_GRACE_PERIOD_SECS", toString s.gracePeriod.wholeSeconds)] ++
    (if domains.isEmpty then [] else [("WORKER_TASK_TO_DOMAIN", pairText domains)]) ++
    [("WORKER_NAME_PREFIX", s.namePattern)]

end Settings

/-- The environment of a list of variables; of one name the last counts. -/
def Environment.ofList (vars : List (String × String)) : Environment := (Table.ofList vars).get?

end TaskWorker
