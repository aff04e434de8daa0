import TaskWorker.Json.Basic
import TaskWorker.Settings.Error
import TaskWorker.Table
/-!
# Allocation of slots

Slots are given to each task type by name, or a number of slots is split evenly among all of them,
rounding down. Giving both is an error. With slots by name, a type that is not named has one slot;
with nothing given, there are as many slots to split as there are types.

* `Allocation`, with `Allocation.plan`;
* `Allocation.get`, `starved`; `Allocation.total?`, which adds up in 64 bits and panics if an
  addition does not fit; `Allocation.sum`, the sum itself;
* `checkCounts`, the check of the given counts, which stops at the first bad one.
-/

namespace TaskWorker

/-- How slots were given. -/
inductive AllocationMode where
  | perType
  /-- So many slots were split among all types. -/
  | shared (total : UInt64)
  deriving DecidableEq, Repr

/-- The slots of each task type. -/
structure Allocation where
  mode : AllocationMode
  counts : Table UInt64
  /-- The types that were not named and have one slot, in order. -/
  defaulted : List String
  deriving DecidableEq

namespace Allocation

/-- The slots of a task type; a type that is not known has none. -/
def get (a : Allocation) (taskType : String) : UInt64 := (a.counts.get? taskType).getD 0

/-- The types without a slot, in order. -/
def starved (a : Allocation) : List String :=
  (a.counts.entries.filter fun e => e.2 == 0).map Prod.fst

/-- The sum of two numbers of slots, if it fits into 64 bits. -/
def add? (m n : UInt64) : Option UInt64 :=
  if m.toNat + n.toNat < UInt64.size then some (m + n) else none

/-- All slots together, added up one type after the other. There is no total if an addition does not
fit: then it panics. -/
def total? (a : Allocation) : Option UInt64 := a.counts.values.foldlM add? 0

/-- All slots together, without a bound. -/
def sum (a : Allocation) : Nat := a.counts.values.foldr (fun n sum => n.toNat + sum) 0

/-- The different types, in order. -/
def distinct (types : List String) : List String :=
  (Table.ofList (types.map fun t => (t, ()))).keys

/-- The check of a number of slots. -/
def checkUpper (n : UInt64) : Except SettingsError UInt64 :=
  if maxSlots < n then .error (.tooManySlots n) else .ok n

/-- The check of the slots of one type. -/
def checkCount (taskType : String) (n : UInt64) : Except SettingsError UInt64 :=
  if n < 1 then .error (.noSlots taskType n) else checkUpper n

/-- The check of given slots; the first bad entry is reported. -/
def checkCounts : List (String × UInt64) → Except SettingsError Unit
  | [] => .ok ()
  | (t, n) :: es =>
    match checkCount t n with
    | .error e => .error e
    | .ok _ => checkCounts es

/-- The slots of types that are given by name. -/
def named (types : List String) (given : List (String × UInt64)) : Allocation :=
  { mode := .perType
    counts := .ofList (types.map fun t => (t, (valueOf? t given).getD 1))
    defaulted := types.filter fun t => (valueOf? t given).isNone }

/-- The slots of types that share `total`. -/
def split (types : List String) (total : UInt64) : Allocation :=
  let each := if types.isEmpty then 0 else total / UInt64.ofNat types.length
  { mode := .shared total
    counts := .ofList (types.map fun t => (t, each))
    defaulted := [] }

/-- The slots of some task types, from the entries of the slots given by name, in any order, and the
number of slots given for all. -/
def plan (types : List String) (given : List (String × UInt64)) (shared : Option UInt64) :
    Except SettingsError Allocation :=
  let types := distinct types
  match given, shared with
  | _ :: _, some _ => .error .conflictingSlots
  | _ :: _, none =>
    match checkCounts given with
    | .error e => .error e
    | .ok () => .ok (named types given)
  | [], none => .ok (split types (UInt64.ofNat types.length))
  | [], some n =>
    if n = 0 then .error (.noSharedSlots 0)
    else
      match checkUpper n with
      | .error e => .error e
      | .ok n => .ok (split types n)

end Allocation

end TaskWorker
