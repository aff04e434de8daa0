import TaskWorker.Overrides.Basic
import TaskWorker.Table
import TaskWorker.Text.Blank
import TaskWorker.Text.Numeral
/-!
# Overrides from properties

Properties are texts under dotted names. What is said about a task type stands under its own name or
under the name that all task types share; blank entries do not count, and of the others the type's
own comes first. A number that cannot be read says nothing.

* `Properties`, with `Properties.ofList`;
* `Properties.property?`, the entry that counts for a property of a task type;
* `Properties.overridesFor`, all that is said about a task type.
-/

namespace TaskWorker

/-- Texts under dotted names. -/
structure Properties where
  table : Table String
  deriving DecidableEq

namespace Properties

/-- The properties of a list; of one name the last counts. -/
def ofList (ps : List (String × String)) : Properties := ⟨.ofList ps⟩

/-- The name under which something is said about every task type. -/
def everyType : String := "all"

/-- The full name of a property of a task type. -/
def key (taskType property : String) : String := "worker." ++ taskType ++ "." ++ property

/-- The value under a full name, without the blanks around it, unless it is blank. -/
def value? (p : Properties) (k : String) : Option (List Char) :=
  ((p.table.get? k).map fun v => Text.trim v.toList).filter fun v => !v.isEmpty

/-- The entry that counts for a property of a task type. -/
def property? (p : Properties) (taskType property : String) : Option (List Char) :=
  (p.value? (key taskType property)).or (p.value? (key everyType property))

/-- A property that is a numeral of 64 bits. -/
def number? (p : Properties) (taskType property : String) : Option UInt64 :=
  (p.property? taskType property).bind fun v =>
    (Text.readNumeral (UInt64.size - 1) v).toOption.map UInt64.ofNat

/-- All that is said about a task type. -/
def overridesFor (p : Properties) (taskType : String) : Overrides :=
  { slots := p.number? taskType "thread_count"
    interval := (p.number? taskType "polling_interval").map Span.ofMillis
    domain := (p.property? taskType "domain").map String.ofList }

end Properties

end TaskWorker
