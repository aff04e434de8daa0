import TaskWorker.Host.Basic
import TaskWorker.Overrides.Basic
/-!
# Registries

A registry collects handlers with overrides, one registration for each task type; a later one takes
the place of an earlier one. An external source of overrides comes before the registrations. A host
made from a registry gets the slots, domains and intervals that the overrides name, but what the
base settings say about a type stays as it is.

* `Registration`, `Registry`, with `Registry.register`;
* `Registry.resolve`, the overrides that count for a registration; `Registry.overridesFor?`, for a
  type;
* `Registry.settings` and `Registry.handlers`, what a host is built from; **`Registry.toHost`**;
* `Registry.describe`, a registry in one line.
-/

namespace TaskWorker

/-- A handler and what is said about its task type. -/
structure Registration (α : Type) where
  handler : Handler α
  overrides : Overrides

namespace Registration

variable {α : Type}

/-- The task type that a registration is for. -/
def taskType (r : Registration α) : String := r.handler.taskType

end Registration

/-- Handlers with their overrides. -/
structure Registry (α : Type) where
  registrations : List (Registration α)
  /-- What somebody else says about task types. -/
  external : Option (String → Overrides)

namespace Registry

variable {α : Type}

/-- A registry without handlers. -/
def new (external : Option (String → Overrides)) : Registry α := ⟨[], external⟩

/-- Adds a registration; one of the same type gives its place to it. -/
def addRegistration (r : Registration α) : List (Registration α) → List (Registration α)
  | [] => [r]
  | s :: rs => if s.taskType = r.taskType then r :: rs else s :: addRegistration r rs

/-- Registers a handler. -/
def register (g : Registry α) (h : Handler α) (o : Overrides) : Registry α :=
  { g with registrations := addRegistration ⟨h, o⟩ g.registrations }

/-- The number of registered types. -/
def size (g : Registry α) : Nat := g.registrations.length

/-- Whether nothing is registered. -/
def isEmpty (g : Registry α) : Bool := g.registrations.isEmpty

/-- The registered types, in the order of their registration. -/
def taskTypes (g : Registry α) : List String := g.registrations.map Registration.taskType

/-- The overrides that count for a registration. -/
def resolve (g : Registry α) (r : Registration α) : Overrides :=
  match g.external with
  | some source => (source r.taskType).or r.overrides
  | none => r.overrides

/-- The overrides that count for a type, if it is registered. -/
def overridesFor? (g : Registry α) (taskType : String) : Option Overrides :=
  (g.registrations.find? fun r => r.taskType = taskType).map g.resolve

/-! ## Hosts -/

/-- The slots that a registration stands for: the number that is named, or else one, unless there
are shared slots. -/
def slotsOf (o : Overrides) (shared : Bool) : Option UInt64 :=
  o.slots.or (if shared then none else some 1)

/-- Settings with what the overrides of a type add to them. -/
def extend (s : Settings) (taskType : String) (o : Overrides) : Settings :=
  { s with
    slotsPerType :=
      match slotsOf o s.sharedSlots.isSome with
      | some n => s.slotsPerType.insertNew taskType n
      | none => s.slotsPerType
    domains :=
      match o.domain.filter fun d => !d.isEmpty with
      | some d => s.domains.insertNew taskType d
      | none => s.domains }

/-- The settings of a host for the registered types. -/
def settings (g : Registry α) (base : Settings) : Settings :=
  g.registrations.foldl (fun s r => extend s r.taskType (g.resolve r)) base

/-- The handler of a registration under the interval that counts for it. -/
def handlerOf (g : Registry α) (r : Registration α) : Handler α :=
  match (g.resolve r).interval with
  | some interval => r.handler.every interval
  | none => r.handler

/-- The handlers of a host for the registered types. -/
def handlers (g : Registry α) : List (Handler α) := g.registrations.map g.handlerOf

/-- **A host for the registered handlers.** -/
def toHost (g : Registry α) (base : Settings) : Except SettingsError (Host α) :=
  Host.build g.handlers (g.settings base)

/-- A registry in one line. -/
def describe (g : Registry α) : String :=
  "WorkerRegistry \x7b task_types: " ++ Text.quoteAll g.taskTypes ++ ", has_configuration: " ++
    (if g.external.isSome then "true" else "false") ++ " \x7d"

end Registry

end TaskWorker
