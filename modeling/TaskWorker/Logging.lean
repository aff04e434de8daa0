import TaskWorker.Settings.Environment
import TaskWorker.Text.Alphanumeric
/-!
# Logging

What a worker writes to the console is chosen by a filter: a list of directives, each a level for
the targets that begin in some way, or for all of them. The directive with the longest beginning
decides. The console is set up once; what comes later changes nothing.

* `LogLevel`, `LogDirective`, `LogFilter`;
* `LogFilter.ofText?` reads a filter and `LogFilter.text` writes it;
* `LogFilter.shows`, whether an event of a level and a target is written;
* `LogSettings.ofEnvironment`; `LogSettings.filter`, where a filter that cannot be read gives way to
  the usual one;
* `Console.install`.
-/

namespace TaskWorker

/-- How much is written, from nothing to everything. -/
inductive LogLevel where
  | off
  | error
  | warn
  | info
  | debug
  | trace
  deriving DecidableEq, Repr, Inhabited

namespace LogLevel

/-- The levels, each by its rank. -/
def all : List LogLevel := [.off, .error, .warn, .info, .debug, .trace]

/-- The place of a level among all levels. -/
def rank : LogLevel → Nat
  | .off => 0
  | .error => 1
  | .warn => 2
  | .info => 3
  | .debug => 4
  | .trace => 5

/-- The word for a level. -/
def name : LogLevel → String
  | .off => "off"
  | .error => "error"
  | .warn => "warn"
  | .info => "info"
  | .debug => "debug"
  | .trace => "trace"

/-- The levels that events have, the gravest first. -/
def ofEvents : List LogLevel := [.error, .warn, .info, .debug, .trace]

/-- A level by its rank, or by its name in letters of either case. -/
def ofText? (s : List Char) : Option LogLevel :=
  match Text.readNumeral (UInt64.size - 1) s with
  | .ok n => all[n]?
  | .error _ => all.find? fun l => l.name.toList = s.map Char.toLower

end LogLevel

/-- A level for the targets with a common beginning, or for all targets. -/
structure LogDirective where
  target : Option String
  level : LogLevel
  deriving DecidableEq, Repr

namespace LogDirective

/-- Whether a target may begin with this character, apart from letters and digits of all kinds. -/
def isTargetMark (c : Char) : Bool := c = '-' || c = ':' || c = '_'

/-- Whether a directive may begin with this character. -/
def mayBegin (c : Char) : Bool := isTargetMark c || Text.isAlphanumeric c

/-- Whether a character ends a target. Behind a bracket there would be spans, about which there are
no directives. -/
def endsTarget (c : Char) : Bool := c = '=' || c = '['

/-- Reads a directive: a level, a target, or a target with a level behind an equals sign. A target
without a level is written in full. Blanks around a directive belong to it: with them a level is a
target, and a target with a level is nothing. -/
def ofText? (s : List Char) : Option LogDirective :=
  match Text.trimFront s with
  | [] => none
  | c :: cs =>
    if !mayBegin c then none
    else
      match s.dropWhile fun c => !endsTarget c with
      | [] =>
        match LogLevel.ofText? s with
        | some level => some ⟨none, level⟩
        | none => some ⟨some (String.ofList s), .trace⟩
      | '=' :: level =>
        let target := some (String.ofList (s.takeWhile fun c => !endsTarget c))
        if s ≠ c :: cs then none
        else if level.isEmpty then some ⟨target, .trace⟩
        else (LogLevel.ofText? level).map (⟨target, ·⟩)
      | _ => none

/-- A directive as it is written. -/
def text (d : LogDirective) : String :=
  match d.target with
  | none => d.level.name
  | some t => t ++ "=" ++ d.level.name

/-- Whether a directive is about a target. -/
def isAbout (d : LogDirective) (target : String) : Bool :=
  match d.target with
  | none => true
  | some t => t.toList.isPrefixOf target.toList

/-- The order of directives: longer targets come first, of targets of one length the greater one,
and the directive for all targets comes last. -/
def before (d e : LogDirective) : Bool :=
  match d.target, e.target with
  | some _, none => true
  | none, _ => false
  | some s, some t =>
    t.utf8ByteSize < s.utf8ByteSize || (t.utf8ByteSize == s.utf8ByteSize && t < s)

end LogDirective

/-- Directives in their order, one for each target. -/
structure LogFilter where
  directives : List LogDirective
  deriving DecidableEq, Repr

namespace LogFilter

/-- Adds a directive; one for the same target gives its place to it. -/
def add (d : LogDirective) : List LogDirective → List LogDirective
  | [] => [d]
  | e :: es =>
    if e.target = d.target then d :: es
    else if d.before e then d :: e :: es
    else e :: add d es

/-- The directives of a list; an empty list shows errors. -/
def ofList (ds : List LogDirective) : LogFilter :=
  if ds.isEmpty then ⟨[⟨none, .error⟩]⟩ else ⟨ds.foldl (fun es d => add d es) []⟩

/-- Reads a filter: directives between commas. -/
def ofText? (s : String) : Option LogFilter :=
  let parts := (PairList.split s.toList).filter fun p => !p.isEmpty
  (parts.mapM fun p => LogDirective.ofText? p).map ofList

/-- A filter as it is written, its directives in their order. -/
def text (f : LogFilter) : String := String.intercalate "," (f.directives.map LogDirective.text)

/-- Whether an event of a level and a target is written. -/
def shows (f : LogFilter) (level : LogLevel) (target : String) : Bool :=
  match f.directives.find? fun d => d.isAbout target with
  | some d => level.rank ≤ d.level.rank
  | none => false

/-- The filter of a worker that is told none. -/
def usual : LogFilter := ⟨[⟨none, .info⟩]⟩

end LogFilter

/-- How a worker writes its log. -/
structure LogSettings where
  serviceName : String
  /-- The filter, as it was given. -/
  filterText : Option String
  /-- Whether the target of an event is written. -/
  withTarget : Bool
  /-- Whether each line is a JSON document. -/
  json : Bool
  deriving DecidableEq, Repr

namespace LogSettings

/-- The settings of an environment. -/
def ofEnvironment (env : Environment) : LogSettings :=
  { serviceName := (env "OTEL_SERVICE_NAME").getD "conductor-worker"
    filterText := (env "RUST_LOG").or (env "LOG_LEVEL")
    withTarget := true
    json := (env "LOG_FORMAT").any fun v => v.toList.map Char.toLower = "json".toList }

/-- The filter that counts. -/
def filter (s : LogSettings) : LogFilter := (s.filterText.bind LogFilter.ofText?).getD .usual

end LogSettings

/-- The console, which is set up once at most. -/
structure Console where
  settings : Option LogSettings
  deriving DecidableEq, Repr, Inhabited

namespace Console

/-- A console that is not set up. -/
def new : Console := ⟨none⟩

/-- Sets the console up, unless it is set up already; with it, whether it did. -/
def install (c : Console) (s : LogSettings) : Bool × Console :=
  match c.settings with
  | none => (true, ⟨some s⟩)
  | some _ => (false, c)

/-- Whether an event of a level and a target is written. -/
def shows (c : Console) (level : LogLevel) (target : String) : Bool :=
  c.settings.any fun s => s.filter.shows level target

/-- The level and the target of the event that tells of the console's set-up. -/
def greeting : LogLevel × String := (.debug, "conductor_worker::telemetry")

/-- Whether the console told of its set-up. -/
def greets (c : Console) : Bool := c.shows greeting.1 greeting.2

end Console

end TaskWorker
