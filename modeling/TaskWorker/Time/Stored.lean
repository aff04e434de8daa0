import TaskWorker.Json.Shape
import TaskWorker.Time.Span
/-!
# Stored spans

A stored span is a number of whole milliseconds or whole seconds in 64 bits; which of the two it is
depends on the place. Storing rounds down.

* `Span.millisJson`, `Span.millisShape`; `Span.secondsJson`, `Span.secondsShape`.
-/

namespace TaskWorker.Span

/-- A span stored in milliseconds. -/
def millisJson (s : Span) : Json := .ofNat s.storedMillis.toNat

/-- Reads a span in milliseconds. -/
def millisShape : Shape Span := fun d => ofMillis <$> Shape.word64 d

/-- A span stored in seconds. -/
def secondsJson (s : Span) : Json := .ofNat s.wholeSeconds.toNat

/-- Reads a span in seconds. -/
def secondsShape : Shape Span := fun d => ofSeconds <$> Shape.word64 d

end TaskWorker.Span
