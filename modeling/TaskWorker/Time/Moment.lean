import TaskWorker.Text.Blank
import TaskWorker.Text.Numeral
/-!
# Moments

A moment is a second of the Gregorian calendar in universal time and a fraction of it in
nanoseconds. A minute may have a sixty-first second. Moments are written as in RFC 3339; the reader
takes numbers of fewer digits, blanks in front of numbers and marks, and any offset of less than a
day.

* `Moment`, `Moment.ofFields?`; `Moment.text` and `Moment.ofText?`;
* `Moment.shift`, a moment given in local time with an offset in minutes.
-/

namespace TaskWorker

/-- Whether a year of the Gregorian calendar has a leap day. -/
def isLeapYear (y : Int) : Bool := y % 4 == 0 && (y % 100 != 0 || y % 400 == 0)

/-- The number of days of a month. -/
def daysIn (y : Int) (month : Nat) : Nat :=
  if month = 2 then if isLeapYear y then 29 else 28
  else if month = 4 ∨ month = 6 ∨ month = 9 ∨ month = 11 then 30
  else 31

/-- A day of the calendar. -/
structure Day where
  year : Int
  month : Nat
  day : Nat
  deriving DecidableEq, Repr

namespace Day

/-- The days that are counted: some quarter of a million years to each side. -/
def isValid (d : Day) : Bool :=
  -262143 ≤ d.year && d.year ≤ 262142 && 1 ≤ d.month && d.month ≤ 12 && 1 ≤ d.day &&
    d.day ≤ daysIn d.year d.month

/-- The day after. -/
def next (d : Day) : Day :=
  if d.day < daysIn d.year d.month then { d with day := d.day + 1 }
  else if d.month < 12 then ⟨d.year, d.month + 1, 1⟩
  else ⟨d.year + 1, 1, 1⟩

/-- The day before. -/
def previous (d : Day) : Day :=
  if 1 < d.day then { d with day := d.day - 1 }
  else if 1 < d.month then ⟨d.year, d.month - 1, daysIn d.year (d.month - 1)⟩
  else ⟨d.year - 1, 12, 31⟩

end Day

/-- A moment in universal time. -/
structure Moment where
  day : Day
  /-- The minute of the day. -/
  minute : Nat
  /-- The second of the minute, up to 60. -/
  second : Nat
  nanos : Nat
  valid : day.isValid = true ∧ minute < 1440 ∧ second ≤ 60 ∧ nanos < 1_000_000_000 := by decide
  deriving DecidableEq, Repr

namespace Moment

open Text (padded numberOf)

/-- The beginning of the year 1970. -/
def epoch : Moment := { day := ⟨1970, 1, 1⟩, minute := 0, second := 0, nanos := 0 }

instance : Inhabited Moment := ⟨epoch⟩

/-- The moment of some fields, if there is one. -/
def ofFields? (day : Day) (minute second nanos : Nat) : Option Moment :=
  if h : day.isValid = true ∧ minute < 1440 ∧ second ≤ 60 ∧ nanos < 1_000_000_000 then
    some ⟨day, minute, second, nanos, h⟩
  else none

/-- The moment of a local time that is `offset` minutes ahead of universal time. -/
def shift (day : Day) (minute second nanos : Nat) (offset : Int) : Option Moment :=
  let m : Int := minute - offset
  if m < 0 then ofFields? day.previous (m + 1440).toNat second nanos
  else if m < 1440 then ofFields? day m.toNat second nanos
  else ofFields? day.next (m - 1440).toNat second nanos

/-! ## Writing -/

/-- A year in four digits, or with a sign if they do not hold it. -/
def yearText (y : Int) : List Char :=
  if 0 ≤ y ∧ y ≤ 9999 then padded 4 y.toNat
  else if 0 ≤ y then '+' :: padded 4 y.toNat
  else '-' :: padded 4 (-y).toNat

/-- The fraction of a second in the fewest groups of three digits. -/
def fractionText (nanos : Nat) : List Char :=
  if nanos = 0 then []
  else if nanos % 1_000_000 = 0 then '.' :: padded 3 (nanos / 1_000_000)
  else if nanos % 1_000 = 0 then '.' :: padded 6 (nanos / 1_000)
  else '.' :: padded 9 nanos

/-- The written form of a moment. -/
def text (m : Moment) : String :=
  String.ofList <|
    yearText m.day.year ++ '-' :: padded 2 m.day.month ++ '-' :: padded 2 m.day.day ++
      'T' :: padded 2 (m.minute / 60) ++ ':' :: padded 2 (m.minute % 60) ++
      ':' :: padded 2 m.second ++ fractionText m.nanos ++ ['Z']

/-! ## Reading -/

/-- A number of one to `width` digits. -/
def digits? (width : Nat) (cs : List Char) : Option (Nat × List Char) :=
  let ds := (cs.take width).takeWhile Char.isDigit
  if ds.isEmpty then none else some (numberOf ds, cs.drop ds.length)

/-- A number of one to `width` digits behind blanks. -/
def number? (width : Nat) (cs : List Char) : Option (Nat × List Char) :=
  digits? width (Text.trimFront cs)

/-- A year of up to four digits, or of any number of digits behind a sign. -/
def year? (cs : List Char) : Option (Int × List Char) :=
  match Text.trimFront cs with
  | '-' :: cs => (digits? cs.length cs).map fun (n, cs) => (-n, cs)
  | '+' :: cs => (digits? cs.length cs).map fun (n, cs) => (n, cs)
  | cs => (digits? 4 cs).map fun (n, cs) => (n, cs)

/-- A mark behind blanks. -/
def mark? (c : Char) (cs : List Char) : Option (List Char) :=
  match Text.trimFront cs with
  | d :: cs => if d = c then some cs else none
  | [] => none

/-- The fraction of a second: the first nine digits behind a point count. -/
def fraction? : List Char → Option (Nat × List Char)
  | '.' :: cs =>
    let ds := cs.takeWhile Char.isDigit
    if ds.isEmpty then none
    else
      let kept := ds.take 9
      some (numberOf kept * Nat.pow 10 (9 - kept.length), cs.dropWhile Char.isDigit)
  | cs => some (0, cs)

/-- An offset from universal time in minutes: a letter for none, or a sign, two digits of hours and,
behind colons or blanks, two digits of minutes. -/
def offset? (cs : List Char) : Option (Int × List Char) :=
  match Text.trimFront cs with
  | c :: cs =>
    if c = 'Z' ∨ c = 'z' then some (0, cs)
    else if c = '+' ∨ c = '-' ∨ c = '−' then
      match cs with
      | h₁ :: h₂ :: cs =>
        if h₁.isDigit && h₂.isDigit then
          match cs.dropWhile fun c => c = ':' || Text.isBlank c with
          | m₁ :: m₂ :: cs =>
            if '0' ≤ m₁ && m₁ ≤ '5' && m₂.isDigit then
              let minutes := numberOf [h₁, h₂] * 60 + numberOf [m₁, m₂]
              if minutes < 1440 then some (if c = '+' then (minutes : Int) else -minutes, cs)
              else none
            else none
          | _ => none
        else none
      | _ => none
    else if (c = 'U' ∨ c = 'u') then
      match cs with
      | t :: c :: cs => if (t = 'T' ∨ t = 't') ∧ (c = 'C' ∨ c = 'c') then some (0, cs) else none
      | _ => none
    else none
  | [] => none

/-- The separator of date and time. -/
def separator? : List Char → Option (List Char)
  | c :: cs => if c = 'T' ∨ c = 't' ∨ c = ' ' then some cs else none
  | [] => none

/-- The moment that a text stands for. -/
def ofText? (s : String) : Option Moment := do
  let (year, cs) ← year? s.toList
  let cs ← mark? '-' cs
  let (month, cs) ← number? 2 cs
  let cs ← mark? '-' cs
  let (day, cs) ← number? 2 cs
  let cs ← separator? cs
  let (hour, cs) ← number? 2 cs
  let cs ← mark? ':' cs
  let (minute, cs) ← number? 2 cs
  let cs ← mark? ':' cs
  let (second, cs) ← number? 2 cs
  let (nanos, cs) ← fraction? cs
  let (offset, cs) ← offset? cs
  let date : Day := ⟨year, month, day⟩
  if date.isValid && hour < 24 && minute < 60 && second ≤ 60 && Text.isBlankText cs then
    shift date (hour * 60 + minute) second nanos offset
  else none

end Moment

end TaskWorker
