import TaskWorker.Table
import TaskWorker.Text.Blank
/-!
# Lists of pairs

Several values are given to several names in one text, as in `encode=4, notify=1`. Entries stand
between commas, and blank entries do not count. In an entry the name stands before the first equals
sign and must not be blank. Blanks around names and values do not count, and of one name the last
entry counts.

* `entries`, the entries of a text; `pair?`, the pair of an entry;
* `pairs`, the pairs in their order, or else the first entry that is none;
* `table`, the values under their names.
-/

namespace TaskWorker.PairList

open Text (trim)

/-- The parts of a text between the commas. -/
def split : List Char → List (List Char)
  | [] => [[]]
  | c :: cs =>
    if c = ',' then [] :: split cs
    else
      match split cs with
      | [] => [[c]]
      | e :: es => (c :: e) :: es

/-- The entries of a text, without the blank ones. -/
def entries (s : List Char) : List (List Char) :=
  ((split s).map trim).filter fun e => !e.isEmpty

/-- The name and the value of an entry. -/
def pair? (e : List Char) : Option (List Char × List Char) :=
  match e.span (· ≠ '=') with
  | (_, []) => none
  | (name, _ :: value) => if (trim name).isEmpty then none else some (trim name, trim value)

/-- The pairs of some entries, or the first entry that is no pair. -/
def pairsOf : List (List Char) → Except (List Char) (List (String × String))
  | [] => .ok []
  | e :: es =>
    match pair? e with
    | none => .error e
    | some (name, value) =>
      match pairsOf es with
      | .error e => .error e
      | .ok ps => .ok ((String.ofList name, String.ofList value) :: ps)

/-- The pairs of a text, or the first entry that is no pair. -/
def pairs (s : String) : Except (List Char) (List (String × String)) := pairsOf (entries s.toList)

/-- The values under their names. -/
def table (s : String) : Except (List Char) (Table String) :=
  match pairs s with
  | .error e => .error e
  | .ok ps => .ok (.ofList ps)

end TaskWorker.PairList
