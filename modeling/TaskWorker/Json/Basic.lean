import TaskWorker.Json.Decimal
import TaskWorker.Table
/-!
# Documents

A JSON document is a tree. Its integers are exact, its other numbers are of double precision, and
the members of an object stand in a list.

* `Json`, the tree; `Json.get?`, a member of an object;
* `Json.Normal`, the trees whose objects list each name once, in increasing order;
* `Json.object`, the object of some members in normal order, `Json.record`, in the given order,
  without the absent ones.
-/

namespace TaskWorker

/-- A JSON document. -/
inductive Json where
  | null
  | bool (b : Bool)
  | int (n : Int)
  | double (d : Double)
  | str (s : String)
  | arr (items : List Json)
  | obj (members : List (String × Json))
  deriving Inhabited, Repr

namespace Json

/-- The member of an object under a name; of one name the first counts. -/
def get? (k : String) : Json → Option Json
  | .obj members => valueOf? k members
  | _ => none

/-- The integers that are kept exact: those of 64 bits, signed or unsigned. -/
def isExact (n : Int) : Bool := -0x8000000000000000 ≤ n && n ≤ 0xffffffffffffffff

/-- Each object lists its names once and in increasing order, all the way down. -/
inductive Normal : Json → Prop where
  | null : Normal .null
  | bool (b : Bool) : Normal (.bool b)
  | int (n : Int) (h : isExact n = true) : Normal (.int n)
  | double (d : Double) : Normal (.double d)
  | str (s : String) : Normal (.str s)
  | arr (items : List Json) (h : ∀ j ∈ items, Normal j) : Normal (.arr items)
  | obj (members : List (String × Json)) (hi : Increasing members)
      (h : ∀ m ∈ members, Normal m.2) : Normal (.obj members)

/-- The object of some members, in order of their names; of one name the last counts. -/
def object (members : List (String × Json)) : Json :=
  .obj (members.foldl (fun ms m => put m.1 m.2 ms) [])

/-- The object of the members that are there, in the given order. -/
def record (members : List (String × Option Json)) : Json :=
  .obj (members.filterMap fun m => m.2.map (m.1, ·))

/-- A text, or the null document for none. -/
def ofText? : Option String → Json
  | none => .null
  | some s => .str s

/-- A natural number as a document. -/
def ofNat (n : Nat) : Json := .int n

/-- A table as an object. -/
def ofTable {α : Type} (f : α → Json) (t : Table α) : Json :=
  .obj (t.entries.map fun e => (e.1, f e.2))

end Json

end TaskWorker
