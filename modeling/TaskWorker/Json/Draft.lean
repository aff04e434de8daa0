import TaskWorker.Json.Basic
/-!
# Drafts

A draft is a document as far as a text spells it out. Where the text stops making sense the draft
holds the fault, so that whoever takes the draft apart from left to right meets each problem in the
place where it stands: a wrong shape in front of a broken text counts before it, one behind it does
not count at all.

* `Fault`, what can be wrong; `Draft`, the tree with its broken places;
* `Draft.skip`, the fault met in passing over a draft without looking at its values;
* `Draft.toJson room`, the document, if no fault is met and brackets nest at most `room` deep;
* **`Draft.ofJson`** is the draft of a whole document, which is passed over without a fault
  (`skip_ofJson`).
-/

namespace TaskWorker

/-- Why a document is refused. -/
inductive Fault where
  /-- The text is no JSON. -/
  | malformed
  /-- The text ends early. -/
  | cutShort
  /-- The document is not of the shape that is asked for. -/
  | misshapen
  deriving DecidableEq, Repr

/-- What is wrong where an object should close or name its next member. -/
structure Gap where
  /-- The fault to one who reads members. -/
  read : Fault
  /-- The fault to one who wants the object to close. -/
  close : Fault
  /-- The fault to one who passes over the rest of the object, if it has one for them. -/
  skipped : Option Fault
  deriving DecidableEq, Repr

/-- A document with its broken places. -/
inductive Draft where
  | null
  | bool (b : Bool)
  | int (n : Int)
  | double (d : Double)
  | str (s : String)
  /-- An array; `close` is the fault found in the place of its closing bracket. -/
  | arr (items : List Draft) (close : Option Fault)
  /-- An object; `gap` is what is wrong in the place of its closing brace or of the next name. -/
  | obj (members : List (String × Draft)) (gap : Option Gap)
  /-- A place that gives the fault `read` to a reader of values, `choice` to one who wants a string
  or an object and nothing else, and `skipped` to one who passes over it. -/
  | broken (read choice : Fault) (skipped : Option Fault)
  deriving Inhabited, Repr

namespace Draft

mutual

/-- The fault met in passing over a draft. -/
def skip : Draft → Option Fault
  | .arr items close => (skipItems items).or close
  | .obj members gap => (skipMembers members).or (gap.bind Gap.skipped)
  | .broken _ _ f => f
  | _ => none

def skipItems : List Draft → Option Fault
  | [] => none
  | d :: ds => d.skip.or (skipItems ds)

def skipMembers : List (String × Draft) → Option Fault
  | [] => none
  | (_, d) :: ms => d.skip.or (skipMembers ms)

end

mutual

/-- The document of a draft whose brackets nest at most `room` deep; later members of one name
replace earlier ones. -/
def toJson : Nat → Draft → Except Fault Json
  | _, .null => .ok .null
  | _, .bool b => .ok (.bool b)
  | _, .int n => .ok (.int n)
  | _, .double d => .ok (.double d)
  | _, .str s => .ok (.str s)
  | _, .broken f _ _ => .error f
  | 0, .arr _ _ => .error .malformed
  | 0, .obj _ _ => .error .malformed
  | room + 1, .arr items close =>
    match itemsToJson room items, close with
    | .error f, _ => .error f
    | .ok _, some f => .error f
    | .ok js, none => .ok (.arr js)
  | room + 1, .obj members gap =>
    match membersToJson room [] members, gap with
    | .error f, _ => .error f
    | .ok _, some g => .error g.read
    | .ok ms, none => .ok (.obj ms)

def itemsToJson : Nat → List Draft → Except Fault (List Json)
  | _, [] => .ok []
  | room, d :: ds =>
    match toJson room d with
    | .error f => .error f
    | .ok j =>
      match itemsToJson room ds with
      | .error f => .error f
      | .ok js => .ok (j :: js)

def membersToJson : Nat → List (String × Json) → List (String × Draft) →
    Except Fault (List (String × Json))
  | _, acc, [] => .ok acc
  | room, acc, (k, d) :: ms =>
    match toJson room d with
    | .error f => .error f
    | .ok j => membersToJson room (put k j acc) ms

end

mutual

/-- The draft of a whole document. -/
def ofJson : Json → Draft
  | .null => .null
  | .bool b => .bool b
  | .int n => .int n
  | .double d => .double d
  | .str s => .str s
  | .arr items => .arr (ofItems items) none
  | .obj members => .obj (ofMembers members) none

def ofItems : List Json → List Draft
  | [] => []
  | j :: js => ofJson j :: ofItems js

def ofMembers : List (String × Json) → List (String × Draft)
  | [] => []
  | (k, j) :: ms => (k, ofJson j) :: ofMembers ms

end

mutual

/-- **A whole document is passed over without a fault.** -/
theorem skip_ofJson : ∀ j : Json, (ofJson j).skip = none
  | .null | .bool _ | .int _ | .double _ | .str _ => rfl
  | .arr items => by simp [ofJson, skip, skipItems_ofItems items]
  | .obj members => by simp [ofJson, skip, skipMembers_ofMembers members]

theorem skipItems_ofItems : ∀ js : List Json, skipItems (ofItems js) = none
  | [] => rfl
  | j :: js => by simp [ofItems, skipItems, skip_ofJson j, skipItems_ofItems js]

theorem skipMembers_ofMembers : ∀ ms : List (String × Json), skipMembers (ofMembers ms) = none
  | [] => rfl
  | (_, j) :: ms => by simp [ofMembers, skipMembers, skip_ofJson j, skipMembers_ofMembers ms]

end

end Draft

end TaskWorker
