import TaskWorker.Json.Reader
/-!
# Shapes

A shape reads values of one kind out of drafts. Records are objects with known members: other
members are passed over, a member given twice is refused, and each member has a rule for its
absence. A record may also be written as the array of its members' values, in the order of the
record; at the end of such an array members may be missing that the record does not insist on.

* `Shape`, with `Shape.text`, `Shape.flag`, `Shape.natural`, `Shape.optional`, `Shape.list`,
  `Shape.table`, `Shape.payload`;
* `Record`, built from `Record.required`, `Record.nullable`, `Record.optional` and `Record.default`
  by application; `Record.shape`;
* `Json.as? shape`, reading a document; `Document.read shape`, reading a text.
-/

namespace TaskWorker

/-- A reader of values out of drafts. -/
abbrev Shape (α : Type) := Draft → Except Fault α

namespace Shape

variable {α : Type}

/-- The fault of a draft that is not of the wanted kind. -/
def refuse : Draft → Except Fault α
  | .broken f _ _ => .error f
  | _ => .error .misshapen

/-- A string. -/
def text : Shape String
  | .str s => .ok s
  | d => refuse d

/-- A truth value. -/
def flag : Shape Bool
  | .bool b => .ok b
  | d => refuse d

/-- A natural number below `bound`. -/
def natural (bound : Nat) : Shape Nat
  | .int (.ofNat n) => if n < bound then .ok n else .error .misshapen
  | d => refuse d

/-- A natural number of 32 bits. -/
def word32 : Shape UInt32 := fun d => UInt32.ofNat <$> natural UInt32.size d

/-- A natural number of 64 bits. -/
def word64 : Shape UInt64 := fun d => UInt64.ofNat <$> natural UInt64.size d

/-- A value, or null for none. -/
def optional (s : Shape α) : Shape (Option α)
  | .null => .ok none
  | d => some <$> s d

/-- The elements of an array, one after the other. -/
def elements (s : Shape α) : List Draft → Except Fault (List α)
  | [] => .ok []
  | d :: ds =>
    match s d with
    | .error f => .error f
    | .ok a =>
      match elements s ds with
      | .error f => .error f
      | .ok as => .ok (a :: as)

/-- An array. -/
def list (s : Shape α) : Shape (List α)
  | .arr items close =>
    match elements s items, close with
    | .error f, _ => .error f
    | .ok _, some f => .error f
    | .ok as, none => .ok as
  | d => refuse d

/-- The values of an object's members, one after the other, put into a table. -/
def entries (s : Shape α) : Table α → List (String × Draft) → Except Fault (Table α)
  | t, [] => .ok t
  | t, (k, d) :: ms =>
    match s d with
    | .error f => .error f
    | .ok a => entries s (t.insert k a) ms

/-- An object with any names. -/
def table (s : Shape α) : Shape (Table α)
  | .obj members gap =>
    match entries s ∅ members, gap with
    | .error f, _ => .error f
    | .ok _, some g => .error g.read
    | .ok t, none => .ok t
  | d => refuse d

/-- Any document whose brackets nest at most `room` deep. -/
def payload (room : Nat) : Shape Json := Draft.toJson room

end Shape

/-! ## Records -/

/-- What a record knows of one member before it is read. -/
structure Member where
  name : String
  /-- The fault of a draft in the member's place. -/
  check : Draft → Option Fault
  /-- Whether an array may end before this member. -/
  mayEnd : Bool

/-- The fault of reading a draft, if any. -/
def faultOf {α : Type} (s : Shape α) (d : Draft) : Option Fault :=
  match s d with
  | .ok _ => none
  | .error f => some f

/-- A record: its members in order, and how to build the value from them. -/
structure Record (α : Type) where
  members : List Member
  build : List (String × Draft) → Except Fault α

namespace Record

variable {α β : Type}

instance : Pure Record := ⟨fun a => ⟨[], fun _ => .ok a⟩⟩

instance : Seq Record where
  seq f x :=
    ⟨f.members ++ (x ()).members, fun ms =>
      match f.build ms, (x ()).build ms with
      | .ok f, .ok a => .ok (f a)
      | .error e, _ => .error e
      | _, .error e => .error e⟩

instance : Functor Record where
  map f x := ⟨x.members, fun ms => f <$> x.build ms⟩

/-- A member read by `s` that stands for `absent` when it is missing. -/
def member (k : String) (s : Shape α) (absent : Except Fault α) (mayEnd : Bool) : Record α :=
  ⟨[⟨k, faultOf s, mayEnd⟩], fun ms =>
    match valueOf? k ms with
    | some d => s d
    | none => absent⟩

/-- A member that must be there. -/
def required (k : String) (s : Shape α) : Record α :=
  member k s (.error .misshapen) false

/-- A member with a value for its absence. -/
def default (k : String) (s : Shape α) (a : α) : Record α := member k s (.ok a) true

/-- A member that may be missing or null. -/
def optional (k : String) (s : Shape α) : Record (Option α) :=
  member k (Shape.optional s) (.ok none) true

/-- A member that may be missing or null in an object; in an array it must be there. -/
def nullable (k : String) (s : Shape α) : Record (Option α) :=
  member k (Shape.optional s) (.ok none) false

/-- The fault of a record's members, read in their order; `seen` are the names read before. -/
def scan (known : List Member) : List String → List (String × Draft) → Option Fault
  | _, [] => none
  | seen, (k, d) :: ms =>
    match known.find? fun m => m.name = k with
    | none => d.skip.or (scan known seen ms)
    | some m =>
      if k ∈ seen then some .misshapen
      else (m.check d).or (scan known (k :: seen) ms)

/-- The fault of an array that stands for a record. -/
def scanItems : List Member → List Draft → Option Fault → Option Fault
  | [], [], close => close
  | [], _ :: _, _ => some .malformed
  | ms, [], close => close.or (if ms.all Member.mayEnd then none else some .misshapen)
  | m :: ms, d :: ds, close => (m.check d).or (scanItems ms ds close)

/-- The shape of a record. -/
def shape (r : Record α) : Shape α
  | .obj members gap =>
    match (scan r.members [] members).or (gap.map Gap.read) with
    | some f => .error f
    | none => r.build members
  | .arr items close =>
    match scanItems r.members items close with
    | some f => .error f
    | none => r.build ((r.members.map Member.name).zip items)
  | d => Shape.refuse d

end Record

/-- Reads a document. -/
def Json.as? {α : Type} (s : Shape α) (j : Json) : Option α := (s (Draft.ofJson j)).toOption

end TaskWorker
