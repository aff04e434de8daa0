import TaskWorker.Json.Draft
import TaskWorker.Text.Numeral
/-!
# Reading JSON

The draft of a text. White space is the space, the tab and the two line ends. The fault of a place
is `cutShort` where the text ends too early and `malformed` where it goes on in the wrong way.

* `Reader.pieces` splits a string into characters and code units, `Reader.join` pairs the
  surrogates;
* `Reader.number` reads a number, `Reader.word` one of the three words;
* `Reader.value`, `Reader.items`, `Reader.members` read a document, with fuel for two steps a
  character;
* `Document`, a draft and whether something follows it; `Document.ofText`.
-/

namespace TaskWorker

namespace Reader

/-- The white space between the parts of a document. -/
def isSpace (c : Char) : Bool := c = ' ' || c = '\n' || c = '\t' || c = '\r'

/-- Drops the white space in front. -/
def skipSpace (cs : List Char) : List Char := cs.dropWhile isSpace

/-! ## Strings -/

/-- A part of a string: a character, or a UTF-16 code unit given by its number. -/
inductive Piece where
  | char (c : Char)
  | unit (n : Nat)
  deriving DecidableEq, Repr

/-- The value of a hexadecimal digit. -/
def hexDigit? (c : Char) : Option Nat :=
  if '0' ≤ c ∧ c ≤ '9' then some (c.toNat - '0'.toNat)
  else if 'a' ≤ c ∧ c ≤ 'f' then some (c.toNat - 'a'.toNat + 10)
  else if 'A' ≤ c ∧ c ≤ 'F' then some (c.toNat - 'A'.toNat + 10)
  else none

/-- The number of four hexadecimal digits. -/
def hex? (a b c d : Char) : Option Nat := do
  let a ← hexDigit? a
  let b ← hexDigit? b
  let c ← hexDigit? c
  let d ← hexDigit? d
  return ((a * 16 + b) * 16 + c) * 16 + d

/-- The character that a letter stands for behind a backslash. -/
def unescape? (c : Char) : Option Char :=
  if c = '"' ∨ c = '\\' ∨ c = '/' then some c
  else if c = 'b' then some '\x08'
  else if c = 'f' then some '\x0c'
  else if c = 'n' then some '\n'
  else if c = 'r' then some '\r'
  else if c = 't' then some '\t'
  else none

/-- The fault of fewer than four characters in the place of four digits: the text is cut short if
they are fewer than four bytes. -/
def shortHex (cs : List Char) : Fault :=
  if (String.ofList cs).utf8ByteSize < 4 then .cutShort else .malformed

/-- The parts of a string behind its opening quote, and what follows its closing quote. -/
def pieces : List Char → List Piece × Except Fault (List Char)
  | [] => ([], .error .cutShort)
  | '"' :: cs => ([], .ok cs)
  | ['\\'] => ([], .error .cutShort)
  | '\\' :: 'u' :: a :: b :: c :: d :: cs =>
    match hex? a b c d with
    | none => ([], .error .malformed)
    | some n =>
      let (ps, rest) := pieces cs
      (.unit n :: ps, rest)
  | '\\' :: 'u' :: cs => ([], .error (shortHex cs))
  | '\\' :: c :: cs =>
    match unescape? c with
    | none => ([], .error .malformed)
    | some c =>
      let (ps, rest) := pieces cs
      (.char c :: ps, rest)
  | c :: cs =>
    if c < ' ' then ([], .error .malformed)
    else
      let (ps, rest) := pieces cs
      (.char c :: ps, rest)

/-- The first unit of a surrogate pair. -/
def isLead (n : Nat) : Bool := 0xD800 ≤ n && n ≤ 0xDBFF

/-- The second unit of a surrogate pair. -/
def isTrail (n : Nat) : Bool := 0xDC00 ≤ n && n ≤ 0xDFFF

/-- The characters of some parts, followed by the fault `ending`, if any. Surrogates must come in
pairs. -/
def join (ending : Option Fault) : List Piece → Except Fault (List Char)
  | [] =>
    match ending with
    | none => .ok []
    | some f => .error f
  | .char c :: ps => (c :: ·) <$> join ending ps
  | .unit n :: ps =>
    if isTrail n then .error .malformed
    else if isLead n then
      match ps with
      | [] => .error (ending.getD .malformed)
      | .char _ :: _ => .error .malformed
      | .unit m :: ps =>
        if isTrail m then
          (Char.ofNat ((n - 0xD800) * 0x400 + (m - 0xDC00) + 0x10000) :: ·) <$> join ending ps
        else .error .malformed
    else (Char.ofNat n :: ·) <$> join ending ps

/-- The string behind an opening quote, and what follows it. -/
def string (cs : List Char) : Draft × Option (List Char) :=
  match pieces cs with
  | (ps, .ok rest) =>
    match join none ps with
    | .ok s => (.str (String.ofList s), some rest)
    | .error f => (.broken f f none, some rest)
  | (ps, .error f) =>
    match join (some f) ps with
    | .ok _ => (.broken f f (some f), none)
    | .error g => (.broken g g (some f), none)

/-! ## Numbers and words -/

/-- A fault in a number: to a reader the text may be cut short, to one who passes over it the number
is malformed. -/
def badNumber (rest : List Char) : Draft × Option (List Char) :=
  (.broken (if rest.isEmpty then .cutShort else .malformed) .malformed (some .malformed), none)

/-- Takes digits into a significand as long as it fits into 64 bits; with it, the digits that are
left over. -/
def gather : Nat → List Char → Nat × List Char
  | n, [] => (n, [])
  | n, c :: cs =>
    let m := n * 10 + (c.toNat - '0'.toNat)
    if m < UInt64.size then gather m cs else (n, c :: cs)

/-- A number that is no integer of 64 bits, from the digits in front of its point and behind it and
its power of ten. Digits that are left over in front of the point count as zeros, behind it they do
not count at all. -/
def double (negative : Bool) (whole fraction : List Char) (exponent : Int) : Draft :=
  let (n, zeros) := gather 0 whole
  let (n, dropped) := gather n fraction
  match Double.scaled? n (exponent + zeros.length + dropped.length - fraction.length) with
  | some units => .double ⟨negative, units⟩
  | none => .broken .malformed .malformed none

/-- An integer; what is not kept exact, negative zero among it, is of double precision. -/
def integer (negative : Bool) (whole : List Char) : Draft :=
  let n := Text.numberOf whole
  let i : Int := if negative then -n else n
  if (negative && n = 0) || !Json.isExact i then double negative whole [] 0 else .int i

/-- A number without an exponent; without a fraction it is an integer. -/
def plain (negative : Bool) (whole : List Char) : Option (List Char) → Draft
  | none => integer negative whole
  | some fraction => double negative whole fraction 0

/-- The digits of an exponent, and the number with it. -/
def scientific (negative : Bool) (whole fraction : List Char) (minus : Bool) (cs : List Char) :
    Draft × Option (List Char) :=
  let ds := cs.takeWhile Char.isDigit
  let rest := cs.dropWhile Char.isDigit
  if ds.isEmpty then badNumber rest
  else
    let n : Int := Text.numberOf ds
    (double negative whole fraction (if minus then -n else n), some rest)

/-- An exponent, from its sign or its first digit on. -/
def power (negative : Bool) (whole fraction : List Char) : List Char → Draft × Option (List Char)
  | '+' :: rest => scientific negative whole fraction false rest
  | '-' :: rest => scientific negative whole fraction true rest
  | rest => scientific negative whole fraction false rest

/-- The end of a number: an exponent, if there is one. -/
def exponent (negative : Bool) (whole : List Char) (fraction : Option (List Char)) :
    List Char → Draft × Option (List Char)
  | [] => (plain negative whole fraction, some [])
  | c :: rest =>
    if c = 'e' ∨ c = 'E' then power negative whole (fraction.getD []) rest
    else (plain negative whole fraction, some (c :: rest))

/-- A number behind its digits in front of the point: a fraction, if there is one, and the end. -/
def fractional (negative : Bool) (whole : List Char) : List Char → Draft × Option (List Char)
  | '.' :: rest =>
    let ds := rest.takeWhile Char.isDigit
    let rest := rest.dropWhile Char.isDigit
    if ds.isEmpty then badNumber rest else exponent negative whole (some ds) rest
  | rest => exponent negative whole none rest

/-- A number behind its sign. -/
def unsigned (negative : Bool) (cs : List Char) : Draft × Option (List Char) :=
  let rest := cs.dropWhile Char.isDigit
  match cs.takeWhile Char.isDigit with
  | [] => badNumber rest
  | '0' :: _ :: _ => (.broken .malformed .malformed (some .malformed), none)
  | whole => fractional negative whole rest

/-- A number, from its sign or its first digit on. -/
def number : List Char → Draft × Option (List Char)
  | '-' :: rest => unsigned true rest
  | cs => unsigned false cs

/-- One of the words, of which `tail` is still to come. -/
def word (d : Draft) : List Char → List Char → Draft × Option (List Char)
  | [], cs => (d, some cs)
  | _ :: _, [] => (.broken .cutShort .malformed (some .cutShort), none)
  | t :: tail, c :: cs =>
    if t = c then word d tail cs else (.broken .malformed .malformed (some .malformed), none)

/-! ## Documents -/

/-- A place where the text goes wrong for everybody. -/
def fault (f : Fault) : Draft := .broken f f (some f)

/-- The gap that everybody sees alike. -/
def gap (f : Fault) : Gap := ⟨f, f, some f⟩

/-- The gap in the place of a name, where an object cannot close. -/
def nameGap (f : Fault) : Gap := ⟨f, .malformed, some f⟩

/-- The fault of a broken name. -/
def nameFault : Draft → Fault
  | .broken f _ _ => f
  | _ => .malformed

/-- How a document is begun that is neither array nor object. -/
def scalar (c : Char) (cs : List Char) : Draft × Option (List Char) :=
  if c = '"' then string cs
  else if c = 'n' then word .null ['u', 'l', 'l'] cs
  else if c = 't' then word (.bool true) ['r', 'u', 'e'] cs
  else if c = 'f' then word (.bool false) ['a', 'l', 's', 'e'] cs
  else if c = '-' ∨ c.isDigit then number (c :: cs)
  else (fault .malformed, none)

mutual

/-- A document, and what follows it. -/
def value : Nat → List Char → Draft × Option (List Char)
  | 0, _ => (fault .malformed, none)
  | fuel + 1, cs =>
    match skipSpace cs with
    | [] => (fault .cutShort, none)
    | c :: cs =>
      if c = '[' then
        match skipSpace cs with
        | [] => (.arr [] (some .cutShort), none)
        | ']' :: cs => (.arr [] none, some cs)
        | cs =>
          let (ds, close, rest) := items fuel cs
          (.arr ds close, rest)
      else if c = '\x7b' then
        match skipSpace cs with
        | [] => (.obj [] (some (gap .cutShort)), none)
        | '\x7d' :: cs => (.obj [] none, some cs)
        | cs =>
          let (ms, gap, rest) := members fuel cs
          (.obj ms gap, rest)
      else scalar c cs

/-- The elements of an array that has one to come, what is wrong where it should close, and what
follows it. -/
def items : Nat → List Char → List Draft × Option Fault × Option (List Char)
  | 0, _ => ([fault .malformed], none, none)
  | fuel + 1, cs =>
    match value fuel cs with
    | (d, none) => ([d], none, none)
    | (d, some rest) =>
      match skipSpace rest with
      | ',' :: rest =>
        let (ds, close, rest) := items fuel rest
        (d :: ds, close, rest)
      | ']' :: rest => ([d], none, some rest)
      | [] => ([d], some .cutShort, none)
      | _ => ([d], some .malformed, none)

/-- The members of an object that has one to come, what is wrong where it should close, and what
follows it. A name with a lone surrogate is broken only to those who read it: others pass over it
and over the members behind it. -/
def members : Nat → List Char → List (String × Draft) × Option Gap × Option (List Char)
  | 0, _ => ([], some (gap .malformed), none)
  | fuel + 1, cs =>
    match skipSpace cs with
    | [] => ([], some (nameGap .cutShort), none)
    | '"' :: cs =>
      match string cs with
      | (name, none) => ([], some ⟨nameFault name, .malformed, name.skip⟩, none)
      | (name, some rest) =>
        let (d, rest) :=
          match skipSpace rest with
          | ':' :: rest => value fuel rest
          | [] => (fault .cutShort, none)
          | _ => (fault .malformed, none)
        let (ms, gap, rest) :=
          match rest.map skipSpace with
          | none => ([], none, none)
          | some (',' :: rest) => members fuel rest
          | some ('\x7d' :: rest) => ([], none, some rest)
          | some [] => ([], some (gap .cutShort), none)
          | some _ => ([], some (gap .malformed), none)
        match name with
        | .str k => ((k, d) :: ms, gap, rest)
        | _ =>
          let skipped := d.skip.or ((Draft.skipMembers ms).or (gap.bind Gap.skipped))
          ([], some ⟨nameFault name, .malformed, skipped⟩, rest)
    | _ => ([], some (nameGap .malformed), none)

end

end Reader

/-- What a text holds: a draft, and perhaps something behind it. -/
structure Document where
  draft : Draft
  trailing : Bool
  deriving Inhabited

/-- The document of a text. Each bracket is met twice, once as a value and once by what it holds. -/
def Document.ofText (s : String) : Document :=
  let cs := s.toList
  match Reader.value (2 * cs.length + 1) cs with
  | (d, none) => ⟨d, false⟩
  | (d, some rest) => ⟨d, !(Reader.skipSpace rest).isEmpty⟩

/-- Reads a text by way of its draft. -/
def Document.read {α : Type} (d : Draft → Except Fault α) (s : String) : Except Fault α :=
  let doc := Document.ofText s
  match d doc.draft with
  | .error f => .error f
  | .ok a => if doc.trailing then .error .malformed else .ok a

/-- The JSON of a text, however deep. -/
def Json.ofText (s : String) : Except Fault Json :=
  Document.read (Draft.toJson s.length) s

end TaskWorker
