import Mathlib.Tactic.IntervalCases
import TaskWorker.Proofs.Numbers
import TaskWorker.Proofs.Payloads
/-!
# Documents read back from their text

Strings are read back as they were written, and so is the structure of a document; a number is read
from its digits, so it may become another one. The text of a document is read to its end.

* `Reader.pieces_escape`, **`Reader.string_writeString`**: strings are read back;
* `Reader.Begins`, `Reader.Opens`, how documents and numbers begin: a reader sees which it is;
* `Reader.written`, what becomes of the numbers of a document in its text;
* **`Reader.value_writeOn`**, with `Reader.items_writeItems` and `Reader.members_writeMembers`: a
  document is read back in this spelling, and what follows it is left;
* **`Document.ofText_text`**, `Document.read_text`: the text of a document holds nothing else.
-/

namespace TaskWorker

namespace Reader

open Json

variable {c : Char} {cs rest : List Char} {d : Draft} {k : String} {fuel : Nat}

/-! ## Strings -/

/-- A part of a string that stands as much as a character. -/
def Stands (p : Piece) (c : Char) : Prop :=
  ∀ ending ps, join ending (p :: ps) = (c :: ·) <$> join ending ps

theorem stands_char (c : Char) : Stands (.char c) c := fun _ _ => rfl

/-- A code unit that is no surrogate is a character of its own. -/
theorem stands_unit {n : Nat} (small : n < 32) : Stands (.unit n) (Char.ofNat n) := by
  intro ending ps
  have trail : isTrail n = false := by
    rw [isTrail, decide_eq_false (by omega), Bool.false_and]
  have lead : isLead n = false := by
    rw [isLead, decide_eq_false (by omega), Bool.false_and]
  rw [join.eq_def]
  simp only [trail, lead]
  rfl

theorem pieces_controlCode {n : Nat} (small : n < 32) (cs : List Char) :
    pieces (controlCode (Char.ofNat n) ++ cs) = (.unit n :: (pieces cs).1, (pieces cs).2) := by
  interval_cases n <;> rfl

theorem pieces_letter {letter : Char} (means : unescape? letter = some c) (cs : List Char) :
    pieces ('\\' :: letter :: cs) = (.char c :: (pieces cs).1, (pieces cs).2) := by
  have other : letter ≠ 'u' := by
    rintro rfl
    cases means
  rw [pieces]
  · simp only [means]
  all_goals
    intros
    simp_all

theorem pieces_cons (quote : c ≠ '"') (slash : c ≠ '\\') (printed : ¬ c < ' ') (cs : List Char) :
    pieces (c :: cs) = (.char c :: (pieces cs).1, (pieces cs).2) := by
  rw [pieces.eq_def]
  split <;> simp_all

/-- **A character is read back** from its written form. -/
theorem pieces_escape (c : Char) (cs : List Char) :
    ∃ p, Stands p c ∧ pieces (escape c ++ cs) = (p :: (pieces cs).1, (pieces cs).2) := by
  have letter (l : Char) (means : unescape? l = some c) :
      ∃ p, Stands p c ∧ pieces (['\\', l] ++ cs) = (p :: (pieces cs).1, (pieces cs).2) :=
    ⟨.char c, stands_char c, pieces_letter means cs⟩
  unfold escape
  split_ifs with quote slash b f n r t control
  · exact letter '"' (by rw [quote]; rfl)
  · exact letter '\\' (by rw [slash]; rfl)
  · exact letter 'b' (b ▸ rfl)
  · exact letter 'f' (f ▸ rfl)
  · exact letter 'n' (n ▸ rfl)
  · exact letter 'r' (r ▸ rfl)
  · exact letter 't' (t ▸ rfl)
  · have small : c.toNat < 32 := control
    have same : Char.ofNat c.toNat = c := Char.ofNat_toNat c
    have stands : Stands (.unit c.toNat) (Char.ofNat c.toNat) := stands_unit small
    have read := pieces_controlCode small cs
    rw [same] at stands read
    exact ⟨.unit c.toNat, stands, read⟩
  · exact ⟨.char c, stands_char c, pieces_cons quote slash control cs⟩

/-- The parts of a string up to its closing quote say all its characters. -/
theorem pieces_writeString (cs rest : List Char) :
    ∃ ps, pieces (cs.foldr (fun c cs => escape c ++ cs) ('"' :: rest)) = (ps, .ok rest) ∧
      join none ps = .ok cs := by
  induction cs with
  | nil => exact ⟨[], rfl, rfl⟩
  | cons c cs ih =>
    obtain ⟨ps, read, joined⟩ := ih
    obtain ⟨p, stands, first⟩ :=
      pieces_escape c (cs.foldr (fun c cs => escape c ++ cs) ('"' :: rest))
    refine ⟨p :: ps, ?_, ?_⟩
    · rw [List.foldr_cons, first, read]
    · rw [stands, joined]
      rfl

/-- **A string is read back**, and what follows it is left. -/
theorem string_writeString (k : String) (rest : List Char) :
    string (k.toList.foldr (fun c cs => escape c ++ cs) ('"' :: rest)) = (.str k, some rest) := by
  obtain ⟨ps, read, joined⟩ := pieces_writeString k.toList rest
  rw [string, read]
  simp only [joined, String.ofList_toList]

theorem length_writeString (k : String) (rest : List Char) :
    rest.length + 2 ≤ (writeString k rest).length := by
  have inner (cs : List Char) :
      rest.length + 1 ≤ (cs.foldr (fun c cs => escape c ++ cs) ('"' :: rest)).length := by
    induction cs with
    | nil => rfl
    | cons c cs ih =>
      rw [List.foldr_cons, List.length_append]
      omega
  rw [writeString, List.length_cons]
  exact Nat.succ_le_succ (inner _)

/-! ## Heads -/

/-- A text that begins neither with white space nor with the end of an array. -/
def Begins (cs : List Char) : Prop :=
  ∃ c tail, cs = c :: tail ∧ isSpace c = false ∧ c ≠ ']'

theorem Begins.skipSpace (begins : Begins cs) : skipSpace cs = cs := by
  obtain ⟨c, tail, rfl, space, -⟩ := begins
  rw [Reader.skipSpace, List.dropWhile_cons_of_neg (by rw [space]; nofun)]

/-- What a number begins with: its sign or a digit. -/
def Opens (c : Char) : Prop := c = '-' ∨ c.isDigit = true

theorem Opens.ne {b : Char} (opens : Opens c) (dash : b ≠ '-') (digit : b.isDigit = false) :
    c ≠ b := by
  rintro rfl
  rcases opens with sign | figure
  · exact dash sign
  · rw [digit] at figure
    cases figure

theorem Opens.isSpace (opens : Opens c) : isSpace c = false := by
  have blank := opens.ne (b := ' ') (by decide) rfl
  have line := opens.ne (b := '\n') (by decide) rfl
  have tab := opens.ne (b := '\t') (by decide) rfl
  have back := opens.ne (b := '\r') (by decide) rfl
  simp [Reader.isSpace, blank, line, tab, back]

theorem Opens.scalar (opens : Opens c) (cs : List Char) : scalar c cs = number (c :: cs) := by
  have quote := opens.ne (b := '"') (by decide) rfl
  have n := opens.ne (b := 'n') (by decide) rfl
  have t := opens.ne (b := 't') (by decide) rfl
  have f := opens.ne (b := 'f') (by decide) rfl
  rw [Reader.scalar, if_neg quote, if_neg n, if_neg t, if_neg f]
  exact if_pos opens

theorem opens_of_number (read : Ended (number cs)) : ∃ c tail, cs = c :: tail ∧ Opens c := by
  cases cs with
  | nil => cases read
  | cons c tail =>
    refine ⟨c, tail, rfl, ?_⟩
    by_contra neither
    obtain ⟨dash, digit⟩ := not_or.mp neither
    rw [number_cons dash, unsigned, List.takeWhile_cons_of_neg digit] at read
    cases read

/-! ## Values -/

/-- A number is read as a value. -/
theorem value_number (read : number cs = (d, some [])) (ends : Ends rest) :
    value (fuel + 1) (cs ++ rest) = (d, some rest) := by
  obtain ⟨c, tail, rfl, opens⟩ := opens_of_number (congrArg Prod.snd read)
  have begins : skipSpace (c :: (tail ++ rest)) = c :: (tail ++ rest) :=
    List.dropWhile_cons_of_neg (by rw [opens.isSpace]; nofun)
  have bracket := opens.ne (b := '[') (by decide) rfl
  have brace := opens.ne (b := '\x7b') (by decide) rfl
  rw [List.cons_append, value, begins]
  simp only [if_neg bracket, if_neg brace, opens.scalar]
  exact number_append read ends

theorem value_string (k : String) (rest : List Char) :
    value (fuel + 1) (writeString k rest) = (.str k, some rest) := by
  rw [writeString, value]
  exact string_writeString k rest

/-- An array that does not close at once has elements. -/
theorem value_array (begins : Begins cs) : value (fuel + 1) ('[' :: cs) =
    (.arr (items fuel cs).1 (items fuel cs).2.1, (items fuel cs).2.2) := by
  have front := begins.skipSpace
  obtain ⟨c, tail, rfl, space, bracket⟩ := begins
  have bracketed : skipSpace ('[' :: c :: tail) = '[' :: c :: tail := rfl
  rw [value, bracketed]
  simp only [front, if_true]
  split
  · rename_i eq
    cases eq
  · rename_i eq
    exact absurd (List.cons.inj eq).1 bracket
  · rfl

/-- An object that does not close at once has members. -/
theorem value_object (k : String) (cs : List Char) : value (fuel + 1) ('\x7b' :: writeString k cs) =
    (.obj (members fuel (writeString k cs)).1 (members fuel (writeString k cs)).2.1,
      (members fuel (writeString k cs)).2.2) :=
  rfl

theorem items_end (read : value fuel cs = (d, some (']' :: rest))) :
    items (fuel + 1) cs = ([d], none, some rest) := by
  rw [items, read]
  rfl

theorem items_next {more : List Char} (read : value fuel cs = (d, some (',' :: more))) :
    items (fuel + 1) cs = (d :: (items fuel more).1, (items fuel more).2) := by
  rw [items, read]
  rfl

theorem members_end (read : value fuel cs = (d, some ('\x7d' :: rest))) :
    members (fuel + 1) (writeString k (':' :: cs)) = ([(k, d)], none, some rest) := by
  have quoted : skipSpace (writeString k (':' :: cs)) = writeString k (':' :: cs) := rfl
  have colon : skipSpace (':' :: cs) = ':' :: cs := rfl
  have close : skipSpace ('\x7d' :: rest) = '\x7d' :: rest := rfl
  rw [members, quoted, writeString]
  simp only [string_writeString, colon, read, Option.map_some, close]

theorem members_next {more : List Char} (read : value fuel cs = (d, some (',' :: more))) :
    members (fuel + 1) (writeString k (':' :: cs)) =
      ((k, d) :: (members fuel more).1, (members fuel more).2) := by
  have quoted : skipSpace (writeString k (':' :: cs)) = writeString k (':' :: cs) := rfl
  have colon : skipSpace (':' :: cs) = ':' :: cs := rfl
  have comma : skipSpace (',' :: more) = ',' :: more := rfl
  rw [members, quoted, writeString]
  simp only [string_writeString, colon, read, Option.map_some, comma]

/-! ## Documents -/

/-- What becomes of the numbers of a document in its text. -/
def written : Spelling := ⟨intDraft, fun d => (number d.text).1, intDraft_of_isExact⟩

theorem written_double (d : Double) : written.draft (.double d) = (number d.text).1 := by
  rw [Spelling.draft]
  rfl

theorem number_double (d : Double) : number d.text = (written.double d, some []) :=
  Prod.ext rfl d.number_text

theorem writeOn_int (n : Int) (rest : List Char) :
    writeOn (.int n) rest = writeOn (.int n) [] ++ rest := by
  cases n <;> simp [writeOn]

theorem begins_writeOn (j : Json) (rest : List Char) : Begins (writeOn j rest) := by
  have number {cs : List Char} (read : Ended (number cs)) : Begins (cs ++ rest) := by
    obtain ⟨c, tail, rfl, opens⟩ := opens_of_number read
    exact ⟨c, tail ++ rest, rfl, opens.isSpace, opens.ne (by decide) rfl⟩
  cases j with
  | null => exact ⟨'n', _, rfl, rfl, by decide⟩
  | bool b =>
    cases b with
    | true => exact ⟨'t', _, rfl, rfl, by decide⟩
    | false => exact ⟨'f', _, rfl, rfl, by decide⟩
  | int n =>
    rw [writeOn_int]
    exact number (congrArg Prod.snd (number_int n))
  | double d => exact number d.number_text
  | str s => exact ⟨'"', _, rfl, rfl, by decide⟩
  | arr items => cases items <;> exact ⟨'[', _, rfl, rfl, by decide⟩
  | obj members => cases members <;> exact ⟨'\x7b', _, rfl, rfl, by decide⟩

theorem length_writeMember (k : String) (cs : List Char) :
    cs.length + 3 ≤ (writeString k (':' :: cs)).length := by
  have name := length_writeString k (':' :: cs)
  rw [List.length_cons] at name
  omega

mutual

theorem length_writeOn : ∀ (j : Json) (rest : List Char), rest.length < (writeOn j rest).length
  | .null, rest | .bool true, rest | .bool false, rest | .arr [], rest | .obj [], rest => by
    simp only [writeOn, List.length_cons]
    omega
  | .int n, rest => by
    obtain ⟨c, tail, same, -⟩ := opens_of_number (congrArg Prod.snd (number_int n))
    rw [writeOn_int, same, List.length_append, List.length_cons]
    omega
  | .double d, rest => by
    obtain ⟨c, tail, same, -⟩ := opens_of_number d.number_text
    rw [writeOn, same, List.length_append, List.length_cons]
    omega
  | .str s, rest => by
    have := length_writeString s rest
    rw [writeOn]
    omega
  | .arr (j :: js), rest => by
    have first := length_writeOn j (writeItems js rest)
    have others := length_writeItems js rest
    rw [writeOn, List.length_cons]
    omega
  | .obj ((k, j) :: ms), rest => by
    have member := length_writeMember k (writeOn j (writeMembers ms rest))
    have first := length_writeOn j (writeMembers ms rest)
    have others := length_writeMembers ms rest
    rw [writeOn, List.length_cons]
    omega

theorem length_writeItems : ∀ (js : List Json) (rest : List Char),
    rest.length < (writeItems js rest).length
  | [], rest => Nat.lt_succ_self _
  | j :: js, rest => by
    have first := length_writeOn j (writeItems js rest)
    have others := length_writeItems js rest
    rw [writeItems, List.length_cons]
    omega

theorem length_writeMembers : ∀ (ms : List (String × Json)) (rest : List Char),
    rest.length < (writeMembers ms rest).length
  | [], rest => Nat.lt_succ_self _
  | (k, j) :: ms, rest => by
    have member := length_writeMember k (writeOn j (writeMembers ms rest))
    have first := length_writeOn j (writeMembers ms rest)
    have others := length_writeMembers ms rest
    rw [writeMembers, List.length_cons]
    omega

end

theorem ends_writeItems (js : List Json) (rest : List Char) : Ends (writeItems js rest) := by
  cases js with
  | nil => exact ends_cons ']' rest (by decide)
  | cons j js => exact ends_cons ',' _ (by decide)

theorem ends_writeMembers (ms : List (String × Json)) (rest : List Char) :
    Ends (writeMembers ms rest) := by
  cases ms with
  | nil => exact ends_cons '\x7d' rest (by decide)
  | cons m ms => exact ends_cons ',' _ (by decide)

mutual

/-- **A document is read back** with the numbers that its text spells, and what follows it is left.
The fuel is spent twice for each character. -/
theorem value_writeOn : ∀ (j : Json) {fuel : Nat} {rest : List Char}, Ends rest →
    2 * (writeOn j rest).length < fuel → value fuel (writeOn j rest) = (written.draft j, some rest)
  | _, 0, _, _, enough => absurd enough (Nat.not_lt_zero _)
  | .null, fuel + 1, rest, _, _ => rfl
  | .bool true, fuel + 1, rest, _, _ => rfl
  | .bool false, fuel + 1, rest, _, _ => rfl
  | .int n, fuel + 1, rest, ends, _ => by
    rw [writeOn_int, value_number (number_int n) ends]
    rfl
  | .double d, fuel + 1, rest, ends, _ => by
    rw [writeOn, value_number (number_double d) ends]
    rfl
  | .str s, fuel + 1, rest, _, _ => by
    rw [writeOn, value_string]
    rfl
  | .arr [], fuel + 1, rest, _, _ => rfl
  | .obj [], fuel + 1, rest, _, _ => rfl
  | .arr (j :: js), fuel + 1, rest, _, enough => by
    have first := length_writeOn j (writeItems js rest)
    rw [writeOn, List.length_cons] at enough
    obtain ⟨fuel, rfl⟩ : ∃ f, fuel = f + 1 := ⟨fuel - 1, by omega⟩
    have read : value fuel (writeOn j (writeItems js rest)) = (written.draft j, _) :=
      value_writeOn j (ends_writeItems js rest) (by omega)
    have others := items_writeItems js read (by omega)
    rw [writeOn, value_array (begins_writeOn _ _), others]
    rfl
  | .obj ((k, j) :: ms), fuel + 1, rest, _, enough => by
    have member := length_writeMember k (writeOn j (writeMembers ms rest))
    have first := length_writeOn j (writeMembers ms rest)
    rw [writeOn, List.length_cons] at enough
    obtain ⟨fuel, rfl⟩ : ∃ f, fuel = f + 1 := ⟨fuel - 1, by omega⟩
    have read : value fuel (writeOn j (writeMembers ms rest)) = (written.draft j, _) :=
      value_writeOn j (ends_writeMembers ms rest) (by omega)
    have others := members_writeMembers k ms read (by omega)
    rw [writeOn, value_object, others]
    rfl

/-- The elements of an array behind the first one. -/
theorem items_writeItems : ∀ (js : List Json) {fuel : Nat} {cs rest : List Char} {d : Draft},
    value fuel cs = (d, some (writeItems js rest)) → 2 * (writeItems js rest).length < fuel →
    items (fuel + 1) cs = (d :: written.draftItems js, none, some rest)
  | [], fuel, cs, rest, d, read, _ => items_end read
  | j :: js, fuel, cs, rest, d, read, enough => by
    have first := length_writeOn j (writeItems js rest)
    rw [writeItems, List.length_cons] at enough
    obtain ⟨fuel, rfl⟩ : ∃ f, fuel = f + 1 := ⟨fuel - 1, by omega⟩
    have next : value fuel (writeOn j (writeItems js rest)) = (written.draft j, _) :=
      value_writeOn j (ends_writeItems js rest) (by omega)
    have others := items_writeItems js next (by omega)
    rw [items_next read, others]
    rfl

/-- The members of an object behind the first one. -/
theorem members_writeMembers : ∀ (k : String) (ms : List (String × Json)) {fuel : Nat}
    {cs rest : List Char} {d : Draft},
    value fuel cs = (d, some (writeMembers ms rest)) → 2 * (writeMembers ms rest).length < fuel →
    members (fuel + 1) (writeString k (':' :: cs)) =
      ((k, d) :: written.draftMembers ms, none, some rest)
  | k, [], fuel, cs, rest, d, read, _ => members_end read
  | k, (name, j) :: ms, fuel, cs, rest, d, read, enough => by
    have member := length_writeMember name (writeOn j (writeMembers ms rest))
    have first := length_writeOn j (writeMembers ms rest)
    rw [writeMembers, List.length_cons] at enough
    obtain ⟨fuel, rfl⟩ : ∃ f, fuel = f + 1 := ⟨fuel - 1, by omega⟩
    have next : value fuel (writeOn j (writeMembers ms rest)) = (written.draft j, _) :=
      value_writeOn j (ends_writeMembers ms rest) (by omega)
    have others := members_writeMembers name ms next (by omega)
    rw [members_next read, others]
    rfl

end

end Reader

/-! ## Texts -/

open Reader

/-- **The text of a document** holds the document and nothing else. -/
theorem Document.ofText_text (j : Json) :
    Document.ofText j.text = ⟨written.draft j, false⟩ := by
  have read := value_writeOn j ends_nil (Nat.lt_succ_self (2 * (Json.writeOn j []).length))
  rw [Document.ofText, Json.text, String.toList_ofList, read]
  rfl

theorem Document.read_text {α : Type} (s : Shape α) (j : Json) :
    Document.read s j.text = s (written.draft j) := by
  rw [Document.read, Document.ofText_text]
  cases s (written.draft j) <;> rfl

end TaskWorker
