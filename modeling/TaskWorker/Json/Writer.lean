import TaskWorker.Json.Basic
import TaskWorker.Text.Numeral
/-!
# Writing JSON

The shortest text of a document: no white space, members in their order. In strings the quote and
the backslash take a backslash, five control characters have a letter and the others four
hexadecimal digits; everything else stands for itself.

* `Json.writeString`, `Json.writeOn`, which puts the text in front of what is there already;
* `Json.text`, the text of a document.
-/

namespace TaskWorker

namespace Json

/-- A control character in four hexadecimal digits. -/
def controlCode (c : Char) : List Char :=
  ['\\', 'u'] ++ Text.fill 4 (Nat.toDigits 16 c.toNat)

/-- The written form of a character in a string. -/
def escape (c : Char) : List Char :=
  if c = '"' then ['\\', '"']
  else if c = '\\' then ['\\', '\\']
  else if c = '\x08' then ['\\', 'b']
  else if c = '\x0c' then ['\\', 'f']
  else if c = '\n' then ['\\', 'n']
  else if c = '\r' then ['\\', 'r']
  else if c = '\t' then ['\\', 't']
  else if c < ' ' then controlCode c
  else [c]

/-- A string in quotes, in front of `rest`. -/
def writeString (s : String) (rest : List Char) : List Char :=
  '"' :: (s.toList.foldr (fun c cs => escape c ++ cs) ('"' :: rest))

mutual

/-- The text of a document, in front of `rest`. -/
def writeOn : Json → List Char → List Char
  | .null, rest => 'n' :: 'u' :: 'l' :: 'l' :: rest
  | .bool true, rest => 't' :: 'r' :: 'u' :: 'e' :: rest
  | .bool false, rest => 'f' :: 'a' :: 'l' :: 's' :: 'e' :: rest
  | .int (.ofNat n), rest => Nat.toDigits 10 n ++ rest
  | .int (.negSucc n), rest => '-' :: Nat.toDigits 10 (n + 1) ++ rest
  | .double d, rest => d.text ++ rest
  | .str s, rest => writeString s rest
  | .arr [], rest => '[' :: ']' :: rest
  | .arr (j :: js), rest => '[' :: writeOn j (writeItems js rest)
  | .obj [], rest => '\x7b' :: '\x7d' :: rest
  | .obj ((k, j) :: ms), rest => '\x7b' :: writeString k (':' :: writeOn j (writeMembers ms rest))

/-- The further elements of an array and its end. -/
def writeItems : List Json → List Char → List Char
  | [], rest => ']' :: rest
  | j :: js, rest => ',' :: writeOn j (writeItems js rest)

/-- The further members of an object and its end. -/
def writeMembers : List (String × Json) → List Char → List Char
  | [], rest => '\x7d' :: rest
  | (k, j) :: ms, rest => ',' :: writeString k (':' :: writeOn j (writeMembers ms rest))

end

/-- The text of a document. -/
def text (j : Json) : String := String.ofList (writeOn j [])

end Json

end TaskWorker
