import TaskWorker.Text.Printable
/-!
# Quoted text

Text is shown in double quotes. A quote and a backslash take a backslash in front; the tab, the line
ends and the null character have a letter of their own; every other unprintable character is written
as its code point in hexadecimal, `\u{..}`; all else stands for itself.

* `escape c`, the written form of one character; `quote s`, of a text;
* `quoteAll`, the bracketed form of a list of texts.
-/

namespace TaskWorker.Text

/-- A code point in lower-case hexadecimal digits. -/
def hexadecimal (n : Nat) : List Char := Nat.toDigits 16 n

/-- The written form of one character. -/
def escape (c : Char) : List Char :=
  if c = '"' then ['\\', '"']
  else if c = '\\' then ['\\', '\\']
  else if c = '\t' then ['\\', 't']
  else if c = '\n' then ['\\', 'n']
  else if c = '\r' then ['\\', 'r']
  else if c = '\x00' then ['\\', '0']
  else if isPrintable c then [c]
  else ['\\', 'u', '\x7b'] ++ hexadecimal c.toNat ++ ['\x7d']

/-- A text in double quotes. -/
def quote (s : String) : String :=
  String.ofList ('"' :: s.toList.flatMap escape ++ ['"'])

/-- A list of texts, each quoted, in square brackets. -/
def quoteAll (xs : List String) : String :=
  "[" ++ String.intercalate ", " (xs.map quote) ++ "]"

end TaskWorker.Text
