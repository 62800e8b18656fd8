import ResultsBoard.Text.Visible

/-!
# Quoted text

How a message quotes a text that it complains about: in double quotes, with a backslash before
a quote and before a backslash, short names for NUL, tab, carriage return and line feed, and
the code point in braces for every other character that has no visible form of its own.
-/

namespace ResultsBoard.Text

/-- The hexadecimal digits of a number, in lower case and without leading zeros. -/
def hexDigits (n : Nat) : List Char := Nat.toDigits 16 n

/-- One character inside a quoted text. -/
def quotedChar (c : Char) : List Char :=
  if c = '\x00' then ['\\', '0']
  else if c = '\t' then ['\\', 't']
  else if c = '\r' then ['\\', 'r']
  else if c = '\n' then ['\\', 'n']
  else if c = '"' then ['\\', '"']
  else if c = '\\' then ['\\', '\\']
  else if isVisible c then [c]
  else ['\\', 'u', '\x7b'] ++ hexDigits c.toNat ++ ['\x7d']

/-- A text in quotes. -/
def quoted (text : String) : String :=
  String.ofList ('"' :: (text.toList.flatMap quotedChar ++ ['"']))

example : quoted "a\"b" = "\"a\\\"b\"" := by decide +kernel

end ResultsBoard.Text
