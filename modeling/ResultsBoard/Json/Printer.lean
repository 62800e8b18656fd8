import ResultsBoard.Json.Value
import ResultsBoard.Text.Quoted

/-!
# Compact JSON text

`Value.render` writes a value without any blanks. In a string only the quote, the backslash and
the control characters below U+0020 are escaped, five of these by a letter.
-/

namespace ResultsBoard.Json

/-- One character of a JSON string. -/
def escaped (c : Char) : List Char :=
  if c = '"' then ['\\', '"']
  else if c = '\\' then ['\\', '\\']
  else if c = '\x08' then ['\\', 'b']
  else if c = '\x0c' then ['\\', 'f']
  else if c = '\n' then ['\\', 'n']
  else if c = '\r' then ['\\', 'r']
  else if c = '\t' then ['\\', 't']
  else if c.toNat < 0x20 then ['\\', 'u'] ++ Decimal.padded 4 (Text.hexDigits c.toNat)
  else [c]

/-- A text as a JSON string. -/
def renderText (s : String) : List Char := '"' :: (s.toList.flatMap escaped ++ ['"'])

mutual

/-- The characters of a value. -/
def Value.chars : Value → List Char
  | .null => "null".toList
  | .boolean true => "true".toList
  | .boolean false => "false".toList
  | .number n => n.text
  | .text s => renderText s
  | .array [] => ['[', ']']
  | .array (x :: xs) => '[' :: (x.chars ++ Value.itemChars xs)
  | .object [] => ['\x7b', '\x7d']
  | .object ((name, x) :: xs) =>
    '\x7b' :: (renderText name ++ ':' :: (x.chars ++ Value.memberChars xs))

/-- The items after the first one, and the bracket that closes the array. -/
def Value.itemChars : List Value → List Char
  | [] => [']']
  | x :: xs => ',' :: (x.chars ++ Value.itemChars xs)

/-- The members after the first one, and the brace that closes the object. -/
def Value.memberChars : List (String × Value) → List Char
  | [] => ['\x7d']
  | (name, x) :: xs => ',' :: (renderText name ++ ':' :: (x.chars ++ Value.memberChars xs))

end

/-- The compact text of a value. -/
def Value.render (v : Value) : String := String.ofList v.chars

example : (Value.array [.number (.natural 1), .object [("k", .text "\t")]]).render =
    "[1,\x7b\"k\":\"\\t\"\x7d]" := by decide +kernel

end ResultsBoard.Json
