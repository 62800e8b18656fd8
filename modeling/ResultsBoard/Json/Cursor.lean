import ResultsBoard.Json.Fault

/-!
# A place in a text being read

A cursor is the rest of the text together with the place where that rest begins. Readers take a
cursor and give back a value with the cursor after it, or the first fault.
-/

namespace ResultsBoard.Json

/-- The rest of a text and where it begins. -/
structure Cursor where
  rest : List Char
  place : Place

namespace Cursor

/-- The beginning of a text. -/
def ofText (text : String) : Cursor := ⟨text.toList, .start⟩

/-- The cursor after the next `n` characters. -/
def drop (c : Cursor) (n : Nat) : Cursor := ⟨c.rest.drop n, c.place.afterAll (c.rest.take n)⟩

/-- The cursor after the next character. -/
def next (c : Cursor) : Cursor := c.drop 1

/-- The cursor after all leading characters that satisfy `p`. -/
def dropWhile (c : Cursor) (p : Char → Bool) : Cursor := c.drop (c.rest.takeWhile p).length

/-- The blanks of JSON. -/
def isBlank (c : Char) : Bool := c = ' ' || c = '\n' || c = '\t' || c = '\r'

/-- The cursor after all blanks. -/
def skipBlanks (c : Cursor) : Cursor := c.dropWhile isBlank

/-- The leading decimal digits. -/
def digits (c : Cursor) : List Char := c.rest.takeWhile Char.isDigit

/-- A fault at the cursor. -/
def fault {α : Type} (c : Cursor) (cause : Cause) : Except Fault α := .error ⟨cause, c.place⟩

/-- A fault that shows one byte into what follows the cursor. -/
def faultAhead {α : Type} (c : Cursor) (cause : Cause) : Except Fault α :=
  .error ⟨cause, c.place.oneByteInto c.rest⟩

/-- Pass over the given characters, which complete a word. -/
def expect : List Char → Cursor → Except Fault Cursor
  | [], c => .ok c
  | w :: ws, c =>
    match c.rest with
    | [] => c.fault .endInValue
    | d :: _ => if d = w then expect ws c.next else c.faultAhead .expectedIdent

end Cursor

end ResultsBoard.Json
