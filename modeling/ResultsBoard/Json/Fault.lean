import ResultsBoard.Json.Value
import ResultsBoard.Text.Quoted

/-!
# Why a text is no document

A fault has a cause and a place. Places count lines from one, and within a line the bytes of
its UTF-8 form, so that a fault at the end of a text of `n` bytes without line breaks stands at
line 1 column `n`. `Fault.message` is the only wording of faults.
-/

namespace ResultsBoard.Json

/-- A position between two bytes of a text. -/
structure Place where
  line : Nat
  column : Nat
  deriving DecidableEq, Repr

/-- The place before the first byte. -/
def Place.start : Place := ⟨1, 0⟩

/-- The place after a character. -/
def Place.after (p : Place) (c : Char) : Place :=
  if c = '\n' then ⟨p.line + 1, 0⟩ else ⟨p.line, p.column + c.utf8Size⟩

/-- The place after some characters. -/
def Place.afterAll (p : Place) (cs : List Char) : Place := cs.foldl Place.after p

/-- The place one byte into the characters that follow; at the end of the text it does not move. -/
def Place.oneByteInto (p : Place) : List Char → Place
  | [] => p
  | c :: _ => if c = '\n' then ⟨p.line + 1, 0⟩ else ⟨p.line, p.column + 1⟩

/-- What was found where something of a certain kind was expected. -/
inductive Found where
  | null
  | boolean (b : Bool)
  | number (n : Number)
  | text (s : String)
  | sequence
  | map

/-- What is wrong. -/
inductive Cause where
  | endInList
  | endInObject
  | endInText
  | endInValue
  | expectedColon
  | expectedListCommaOrEnd
  | expectedObjectCommaOrEnd
  | expectedIdent
  | expectedValue
  | invalidEscape
  | invalidNumber
  | numberOutOfRange
  | loneSurrogate
  | unfinishedSurrogatePair
  | controlCharacter
  | keyNotText
  | trailingComma
  | trailingCharacters
  | nestedTooDeep
  | wrongType (found : Found) (expected : String)
  | wrongValue (found : Found) (expected : String)
  | duplicateField (name : String)

/-- A cause and the place where it shows. -/
structure Fault where
  cause : Cause
  place : Place

namespace Found

/-- How a message names what was found. -/
def message : Found → String
  | null => "null"
  | boolean b => "boolean `" ++ (if b then "true" else "false") ++ "`"
  | number (.real x) => "floating point `" ++ String.ofList (Number.real x).text ++ "`"
  | number n => "integer `" ++ String.ofList n.text ++ "`"
  | text s => "string " ++ Text.quoted s
  | sequence => "sequence"
  | map => "map"

end Found

/-- The wording of a cause. -/
def Cause.message : Cause → String
  | endInList => "EOF while parsing a list"
  | endInObject => "EOF while parsing an object"
  | endInText => "EOF while parsing a string"
  | endInValue => "EOF while parsing a value"
  | expectedColon => "expected `:`"
  | expectedListCommaOrEnd => "expected `,` or `]`"
  | expectedObjectCommaOrEnd => "expected `,` or `\x7d`"
  | expectedIdent => "expected ident"
  | expectedValue => "expected value"
  | invalidEscape => "invalid escape"
  | invalidNumber => "invalid number"
  | numberOutOfRange => "number out of range"
  | loneSurrogate => "lone leading surrogate in hex escape"
  | unfinishedSurrogatePair => "unexpected end of hex escape"
  | controlCharacter => "control character (\\u0000-\\u001F) found while parsing a string"
  | keyNotText => "key must be a string"
  | trailingComma => "trailing comma"
  | trailingCharacters => "trailing characters"
  | nestedTooDeep => "recursion limit exceeded"
  | wrongType found expected => "invalid type: " ++ found.message ++ ", expected " ++ expected
  | wrongValue found expected => "invalid value: " ++ found.message ++ ", expected " ++ expected
  | duplicateField name => "duplicate field `" ++ name ++ "`"

/-- The wording of a fault: the cause, then the place. -/
def Fault.message (f : Fault) : String :=
  f.cause.message ++ " at line " ++ toString f.place.line ++ " column " ++ toString f.place.column

end ResultsBoard.Json
