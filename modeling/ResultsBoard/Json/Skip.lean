import ResultsBoard.Json.Literal
import ResultsBoard.Json.Numeral

/-!
# Passing over a value

A value that nobody asked for is passed over without being built. Only its form is checked:
nesting is not limited, numbers may be out of range, and string escapes need not form characters.
The containers still open are kept on a stack.
-/

namespace ResultsBoard.Json

/-- A container that is still open. -/
inductive Container where
  | list
  | object
  deriving DecidableEq

namespace Container

/-- The bracket that closes the container. -/
def closing : Container → Char
  | list => ']'
  | object => '\x7d'

/-- The fault of a text that ends inside the container. -/
def atEnd : Container → Cause
  | list => .endInList
  | object => .endInObject

/-- The fault of a container that goes on with neither a comma nor its end. -/
def expectedCommaOrEnd : Container → Cause
  | list => .expectedListCommaOrEnd
  | object => .expectedObjectCommaOrEnd

end Container

/-- Pass over a scalar, or over the bracket that opens a container. -/
def skipStart (c : Cursor) : Except Fault (Option Container × Cursor) :=
  match c.rest with
  | [] => c.faultAhead .endInValue
  | 'n' :: _ => return (none, ← c.next.expect ['u', 'l', 'l'])
  | 't' :: _ => return (none, ← c.next.expect ['r', 'u', 'e'])
  | 'f' :: _ => return (none, ← c.next.expect ['a', 'l', 's', 'e'])
  | '"' :: _ => return (none, ← Literal.skip c.next)
  | '[' :: _ => .ok (some .list, c.next)
  | '\x7b' :: _ => .ok (some .object, c.next)
  | d :: _ =>
    if d = '-' then return (none, ← Numeral.skip c.next)
    else if d.isDigit then return (none, ← Numeral.skip c)
    else c.faultAhead .expectedValue

/-- Close every container that ends here. `after` says whether a value stands before the cursor.
Gives the stack of containers still open; if there are some, the cursor stands where the next
item or member begins. -/
def skipEnds : Bool → List Container → Cursor → Except Fault (List Container × Cursor)
  | _, [], c => .ok ([], c)
  | after, open_ :: outer, c =>
    let c := c.skipBlanks
    match c.rest with
    | [] => c.faultAhead open_.atEnd
    | d :: _ =>
      if after ∧ d = ',' then .ok (open_ :: outer, c.next)
      else if d = open_.closing then skipEnds true outer c.next
      else if after then c.faultAhead open_.expectedCommaOrEnd
      else .ok (open_ :: outer, c)

/-- Pass over the name and the colon in front of a member. -/
def skipName (c : Cursor) : Except Fault Cursor :=
  let c := c.skipBlanks
  match c.rest with
  | [] => c.faultAhead .endInObject
  | '"' :: _ => do
    let c := (← Literal.skip c.next).skipBlanks
    match c.rest with
    | [] => c.faultAhead .endInObject
    | ':' :: _ => return c.next
    | _ => c.faultAhead .expectedColon
  | _ => c.faultAhead .keyNotText

/-- Pass over scalars and brackets until the stack is empty. Every turn passes at least one
character, so the length of the rest bounds the number of turns. -/
def skipLoop : Nat → List Container → Cursor → Except Fault Cursor
  | 0, _, c => c.faultAhead .endInValue
  | turns + 1, stack, c => do
    let (opened, c) ← skipStart c.skipBlanks
    let (stack, c) ← match opened with
      | some container => skipEnds false (container :: stack) c
      | none => skipEnds true stack c
    match stack with
    | [] => return c
    | .list :: _ => skipLoop turns stack c
    | .object :: _ => skipLoop turns stack (← skipName c)

/-- Pass over one value. -/
def skipValue (c : Cursor) : Except Fault Cursor := skipLoop (c.rest.length + 1) [] c

end ResultsBoard.Json
