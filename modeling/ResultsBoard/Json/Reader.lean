import ResultsBoard.Json.Literal
import ResultsBoard.Json.Numeral

/-!
# Reading a document

`Value.parse` reads a whole text as one value and gives the first fault otherwise. Containers may
be nested 127 deep; the reader recurses on the depth that is left. A name that an object repeats
takes its last value and keeps its first position (`Members.put`).
-/

namespace ResultsBoard.Json

/-- The deepest nesting of containers. -/
def greatestDepth : Nat := 127

/-- After an item or at the start of an array: whether another item follows. The cursor given
back stands at the item or after the closing bracket. -/
def nextItem (first : Bool) (c : Cursor) : Except Fault (Bool × Cursor) :=
  let c := c.skipBlanks
  match c.rest with
  | [] => c.faultAhead .endInList
  | ']' :: _ => .ok (false, c.next)
  | d :: _ =>
    if first then .ok (true, c)
    else if d = ',' then
      let c := c.next.skipBlanks
      match c.rest with
      | [] => c.faultAhead .endInValue
      | ']' :: _ => c.faultAhead .trailingComma
      | _ => .ok (true, c)
    else c.faultAhead .expectedListCommaOrEnd

/-- After a member or at the start of an object: the name of the next member, if there is one.
The cursor given back stands after the name or after the closing brace. -/
def nextName (first : Bool) (c : Cursor) : Except Fault (Option String × Cursor) :=
  let c := c.skipBlanks
  match c.rest with
  | [] => c.faultAhead .endInObject
  | '\x7d' :: _ => .ok (none, c.next)
  | d :: _ => do
    let c ←
      if first then
        if d = '"' then pure c else c.faultAhead .keyNotText
      else if d = ',' then
        let c := c.next.skipBlanks
        match c.rest with
        | [] => c.faultAhead .endInValue
        | '"' :: _ => pure c
        | '\x7d' :: _ => c.faultAhead .trailingComma
        | _ => c.faultAhead .keyNotText
      else c.faultAhead .expectedObjectCommaOrEnd
    let (name, c) ← Literal.read c.next
    return (some name, c)

/-- The colon between a name and its value. -/
def passColon (c : Cursor) : Except Fault Cursor :=
  let c := c.skipBlanks
  match c.rest with
  | [] => c.faultAhead .endInObject
  | ':' :: _ => .ok c.next
  | _ => c.faultAhead .expectedColon

/-- The items of an array, after its opening bracket. Every turn passes at least one character,
so the length of the rest bounds the number of turns. -/
def readItems (readItem : Cursor → Except Fault (Value × Cursor)) :
    Nat → List Value → Cursor → Except Fault (List Value × Cursor)
  | 0, _, c => c.faultAhead .endInList
  | turns + 1, seen, c => do
    match ← nextItem seen.isEmpty c with
    | (false, c) => return (seen.reverse, c)
    | (true, c) =>
      let (item, c) ← readItem c
      readItems readItem turns (item :: seen) c

/-- The members of an object, after its opening brace; turns are bounded as in `readItems`. -/
def readMembers (readItem : Cursor → Except Fault (Value × Cursor)) :
    Nat → Bool → Members → Cursor → Except Fault (Members × Cursor)
  | 0, _, _, c => c.faultAhead .endInObject
  | turns + 1, first, seen, c => do
    match ← nextName first c with
    | (none, c) => return (seen, c)
    | (some name, c) =>
      let (item, c) ← readItem (← passColon c)
      readMembers readItem turns false (seen.put name item) c

/-- One value. `depth` is how deep containers may still be nested. -/
def Value.read (depth : Nat) (c : Cursor) : Except Fault (Value × Cursor) :=
  let c := c.skipBlanks
  match c.rest with
  | [] => c.faultAhead .endInValue
  | 'n' :: _ => return (.null, ← c.next.expect ['u', 'l', 'l'])
  | 't' :: _ => return (.boolean true, ← c.next.expect ['r', 'u', 'e'])
  | 'f' :: _ => return (.boolean false, ← c.next.expect ['a', 'l', 's', 'e'])
  | '"' :: _ => do
    let (s, c) ← Literal.read c.next
    return (.text s, c)
  | '[' :: _ =>
    match depth with
    | 0 => c.faultAhead .nestedTooDeep
    | depth + 1 => do
      let (items, c) ← readItems (Value.read depth) (c.rest.length + 1) [] c.next
      return (.array items, c)
  | '\x7b' :: _ =>
    match depth with
    | 0 => c.faultAhead .nestedTooDeep
    | depth + 1 => do
      let (members, c) ← readMembers (Value.read depth) (c.rest.length + 1) true [] c.next
      return (.object members, c)
  | d :: _ =>
    if d = '-' then do
      let (n, c) ← Numeral.read true c.next
      return (.number n, c)
    else if d.isDigit then do
      let (n, c) ← Numeral.read false c
      return (.number n, c)
    else c.faultAhead .expectedValue

/-- Nothing but blanks may follow. -/
def finish {α : Type} : α × Cursor → Except Fault α
  | (a, c) =>
    let c := c.skipBlanks
    if c.rest = [] then .ok a else c.faultAhead .trailingCharacters

/-- The value that a text holds. -/
def Value.parse (s : String) : Except Fault Value := do
  finish (← Value.read greatestDepth (.ofText s))

end ResultsBoard.Json
