import ResultsBoard.Json.Cursor

/-!
# String literals

A string literal is read after its opening quote. Characters beyond U+FFFF may be escaped as two
`\u` escapes, a leading and a trailing surrogate; one without the other is refused. Passing over
a literal whose text is not needed checks less: any four digits will do after `\u`.
-/

namespace ResultsBoard.Json.Literal

/-- The value of a hexadecimal digit. -/
def hexValue? (c : Char) : Option Nat :=
  if '0' ≤ c ∧ c ≤ '9' then some (c.toNat - '0'.toNat)
  else if 'a' ≤ c ∧ c ≤ 'f' then some (c.toNat - 'a'.toNat + 10)
  else if 'A' ≤ c ∧ c ≤ 'F' then some (c.toNat - 'A'.toNat + 10)
  else none

/-- The value of hexadecimal digits. -/
def hexNumber? (cs : List Char) : Option Nat :=
  cs.foldl (fun acc c => do return 16 * (← acc) + (← hexValue? c)) (some 0)

/-- The place after the next four bytes, or nothing if fewer are left. -/
def afterFourBytes : Nat → Place → List Char → Option Place
  | 0, p, _ => some p
  | _ + 1, _, [] => none
  | n + 1, p, c :: cs =>
    if c = '\n' then afterFourBytes n ⟨p.line + 1, 0⟩ cs
    else if c.utf8Size ≤ n + 1 then afterFourBytes (n + 1 - c.utf8Size) (p.after c) cs
    else some ⟨p.line, p.column + (n + 1)⟩
termination_by n _ cs => (cs.length, n)

/-- The four hexadecimal digits of an escape. -/
def readHex (c : Cursor) : Except Fault (Nat × Cursor) :=
  match afterFourBytes 4 c.place c.rest with
  | none => (c.drop c.rest.length).fault .endInText
  | some place =>
    match hexNumber? (c.rest.take 4) with
    | some n => .ok (n, c.drop 4)
    | none => .error ⟨.invalidEscape, place⟩

/-- The character for a letter after a backslash. -/
def shortEscape? (c : Char) : Option Char :=
  if c = '"' ∨ c = '\\' ∨ c = '/' then some c
  else if c = 'b' then some '\x08'
  else if c = 'f' then some '\x0c'
  else if c = 'n' then some '\n'
  else if c = 'r' then some '\r'
  else if c = 't' then some '\t'
  else none

/-- Pass over one character, which has to be the given one. -/
def expectInPair (w : Char) (c : Cursor) : Except Fault Cursor :=
  match c.rest with
  | [] => c.fault .endInText
  | d :: _ => if d = w then .ok c.next else c.faultAhead .unfinishedSurrogatePair

/-- The character of a `\u` escape, from the digits on. -/
def readUnicode (c : Cursor) : Except Fault (Char × Cursor) := do
  let (n, c) ← readHex c
  if 0xDC00 ≤ n ∧ n ≤ 0xDFFF then c.fault .loneSurrogate
  else if 0xD800 ≤ n ∧ n ≤ 0xDBFF then
    let c ← expectInPair '\\' c
    let c ← expectInPair 'u' c
    let (m, c) ← readHex c
    if 0xDC00 ≤ m ∧ m ≤ 0xDFFF then
      return (Char.ofNat (0x10000 + (n - 0xD800) * 0x400 + (m - 0xDC00)), c)
    else c.fault .loneSurrogate
  else return (Char.ofNat n, c)

/-- An escape, after its backslash. -/
def readEscape (c : Cursor) : Except Fault (Char × Cursor) :=
  match c.rest with
  | [] => c.fault .endInText
  | 'u' :: _ => readUnicode c.next
  | d :: _ =>
    match shortEscape? d with
    | some e => .ok (e, c.next)
    | none => c.faultAhead .invalidEscape

/-- Whether a character may not stand for itself in a literal. -/
def isControl (c : Char) : Bool := c.toNat < 0x20

/-- Read to the closing quote. Every turn passes at least one character, so the length of the
rest bounds the number of turns. -/
def readLoop : Nat → List Char → Cursor → Except Fault (String × Cursor)
  | 0, _, c => c.fault .endInText
  | turns + 1, seen, c =>
    match c.rest with
    | [] => c.fault .endInText
    | '"' :: _ => .ok (String.ofList seen.reverse, c.next)
    | '\\' :: _ => do
      let (d, c) ← readEscape c.next
      readLoop turns (d :: seen) c
    | d :: _ =>
      if isControl d then c.next.fault .controlCharacter else readLoop turns (d :: seen) c.next

/-- A string literal after its opening quote. -/
def read (c : Cursor) : Except Fault (String × Cursor) := readLoop (c.rest.length + 1) [] c

/-- Pass over an escape, after its backslash. -/
def skipEscape (c : Cursor) : Except Fault Cursor :=
  match c.rest with
  | [] => c.fault .endInText
  | 'u' :: _ => return (← readHex c.next).2
  | d :: _ => if (shortEscape? d).isSome then .ok c.next else c.faultAhead .invalidEscape

/-- Pass over the literal to its closing quote. -/
def skipLoop : Nat → Cursor → Except Fault Cursor
  | 0, c => c.fault .endInText
  | turns + 1, c =>
    match c.rest with
    | [] => c.fault .endInText
    | '"' :: _ => .ok c.next
    | '\\' :: _ => do skipLoop turns (← skipEscape c.next)
    | d :: _ => if isControl d then c.fault .controlCharacter else skipLoop turns c.next

/-- Pass over a string literal after its opening quote. -/
def skip (c : Cursor) : Except Fault Cursor := skipLoop (c.rest.length + 1) c

end ResultsBoard.Json.Literal
