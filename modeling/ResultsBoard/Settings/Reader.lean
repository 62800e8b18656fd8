import ResultsBoard.Json.Reader
import ResultsBoard.Json.Skip
import ResultsBoard.Settings.Basic

/-!
# Settings documents

A page may carry a JSON document with settings of its own: an object with any of the five fields
`Field.all`, in any order and each at most once, or an array of their values in that order, which
may be cut short. What the document does not set keeps its default. Unknown members are passed
over. The root of the resources is no field: a member of that name is unknown like any other.
-/

namespace ResultsBoard.Settings

open Json

/-- The fields of a settings document. -/
inductive Field where
  | fetchRetries
  | retryBaseDelay
  | retryMaxDelay
  | toastTimeout
  | logLevel
  deriving DecidableEq, Repr

namespace Field

/-- All fields, in the order of the array form. -/
def all : List Field := [fetchRetries, retryBaseDelay, retryMaxDelay, toastTimeout, logLevel]

/-- The name of a field in the object form. -/
def name : Field → String
  | fetchRetries => "fetch_retries"
  | retryBaseDelay => "retry_base_delay_ms"
  | retryMaxDelay => "retry_max_delay_ms"
  | toastTimeout => "toast_timeout_ms"
  | logLevel => "log_level"

/-- The field with the given name. -/
def ofName? (s : String) : Option Field := all.find? fun field => field.name = s

end Field

/-- What a settings document is called in a message. -/
def documentKind : String := "struct DashboardConfig"

/-- The complaint about what stands at the cursor where something else was expected. A scalar is
read first, so that a fault inside it comes before the complaint about its type. -/
def mismatch {α : Type} (expected : String) (c : Cursor) : Except Fault α :=
  let complain (found : Found) (c : Cursor) : Except Fault α := c.fault (.wrongType found expected)
  match c.rest with
  | [] => c.faultAhead .expectedValue
  | 'n' :: _ => do complain .null (← c.next.expect ['u', 'l', 'l'])
  | 't' :: _ => do complain (.boolean true) (← c.next.expect ['r', 'u', 'e'])
  | 'f' :: _ => do complain (.boolean false) (← c.next.expect ['a', 'l', 's', 'e'])
  | '"' :: _ => do
    let (s, c) ← Literal.read c.next
    complain (.text s) c
  | '[' :: _ => complain .sequence c
  | '\x7b' :: _ => complain .map c
  | d :: _ =>
    if d = '-' ∨ d.isDigit then do
      let (n, c) ← if d = '-' then Numeral.read true c.next else Numeral.read false c
      complain (.number n) c
    else c.faultAhead .expectedValue

/-- A number of 32 bits. -/
def readWord (c : Cursor) : Except Fault (UInt32 × Cursor) :=
  let c := c.skipBlanks
  match c.rest with
  | [] => c.faultAhead .endInValue
  | d :: _ =>
    if d = '-' ∨ d.isDigit then do
      let (n, c) ← if d = '-' then Numeral.read true c.next else Numeral.read false c
      match n with
      | .natural k =>
        if k.toNat < UInt32.size then return (k.toUInt32, c)
        else c.fault (.wrongValue (.number n) "u32")
      | .negative _ => c.fault (.wrongValue (.number n) "u32")
      | .real _ => c.fault (.wrongType (.number n) "u32")
    else mismatch "u32" c

/-- A text. -/
def readText (c : Cursor) : Except Fault (String × Cursor) :=
  let c := c.skipBlanks
  match c.rest with
  | [] => c.faultAhead .endInValue
  | '"' :: _ => Literal.read c.next
  | _ => mismatch "a string" c

/-- Read the value of a field into the settings. -/
def readField (s : Settings) (field : Field) (c : Cursor) : Except Fault (Settings × Cursor) := do
  match field with
  | .fetchRetries => do
    let (n, c) ← readWord c
    return (⟨s.apiBase, n, s.retryBaseDelay, s.retryMaxDelay, s.toastTimeout, s.logLevel⟩, c)
  | .retryBaseDelay => do
    let (n, c) ← readWord c
    return (⟨s.apiBase, s.fetchRetries, n, s.retryMaxDelay, s.toastTimeout, s.logLevel⟩, c)
  | .retryMaxDelay => do
    let (n, c) ← readWord c
    return (⟨s.apiBase, s.fetchRetries, s.retryBaseDelay, n, s.toastTimeout, s.logLevel⟩, c)
  | .toastTimeout => do
    let (n, c) ← readWord c
    return (⟨s.apiBase, s.fetchRetries, s.retryBaseDelay, s.retryMaxDelay, n, s.logLevel⟩, c)
  | .logLevel => do
    let (name, c) ← readText c
    return (⟨s.apiBase, s.fetchRetries, s.retryBaseDelay, s.retryMaxDelay, s.toastTimeout, name⟩, c)

/-- The array form, after its opening bracket: the values of the given fields. -/
def readList (first : Bool) : List Field → Settings → Cursor → Except Fault (Settings × Cursor)
  | [], s, c =>
    let c := c.skipBlanks
    match c.rest with
    | [] => c.faultAhead .endInList
    | ']' :: _ => .ok (s, c.next)
    | ',' :: _ =>
      let c := c.next.skipBlanks
      match c.rest with
      | ']' :: _ => c.faultAhead .trailingComma
      | _ => c.faultAhead .trailingCharacters
    | _ => c.faultAhead .trailingCharacters
  | field :: fields, s, c => do
    match ← nextItem first c with
    | (false, c) => return (s, c)
    | (true, c) =>
      let (s, c) ← readField s field c
      readList false fields s c

/-- Where a repeated field shows: after its name, the blanks that follow and a closing brace. -/
def afterRepeated (c : Cursor) : Cursor :=
  let c := c.skipBlanks
  match c.rest with
  | '\x7d' :: _ => c.next
  | _ => c

/-- The object form, after its opening brace; `seen` are the fields read so far. Every turn
passes at least one character, so the length of the rest bounds the number of turns. -/
def readObject :
    Nat → Bool → List Field → Settings → Cursor → Except Fault (Settings × Cursor)
  | 0, _, _, _, c => c.faultAhead .endInObject
  | turns + 1, first, seen, s, c => do
    match ← nextName first c with
    | (none, c) => return (s, c)
    | (some name, c) =>
      match Field.ofName? name with
      | none => readObject turns false seen s (← skipValue (← passColon c))
      | some field =>
        if field ∈ seen then (afterRepeated c).fault (.duplicateField name)
        else
          let (s, c) ← readField s field (← passColon c)
          readObject turns false (field :: seen) s c

/-- A settings document. -/
def readDocument (c : Cursor) : Except Fault (Settings × Cursor) :=
  let c := c.skipBlanks
  match c.rest with
  | [] => c.faultAhead .endInValue
  | '[' :: _ => readList true Field.all default c.next
  | '\x7b' :: _ => readObject (c.rest.length + 1) true [] default c.next
  | _ => mismatch documentKind c

/-- The settings that a text holds, checked (`DashboardConfig::from_json`). -/
def ofText (text : String) : Except SettingsFault Settings := do
  let s ← (readDocument (.ofText text) >>= finish).mapError .unreadable
  s.validate
  return s

end ResultsBoard.Settings
