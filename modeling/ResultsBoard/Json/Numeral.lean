import ResultsBoard.Json.Cursor

/-!
# Number literals

A literal is read as a significand below `2 ^ 64` and a power of ten. Digits that no longer fit
are dropped: one in the integer part still counts as a power of ten, one in the fraction does
not. The value is the significand times or divided by the power of ten, each operation rounded
on its own, so it may differ from the binary64 number nearest to the literal in the last bit.
-/

namespace ResultsBoard.Json.Numeral

/-- The value of a decimal digit. -/
def digitValue (c : Char) : Nat := c.toNat - '0'.toNat

/-- Append digits to a significand as long as it stays below `bound`. Gives the significand and
how many digits were left over. -/
def gather (bound : Nat) : Nat → List Char → Nat × Nat
  | s, [] => (s, 0)
  | s, d :: ds =>
    if 10 * s + digitValue d < bound then gather bound (10 * s + digitValue d) ds
    else (s, ds.length + 1)

/-- Significands have 64 bits. -/
def significandBound : Nat := UInt64.size

/-- Exponents have 31 bits. -/
def exponentBound : Nat := 0x80000000

/-- The powers of ten up to `10 ^ 308`, to the nearest binary64 number. -/
def tenTo (k : Nat) : Float := Float.ofScientific 1 false k

/-- `x` times ten to the `e`; nothing if that is not finite. -/
def scale (x : Float) (e : Int) : Option Float :=
  if 308 < e then (if x == 0 then some x else none)
  else if 0 ≤ e then
    let y := x * tenTo e.toNat
    if y.isInf then none else some y
  else if -308 ≤ e then some (x / tenTo (-e).toNat)
  else if x == 0 then some x
  else scale (x / tenTo 308) (e + 308)
termination_by e.natAbs

/-- A real number from sign, significand and power of ten. -/
def real (negative : Bool) (significand : Nat) (e : Int) (c : Cursor) :
    Except Fault (Number × Cursor) :=
  match scale (UInt64.ofNat significand).toFloat e with
  | some x => .ok (.real (if negative then -x else x), c)
  | none => c.fault .numberOutOfRange

/-- Two to the 63: the negative integers reach down to minus this. -/
def negativeBound : Nat := 0x8000000000000000

/-- A literal without point and exponent, all of whose digits fit. Negative zero and integers
below `-2 ^ 63` are reals. -/
def integer (negative : Bool) (significand : Nat) : Number :=
  let n := UInt64.ofNat significand
  if !negative then .natural n
  else if 0 < significand ∧ significand ≤ negativeBound then .negative n
  else .real (-n.toFloat)

/-- The exponent part, from its letter on. -/
def readExponent (negative : Bool) (significand : Nat) (e : Int) (c : Cursor) :
    Except Fault (Number × Cursor) :=
  let c := c.next
  let (down, c) := match c.rest with
    | '+' :: _ => (false, c.next)
    | '-' :: _ => (true, c.next)
    | _ => (false, c)
  match c.rest with
  | [] => c.fault .endInValue
  | _ :: _ =>
    let ds := c.digits
    if ds = [] then c.faultAhead .invalidNumber
    else
      let (size, left) := gather exponentBound 0 ds
      if left = 0 then
        real negative significand (if down then e - size else e + size) (c.drop ds.length)
      else if significand ≠ 0 ∧ !down then (c.drop (ds.length - left + 1)).fault .numberOutOfRange
      else .ok (.real (if negative then -0.0 else 0.0), c.drop ds.length)

/-- The fraction part, from its point on. `e` counts the integer digits that were dropped. -/
def readFraction (negative : Bool) (significand : Nat) (e : Int) (c : Cursor) :
    Except Fault (Number × Cursor) :=
  let c := c.next
  let ds := c.digits
  if ds = [] then c.faultAhead (if c.rest = [] then .endInValue else .invalidNumber)
  else
    let (significand, left) := gather significandBound significand ds
    let e := e - (ds.length - left : Nat)
    let c := c.drop ds.length
    match c.rest with
    | 'e' :: _ | 'E' :: _ => readExponent negative significand e c
    | _ => real negative significand e c

/-- A number literal after its minus sign. A zero in front of another digit is refused. -/
def read (negative : Bool) (c : Cursor) : Except Fault (Number × Cursor) :=
  match c.rest, c.digits with
  | [], _ => c.fault .endInValue
  | _, [] => c.faultAhead .invalidNumber
  | _, '0' :: _ :: _ => c.next.faultAhead .invalidNumber
  | _, ds =>
    let (significand, left) := gather significandBound 0 ds
    let c := c.drop ds.length
    match c.rest with
    | '.' :: _ => readFraction negative significand left c
    | 'e' :: _ | 'E' :: _ => readExponent negative significand left c
    | _ =>
      if left = 0 then .ok (integer negative significand, c)
      else real negative significand left c

/-- Pass over an exponent part. -/
def skipExponent (c : Cursor) : Except Fault Cursor :=
  let c := c.next
  let c := match c.rest with
    | '+' :: _ | '-' :: _ => c.next
    | _ => c
  if c.digits = [] then c.faultAhead .invalidNumber else .ok (c.drop c.digits.length)

/-- Pass over a number literal after its minus sign, without a look at its value. -/
def skip (c : Cursor) : Except Fault Cursor :=
  match c.digits with
  | [] => c.faultAhead .invalidNumber
  | '0' :: _ :: _ => c.next.faultAhead .invalidNumber
  | ds =>
    let c := c.drop ds.length
    match c.rest with
    | '.' :: _ =>
      let c := c.next
      if c.digits = [] then c.faultAhead .invalidNumber
      else
        let c := c.drop c.digits.length
        match c.rest with
        | 'e' :: _ | 'E' :: _ => skipExponent c
        | _ => .ok c
    | 'e' :: _ | 'E' :: _ => skipExponent c
    | _ => .ok c

end ResultsBoard.Json.Numeral
