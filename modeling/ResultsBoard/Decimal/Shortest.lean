import ResultsBoard.Decimal.Fixed

/-!
# The shortest decimal that reads back

Every finite binary64 number is the nearest one to an interval of reals around it. `shortest`
finds a decimal `digits · 10 ^ exponent` in that interval with as few digits as possible: for one
digit, two digits and so on it looks at the two neighbours of the value on the grid of numbers
with so many digits, and takes the first grid that has one inside. Of two neighbours inside it
takes the nearer. Seventeen digits always suffice.
-/

namespace ResultsBoard.Decimal

/-- The decimal number `digits · 10 ^ exponent`. -/
structure Short where
  digits : Nat
  exponent : Int
  deriving DecidableEq, Repr

/-- An interval around a value, on a common denominator: the value is `value / unit`, and the
reals from `low / unit` to `high / unit` round to it. The ends belong to it if `closed`. -/
structure Around where
  value : Nat
  low : Nat
  high : Nat
  unit : Nat
  closed : Bool

/-- The reals that round to a positive binary64 number. The gap below a power of two is half the
gap above, except at the bottom of the exponent range; ties go to even significands. -/
def Parts.around (p : Parts) : Around :=
  let scale := Nat.pow 2 p.exponent.toNat
  let below := if p.significand = implicitBit ∧ -1074 < p.exponent then 1 else 2
  { value := 4 * p.significand * scale
    low := (4 * p.significand - below) * scale
    high := (4 * p.significand + 2) * scale
    unit := 4 * p.denominator
    closed := p.significand % 2 = 0 }

/-- The place of the leading digit of a positive ratio that is at least `10 ^ -400`: the exponent
`e` with `10 ^ e ≤ num / den < 10 ^ (e + 1)`. -/
def leadingPlace (num den : Nat) : Int :=
  ((digits (num * Nat.pow 10 400 / den)).length : Int) - 401

/-- Whether `n · 10 ^ k` lies in the interval. -/
def Around.holds (a : Around) (n : Nat) (k : Int) : Bool :=
  let point := n * Nat.pow 10 k.toNat * a.unit
  let shift := Nat.pow 10 (-k).toNat
  if a.closed then a.low * shift ≤ point && point ≤ a.high * shift
  else a.low * shift < point && point < a.high * shift

/-- The neighbour of the value on the grid of multiples of `10 ^ k` that lies in the interval. -/
def Around.onGrid (a : Around) (k : Int) : Option Short :=
  let num := a.value * Nat.pow 10 (-k).toNat
  let den := a.unit * Nat.pow 10 k.toNat
  let below := num / den
  let nearest := roundDiv num den
  let other := if nearest = below then below + 1 else below
  if a.holds nearest k then some ⟨nearest, k⟩
  else if a.holds other k then some ⟨other, k⟩
  else none

/-- Drop the zeros at the end of the digits; `fuel` bounds how many. -/
def Short.trim : Nat → Short → Short
  | 0, s => s
  | fuel + 1, s =>
    if s.digits % 10 = 0 ∧ s.digits ≠ 0 then Short.trim fuel ⟨s.digits / 10, s.exponent + 1⟩ else s

/-- The shortest decimal that reads back as the given positive number; zero is its own. -/
def Parts.shortest (p : Parts) : Short :=
  if p.significand = 0 then ⟨0, 0⟩
  else
    let a := p.around
    let place := leadingPlace a.value a.unit
    match (List.range 17).findSome? fun (n : Nat) => a.onGrid (place - n) with
    | some s => s.trim 18
    | none =>
      let num := a.value * Nat.pow 10 (16 - place).toNat
      let den := a.unit * Nat.pow 10 (place - 16).toNat
      ⟨roundDiv num den, place - 16⟩

/-- How a format lays the digits out: positional as long as the leading digit stands at a place
from `leastPlace` to `greatestPlace`, otherwise with an exponent. -/
structure Layout where
  leastPlace : Int
  greatestPlace : Int

/-- A positional number always shows a fraction, if only `.0`. -/
def positional (ds : List Char) (exponent : Int) : List Char :=
  let point := ds.length + exponent
  if 0 ≤ exponent then ds ++ List.replicate exponent.toNat '0' ++ ['.', '0']
  else if 0 < point then ds.take point.toNat ++ '.' :: ds.drop point.toNat
  else '0' :: '.' :: (List.replicate (-point).toNat '0' ++ ds)

/-- The exponent has a sign always and no leading zeros. -/
def scientific (ds : List Char) (place : Int) : List Char :=
  let mantissa := match ds with
    | d :: e :: rest => d :: '.' :: e :: rest
    | short => short
  let sign := if 0 ≤ place then '+' else '-'
  mantissa ++ 'e' :: sign :: digits place.natAbs

/-- The text of a shortest decimal in a layout. -/
def Layout.text (layout : Layout) (s : Short) : List Char :=
  let ds := digits s.digits
  let place := s.exponent + ds.length - 1
  if s.digits = 0 then ['0', '.', '0']
  else if layout.leastPlace ≤ place ∧ place ≤ layout.greatestPlace then positional ds s.exponent
  else scientific ds place

example : (⟨false, 1, -1074⟩ : Parts).shortest = ⟨5, -324⟩ := by decide +kernel
example : (⟨false, 0x1999999999999A, -56⟩ : Parts).shortest = ⟨1, -1⟩ := by decide +kernel
example : (Layout.mk (-5) 15).text ⟨15, -1⟩ = "1.5".toList := by decide +kernel
example : (Layout.mk (-5) 15).text ⟨12, 18⟩ = "1.2e+19".toList := by decide +kernel

end ResultsBoard.Decimal
