/-!
# Binary64 numbers as exact numbers

A `Float` is read back from its 64 bits: it is not a number, infinite, or exactly
`± significand · 2 ^ exponent`. All decimal text is computed from these exact parts, in natural
numbers, so that nothing depends on how a rounded operation behaves.
-/

namespace ResultsBoard.Decimal

/-- The finite number `± significand · 2 ^ exponent`. Zero keeps its sign. -/
structure Parts where
  negative : Bool
  significand : Nat
  exponent : Int
  deriving DecidableEq, Repr

/-- What the bits of a `Float` say. -/
inductive Shape where
  | notANumber
  | infinite (negative : Bool)
  | finite (parts : Parts)
  deriving DecidableEq, Repr

/-- The leading bit of a significand, which the fraction field leaves out: two to the 52. -/
def implicitBit : Nat := 0x10000000000000

/-- Read sign, exponent field and fraction field of a binary64 word. -/
def shapeOfBits (bits : Nat) : Shape :=
  let negative : Bool := 2048 * implicitBit ≤ bits
  let field : Nat := bits / implicitBit % 2048
  let fraction := bits % implicitBit
  if field = 2047 then
    if fraction = 0 then .infinite negative else .notANumber
  else if field = 0 then .finite ⟨negative, fraction, -1074⟩
  else .finite ⟨negative, implicitBit + fraction, (field : Int) - 1075⟩

/-- The exact value of a `Float`. -/
def shape (x : Float) : Shape := shapeOfBits x.toBits.toNat

/-- `numerator` over `denominator` is the absolute value. -/
def Parts.numerator (p : Parts) : Nat := p.significand * Nat.pow 2 p.exponent.toNat

@[inherit_doc Parts.numerator]
def Parts.denominator (p : Parts) : Nat := Nat.pow 2 (-p.exponent).toNat

/-- Whether the value has no fractional part. -/
def Parts.isInteger (p : Parts) : Bool := p.numerator % p.denominator == 0

example : shapeOfBits 0x3FF0000000000000 = .finite ⟨false, implicitBit, -52⟩ := by decide
example : shapeOfBits 0x8000000000000000 = .finite ⟨true, 0, -1074⟩ := by decide
example : shapeOfBits 0xFFF0000000000000 = .infinite true := by decide

/-- The quotient of two natural numbers, rounded to the nearest; a tie goes to the even one. -/
def roundDiv (num den : Nat) : Nat :=
  let floor := num / den
  let rest := num % den
  if 2 * rest < den then floor
  else if den < 2 * rest then floor + 1
  else floor + floor % 2

/-- Ties go to the even neighbour. -/
example : roundDiv 1 2 = 0 ∧ roundDiv 3 2 = 2 ∧ roundDiv 5 2 = 2 ∧ roundDiv 7 2 = 4 := by decide

end ResultsBoard.Decimal
