import ResultsBoard.Decimal.Fixed

/-!
# Text of an axis tick

A tick shows two decimal places, or none when the number is an integer or at least a thousand in
absolute value.
-/

namespace ResultsBoard.Chart

/-- Whether a number is an integer. What is not finite is none. -/
def isInteger (x : Float) : Bool :=
  match Decimal.shape x with
  | .finite parts => parts.isInteger
  | _ => false

/-- The text of a tick (`format_tick`). -/
def tickText (x : Float) : String :=
  if 1000 ≤ x.abs || isInteger x then Decimal.fixed 0 x else Decimal.fixed 2 x

end ResultsBoard.Chart
