import ResultsBoard.Decimal.Parts

/-!
# Numbers with a fixed number of decimal places

`fixed` writes a number with a given number of places, rounding the exact value to nearest and
ties to even. The sign of a negative zero, and of a value that rounds to zero, stays.
-/

namespace ResultsBoard.Decimal

/-- The decimal digits of a number. -/
def digits (n : Nat) : List Char := Nat.toDigits 10 n

/-- Digits with zeros in front, so that there are at least `width` of them. -/
def padded (width : Nat) (ds : List Char) : List Char :=
  List.replicate (width - ds.length) '0' ++ ds

/-- The sign of a number: a minus or nothing. -/
def signText (negative : Bool) : List Char := if negative then ['-'] else []

/-- An exact value with `places` decimal places. -/
def Parts.fixed (places : Nat) (p : Parts) : List Char :=
  let scale := Nat.pow 10 places
  let scaled := roundDiv (p.numerator * scale) p.denominator
  let whole := digits (scaled / scale)
  let fraction := padded places (digits (scaled % scale))
  signText p.negative ++ if places = 0 then whole else whole ++ '.' :: fraction

/-- A `Float` with `places` decimal places. -/
def fixed (places : Nat) (x : Float) : String :=
  match shape x with
  | .notANumber => "NaN"
  | .infinite negative => String.ofList (signText negative) ++ "inf"
  | .finite parts => String.ofList (parts.fixed places)

example : (⟨false, 1, -3⟩ : Parts).fixed 2 = "0.12".toList := by decide
example : (⟨true, 1, -1⟩ : Parts).fixed 0 = "-0".toList := by decide

end ResultsBoard.Decimal
