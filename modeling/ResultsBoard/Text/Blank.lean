/-!
# Blank text

A text is **blank** when every character of it has the Unicode property `White_Space`. The
property has 25 members, listed here in ranges.
-/

namespace ResultsBoard.Text

/-- The code points with the property `White_Space`, as inclusive ranges. -/
def blankRanges : List (Nat × Nat) :=
  [(0x09, 0x0D), (0x20, 0x20), (0x85, 0x85), (0xA0, 0xA0), (0x1680, 0x1680), (0x2000, 0x200A),
   (0x2028, 0x2029), (0x202F, 0x202F), (0x205F, 0x205F), (0x3000, 0x3000)]

/-- Whether a code point lies in one of the ranges. -/
def inRanges (ranges : List (Nat × Nat)) (code : Nat) : Bool :=
  ranges.any fun range => range.1 ≤ code && code ≤ range.2

/-- Whether a character has the property `White_Space`. -/
def isBlankChar (c : Char) : Bool := inRanges blankRanges c.toNat

/-- Whether a text holds nothing but white space; the empty text does. -/
def isBlank (text : String) : Bool := text.toList.all isBlankChar

/-- The property has 25 members. -/
example : (blankRanges.map fun range => range.2 + 1 - range.1).sum = 25 := by decide

/-- A zero width space is no white space. -/
example : isBlankChar (Char.ofNat 0x200B) = false := by decide

end ResultsBoard.Text
