/-!
# Canvases

A canvas has a backing store of a width and a height and takes drawing calls. It is fitted to the
container around it, but never made smaller than a least size.
-/

namespace ResultsBoard.Chart

/-- A call on the drawing context of a canvas, or the setting of one of its properties. -/
inductive Call where
  | fillStyle (color : String)
  | strokeStyle (color : String)
  | lineWidth (width : Float)
  | font (font : String)
  | fillRect (x y width height : Float)
  | fillText (text : String) (x y : Float)
  | beginPath
  | moveTo (p : Float × Float)
  | lineTo (p : Float × Float)
  | stroke
  | fill
  | arc (center : Float × Float) (radius start stop : Float)

/-- What a call writes, and where. -/
def Call.label? : Call → Option (String × Float × Float)
  | fillText text x y => some (text, x, y)
  | _ => none

/-- The text that a call writes. -/
def Call.text? (call : Call) : Option String := call.label?.map Prod.fst

/-- The size of the backing store of a canvas. -/
structure Canvas where
  width : UInt32
  height : UInt32
  deriving DecidableEq, Repr

namespace Canvas

/-- A canvas that nobody has sized. -/
def unsized : Canvas := ⟨300, 150⟩

/-- No canvas is fitted to less. -/
def least : Canvas := ⟨200, 150⟩

/-- A length as a number of pixels; what is negative counts as zero. -/
def pixels (n : Int) : UInt32 := UInt32.ofNat n.toNat

/-- The size for a container of the given client width and height. -/
def ofContainer (container : Int × Int) : Canvas :=
  ⟨max (pixels container.1) least.width, max (pixels container.2) least.height⟩

/-- Fit a canvas to its container (`fit_canvas_to_container`). Says whether its size changed; a
canvas without a container keeps its size. -/
def fit (c : Canvas) : Option (Int × Int) → Canvas × Bool
  | none => (c, false)
  | some container => (ofContainer container, ofContainer container ≠ c)

end Canvas

/-- What a canvas answers when it is asked for a drawing context. -/
inductive Context where
  /-- A context that draws. -/
  | working
  /-- A context whose texts and arcs report errors, which nobody looks at. -/
  | complaining
  /-- No context. -/
  | missing
  /-- A context for something else. -/
  | other
  /-- An error. -/
  | refused
  deriving DecidableEq, Repr

/-- Whether the chart can be drawn on the context. -/
def Context.isUsable : Context → Bool
  | working | complaining => true
  | missing | other | refused => false

end ResultsBoard.Chart
