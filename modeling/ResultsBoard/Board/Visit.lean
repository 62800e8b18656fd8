import ResultsBoard.Board.Part

/-!
# Visits

A visit shows a part for the first time: it is mounted, its canvases are placed, the requested
frames run, and then some of its buttons are pressed. The view is that of the moment after
mounting.

A button is known by its place in the order in which buttons come up: first those of the view, in
document order, then those of each widget that a press brings, as the widget looks at that
moment. A button stays in its place when what it belongs to is unmounted, but it cannot be pressed
any more.
-/

namespace ResultsBoard.Board

/-- How a visit goes. -/
structure Plan where
  part : Part
  /-- The tab that a metadata browser starts with. -/
  tab : Metadata.Tab := .model
  /-- A message in the toast before anything is mounted. -/
  message : Option String := none
  /-- Whether fetches end as soon as they are started. -/
  promptly : Bool := true
  /-- The buttons to press, by their places. -/
  presses : List Nat := []

/-- What a visit has brought. -/
structure Visit where
  view : View.Nodes Action
  /-- How many frames were requested by mounting. -/
  frames : Nat
  /-- For each press whether there was such a button to be pressed. -/
  pressed : List Bool
  board : Board

/-- The board with a part mounted on it. -/
def opened (b : Board) (plan : Plan) : Board :=
  let toast := plan.message.elim b.toast b.toast.display
  { b with toast }.mount plan.part plan.tab plan.promptly

/-- Press the button at a place, if there is one. -/
def pressAt (promptly : Bool) (buttons : List Action) (b : Board) (place : Nat) : Board × Bool :=
  match buttons[place]? with
  | none => (b, false)
  | some action =>
    let (b, pressed) := b.press action
    (b.pause promptly, pressed)

/-- The views of the widgets that an earlier board did not have. -/
def arrivals (earlier b : Board) : View.Nodes Action :=
  let fresh := b.widgets.filter fun w => (earlier.widget? w.token).isNone
  fresh.map (View.widget (b.plots.any Plots.canRemove))

/-- Press the buttons at some places, in order. The buttons of each widget that a press brings come
after those that were there before. -/
def pressAll (promptly : Bool) (buttons : List Action) (b : Board) : List Nat → Board × List Bool
  | [] => (b, [])
  | place :: rest =>
    let (after, pressed) := pressAt promptly buttons b place
    let buttons := buttons ++ View.Node.actionsOf (arrivals b after)
    let (last, more) := pressAll promptly buttons after rest
    (last, pressed :: more)

/-- Visit a board. -/
def visit (b : Board) (plan : Plan) : Visit :=
  let b := b.opened plan
  let view := b.view plan.part
  let (b, frames) := b.place.runFrames
  let (b, pressed) := pressAll plan.promptly (View.Node.actionsOf view) b plan.presses
  ⟨view, frames, pressed, b⟩

end ResultsBoard.Board
