import ResultsBoard.Board.Part
import ResultsBoard.Reply

/-!
# Scripts for a board

What can happen to a mounted board: the user presses a button, the window is resized, time
passes, a fetch ends, a requested frame runs, the canvases enter the page, everything is
unmounted.
-/

namespace ResultsBoard.Board

open Metadata

/-- Something that happens to a mounted board. -/
inductive Step where
  /-- The fetch at an index of those under way ends. -/
  | settle (index : Nat)
  /-- The new canvases enter the page. -/
  | place
  /-- The containers get another size and the resize hub notifies. -/
  | resizeContainers (container : Int × Int)
  /-- The window gets another size. -/
  | resizeWindow (container : Int × Int)
  /-- Time passes for the toast. -/
  | advance (milliseconds : Nat)
  /-- The requested frames run. -/
  | runFrames
  /-- What stands at an index of the loads is loaded again. -/
  | retry (index : Nat)
  /-- The button of the tab at an index is pressed. -/
  | selectTab (index : Nat)
  | addPlot
  | removePlot (id : PlotId)
  | unmount

/-- Carry out a step. -/
def step (b : Board) : Step → Board × Reply
  | .settle index => Reply.ofFlag (b.settle index)
  | .place => (b.place, .nothing)
  | .resizeContainers container => Reply.ofCount (b.resizeContainers container)
  | .resizeWindow container => Reply.ofCount (b.resizeWindow container)
  | .advance milliseconds => ({ b with toast := b.toast.advance milliseconds }, .nothing)
  | .runFrames => Reply.ofCount b.runFrames
  | .retry index =>
    match b.loads[index]? with
    | none => (b, .flag false)
    | some load => Reply.ofFlag (b.retry load)
  | .selectTab index =>
    match Tab.all[index]? with
    | none => (b, .flag false)
    | some tab => Reply.ofFlag (b.selectTab tab)
  | .addPlot => Reply.ofFlag b.addPlot
  | .removePlot id => Reply.ofFlag (b.removePlot id)
  | .unmount => (b.unmount, .nothing)

/-- The board after some steps. -/
def run (b : Board) (steps : List Step) : Board := steps.foldl (fun b step => (b.step step).1) b

/-- The board with nothing in its record of effects. -/
def quiet (b : Board) : Board := { b with effects := [] }

/-- Carry out one step after another. Gives what each of them replied, and the board after it with
the effects of that step alone. -/
def trace (b : Board) : List Step → List (Reply × Board)
  | [] => []
  | step :: rest =>
    let (after, reply) := b.quiet.step step
    (reply, after) :: trace after rest

end ResultsBoard.Board
