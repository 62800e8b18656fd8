import ResultsBoard.Board.Action
import ResultsBoard.Board.Widget
import ResultsBoard.Resize.Registry
import ResultsBoard.Toast

/-!
# The board

The state of a running board, or of a part of it on its own: what the parts share (settings,
server, toast, resize hub), what is mounted (the metadata browser, the plots and their widgets),
and what is still to run (fetches that have been started and frames that have been requested).
Whatever leaves the board is recorded as an effect.
-/

namespace ResultsBoard

open Fetch

/-- What leaves the board. -/
inductive Effect where
  | logged (line : LogLine)
  | requested (url : String)
  | waited (milliseconds : UInt32)
  | drew (drawing : Drawing)
  /-- A failure panel that stands alone was asked to try again. -/
  | retryAsked
  /-- A widget that stands alone was asked to go. -/
  | removalAsked (id : PlotId)

/-- An event of a fetch as an effect. -/
def Effect.ofEvent : Event → Effect
  | .logged line => logged line
  | .requested url => requested url
  | .waited milliseconds => waited milliseconds

/-- The results server: for each resource its answers in order, and how many of them have been
used. -/
structure Server where
  answers : Resource → Nat → Answer
  used : Resource → Nat := fun _ => 0

namespace Server

/-- The answers that have not been used. -/
def ahead (server : Server) (resource : Resource) (i : Nat) : Answer :=
  server.answers resource (server.used resource + i)

/-- Some more answers for a resource have been used. -/
def spend (server : Server) (resource : Resource) (count : Nat) : Server :=
  { server with used := fun r => server.used r + if r = resource then count else 0 }

end Server

/-- A fetch that has been started, with what is needed to deliver its result. -/
inductive Task where
  /-- The dataset for the widget with a token, which shows a plot. -/
  | dataset (token : Nat) (plot : PlotId)
  /-- The options document for a load of the metadata browser. -/
  | options (generation : UInt64)
  /-- The model document for a load of the metadata browser. -/
  | model (generation : UInt64)
  deriving DecidableEq, Repr

/-- A frame that has been requested, with the number of plots at that time. -/
structure Frame where
  plots : Nat
  deriving DecidableEq, Repr

/-- A board. -/
structure Board where
  settings : Settings
  server : Server
  toast : Toast
  /-- The subscriptions of the widgets; the widget behind a token is the one with that token. -/
  hub : Resize.Registry Unit := {}
  /-- The client size of the containers of all canvases. -/
  container : Int × Int := (0, 0)
  /-- The metadata browser, if it is mounted. -/
  browser : Option Metadata.Browser := none
  /-- The plots, if their column is mounted. -/
  plots : Option Plots := none
  /-- The mounted widgets, in display order. -/
  widgets : List Widget := []
  /-- Whether the board listens to the window. -/
  listening : Bool := false
  /-- All that could be loaded again since the beginning, mounted or not, in order of creation. -/
  loads : List Load := []
  /-- The fetches under way, in the order of their start. -/
  waiting : List Task := []
  /-- The requested frames. -/
  frames : List Frame := []
  /-- What has left the board so far. -/
  effects : List Effect := []

namespace Board

/-- A board with nothing on it. -/
def empty (settings : Settings) (server : Server) : Board :=
  { settings, server, toast := { timeout := settings.toastTimeout } }

/-- Record effects. -/
def emit (b : Board) (effects : List Effect) : Board := { b with effects := b.effects ++ effects }

/-- Write a log line. -/
def log (b : Board) (line : LogLine) : Board := b.emit [.logged line]

/-- Start a fetch. -/
def spawn (b : Board) (task : Task) : Board := { b with waiting := b.waiting ++ [task] }

/-- Log a warning about a failure, and show it in the toast. -/
def report (b : Board) (warning message : String) : Board :=
  { b.log (.warn warning) with toast := b.toast.display message }

/-- The mounted widget with a token. -/
def widget? (b : Board) (token : Nat) : Option Widget := b.widgets.find? fun w => w.token = token

/-- Apply an operation to the widget with a token, if it is mounted. -/
def modify (b : Board) (token : Nat) (f : Widget → Widget × List Drawing) : Board :=
  match b.widget? token with
  | none => b
  | some w =>
    let (after, drawings) := f w
    let widgets := b.widgets.map fun v => if v.token = token then after else v
    { b with widgets }.emit (drawings.map .drew)

end Board

end ResultsBoard
