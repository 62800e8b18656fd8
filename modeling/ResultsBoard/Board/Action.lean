import ResultsBoard.Metadata.Browser
import ResultsBoard.Plots

/-!
# Actions

What the buttons of the board ask for.
-/

namespace ResultsBoard

/-- What can be loaded again. -/
inductive Load where
  /-- Both metadata documents. -/
  | metadata
  /-- The dataset of the widget with a token. -/
  | plot (token : Nat)
  deriving DecidableEq, Repr

/-- What a button asks for. -/
inductive Action where
  /-- Load something again. -/
  | retry (load : Load)
  /-- Try again what a failure panel that stands alone is about. -/
  | retryAlone
  | addPlot
  | removePlot (id : PlotId)
  | selectTab (tab : Metadata.Tab)
  /-- Fold or unfold the table of a variable. -/
  | foldVariable (name : String)
  | dismissToast
  deriving DecidableEq, Repr

end ResultsBoard
