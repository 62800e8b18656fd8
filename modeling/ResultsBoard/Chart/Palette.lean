/-!
# Colours of a chart

Traces take the six series colours in turn; the legend gives the same colour to the same index.
-/

namespace ResultsBoard.Chart

/-- The colours of the traces: orange, green, blue, purple, red, cyan. -/
def seriesColors : List String :=
  ["#FF9800", "#4CAF50", "#2196F3", "#9C27B0", "#F44336", "#00BCD4"]

/-- The colour of the trace with the given index (`series_color`). -/
def seriesColor (index : Nat) : String :=
  seriesColors.get ⟨index % seriesColors.length, Nat.mod_lt _ (by decide)⟩

/-- Behind everything. -/
def background : String := "#1f2937"

/-- The lines of the grid. -/
def gridColor : String := "#374151"

/-- The text on the axes. -/
def tickColor : String := "#9ca3af"

/-- The text of an empty chart. -/
def emptyColor : String := "#6b7280"

end ResultsBoard.Chart
