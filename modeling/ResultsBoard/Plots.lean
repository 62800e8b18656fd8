/-!
# The plots of the board

The plots on the board are a list in display order. Ids come from a counter and are not handed
out again, so the id of a plot also names the element that it draws into. The list is never
empty: it starts with one plot, and the last one cannot be removed.
-/

namespace ResultsBoard

/-- The identity of a plot. -/
structure PlotId where
  value : UInt32
  deriving DecidableEq, Repr

namespace PlotId

/-- The id in decimal. -/
def text (id : PlotId) : String := toString id.value.toNat

/-- The id of the element that the plot draws into (`PlotId::render_target`). -/
def renderTarget (id : PlotId) : String := "gekko-plot-" ++ id.text

/-- Ids are ordered as numbers. -/
instance : Ord PlotId := ⟨fun a b => compare a.value b.value⟩

end PlotId

/-- One plot: its id and the element that it draws into. -/
structure PlotEntry where
  id : PlotId
  renderTarget : String
  deriving DecidableEq, Repr

/-- The entry for an id. -/
def PlotEntry.ofId (id : PlotId) : PlotEntry := ⟨id, id.renderTarget⟩

/-- The plots in display order, and the id of the next one (`PlotCollection`). -/
structure Plots where
  entries : List PlotEntry
  nextId : UInt32
  deriving DecidableEq, Repr

namespace Plots

/-- One plot with the id 1 (`PlotCollection::initialize`). -/
def initial : Plots := ⟨[.ofId ⟨1⟩], 2⟩

instance : Inhabited Plots := ⟨initial⟩

/-- The ids in display order. -/
def ids (p : Plots) : List PlotId := p.entries.map PlotEntry.id

/-- The number of plots. -/
def size (p : Plots) : Nat := p.entries.length

/-- Whether there is no plot. -/
def isEmpty (p : Plots) : Bool := p.entries.isEmpty

/-- Add a plot at the end (`PlotCollection::add`). Gives its id. -/
def add (p : Plots) : Plots × PlotId :=
  (⟨p.entries ++ [.ofId ⟨p.nextId⟩], p.nextId + 1⟩, ⟨p.nextId⟩)

/-- Whether a plot may be removed (`PlotCollection::can_remove`). -/
def canRemove (p : Plots) : Bool := 1 < p.size

/-- Remove a plot (`PlotCollection::remove`). Says whether that changed anything: it does not if
there is no plot with the id or if it is the last one. -/
def remove (p : Plots) (id : PlotId) : Plots × Bool :=
  if p.canRemove then
    let entries := p.entries.filter fun entry => entry.id ≠ id
    (⟨entries, p.nextId⟩, entries.length != p.entries.length)
  else (p, false)

end Plots

end ResultsBoard
