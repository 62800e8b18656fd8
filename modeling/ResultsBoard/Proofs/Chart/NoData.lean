import ResultsBoard.Proofs.Chart.Extent
import ResultsBoard.Proofs.Chart.Painting

/-!
# Charts with and without data

A chart (`draw_series`) without a finite point says that it has no data, and any other chart shows
all its parts and never says so. Three loops pass over what is not finite, the one for the extent
(`ChartBounds::from_series`) and the two for the line and the markers of a trace; they come to the
same points.

* `gridLineAt`, `xTickAt`: the lines of the grid and the ticks of both axes, at every fifth.
* `labels_draw`: the texts of a chart with data are its ticks. `tickText_ne_emptyText`: no tick says
  that there are no data.
* `pixels_lineCalls`, `pixels_markersCalls`: the points that the loops of a trace come to.
* `ExtentLaw`, `extent_law`: what the extent depends on, and what is drawn with and without one.
-/

namespace ResultsBoard

namespace Decimal

/-! ## Texts of numbers -/

theorem blank_not_mem_digits (n : Nat) : ' ' ∉ digits n := by
  intro hmem
  have hdigit : ' '.isDigit = true := Nat.isDigit_of_mem_toDigits (by decide) (by decide) hmem
  exact absurd hdigit (by decide)

theorem blank_not_mem_signText (negative : Bool) : ' ' ∉ signText negative := by
  cases negative <;> decide

theorem Parts.blank_not_mem_fixed (places : Nat) (p : Parts) : ' ' ∉ p.fixed places := by
  unfold Parts.fixed padded
  simp [blank_not_mem_signText, blank_not_mem_digits, apply_ite (' ' ∈ ·)]

/-- **There is no blank in the text of a number**, finite or not. -/
theorem blank_not_mem_fixed (places : Nat) (x : Float) : ' ' ∉ (fixed places x).toList := by
  unfold fixed
  cases shape x with
  | notANumber =>
    show ' ' ∉ "NaN".toList
    decide
  | infinite negative =>
    show ' ' ∉ (String.ofList (signText negative) ++ "inf").toList
    cases negative <;> decide
  | finite parts =>
    rw [String.toList_ofList]
    exact parts.blank_not_mem_fixed places

end Decimal

namespace Chart

open Series

variable {a : Area} {b : Bounds} {t : Trace} {traces : List Trace} {canvas : Canvas}

/-- A tick is a number, and no number says that there are no data. -/
theorem tickText_ne_emptyText (x : Float) : tickText x ≠ emptyText := by
  intro htext
  have hblank : ' ' ∈ (tickText x).toList := by
    rw [htext]
    decide
  unfold tickText at hblank
  split at hblank
  · exact Decimal.blank_not_mem_fixed 0 x hblank
  · exact Decimal.blank_not_mem_fixed 2 x hblank

/-! ## What the calls write, and where they go -/

/-- What some calls write, and where. -/
def labels (calls : List Call) : List (String × Float × Float) := calls.filterMap Call.label?

/-- Where a call goes to: with the pen, or with the centre of an arc. -/
def Call.pixel? : Call → Option (Float × Float)
  | moveTo pixel | lineTo pixel | arc pixel .. => some pixel
  | _ => none

/-- The pixels that some calls go to. -/
def pixels (calls : List Call) : List (Float × Float) := calls.filterMap Call.pixel?

theorem labels_append (calls calls' : List Call) :
    labels (calls ++ calls') = labels calls ++ labels calls' := List.filterMap_append

theorem labels_pathCalls (penDown : Bool) (ps : List (Float × Float)) :
    labels (pathCalls a b penDown ps) = [] := by
  induction ps generalizing penDown with
  | nil => rfl
  | cons p ps ih =>
    unfold pathCalls
    split
    · cases penDown with
      | true => exact ih true
      | false => exact ih true
    · exact ih false

/-- The pen goes to all finite points, and to nothing else. -/
theorem pixels_pathCalls (penDown : Bool) (ps : List (Float × Float)) :
    pixels (pathCalls a b penDown ps) = (ps.filter isFinitePoint).map (a.project b) := by
  induction ps generalizing penDown with
  | nil => rfl
  | cons p ps ih =>
    unfold pathCalls
    by_cases hp : isFinitePoint p = true
    · rw [if_pos hp, List.filter_cons_of_pos hp, List.map_cons, ← ih true]
      cases penDown with
      | true => rfl
      | false => rfl
    · rw [if_neg hp, List.filter_cons_of_neg hp]
      exact ih false

theorem labels_lineCalls (color : String) (t : Trace) : labels (lineCalls a b color t) = [] := by
  unfold lineCalls
  rw [labels_append, labels_append, labels_pathCalls]
  rfl

theorem pixels_lineCalls (color : String) (t : Trace) :
    pixels (lineCalls a b color t) = (finitePoints [t]).map (a.project b) := by
  have hpath := pixels_pathCalls (a := a) (b := b) false t.points
  unfold pixels lineCalls at *
  rw [List.filterMap_append, List.filterMap_append, hpath, finitePoints_singleton]
  exact List.append_nil _

theorem labels_markersCalls (color : String) (t : Trace) :
    labels (markersCalls a b color t) = [] := by
  unfold labels markersCalls
  rw [List.filterMap_cons_none rfl, List.filterMap_flatMap]
  exact List.flatMap_eq_nil_iff.mpr fun _ _ => rfl

/-- The markers stand at all finite points, and nowhere else. -/
theorem pixels_markersCalls (color : String) (t : Trace) :
    pixels (markersCalls a b color t) = (finitePoints [t]).map (a.project b) := by
  unfold pixels markersCalls
  rw [List.filterMap_cons_none rfl, List.filterMap_flatMap, finitePoints_singleton,
    List.map_eq_flatMap]
  rfl

theorem labels_traceCalls (index : Nat) (t : Trace) : labels (traceCalls a b index t) = [] := by
  have hline := labels_lineCalls (a := a) (b := b) (seriesColor index) t
  have hmarkers := labels_markersCalls (a := a) (b := b) (seriesColor index) t
  unfold traceCalls
  rw [labels_append]
  cases t.mode with
  | lines => exact List.append_eq_nil_iff.mpr ⟨hline, rfl⟩
  | markers => exact List.append_eq_nil_iff.mpr ⟨rfl, hmarkers⟩
  | linesMarkers => exact List.append_eq_nil_iff.mpr ⟨hline, hmarkers⟩

/-- No trace is left out, whatever its points are. -/
theorem traceCalls_ne_nil (index : Nat) : traceCalls a b index t ≠ [] := by
  unfold traceCalls lineCalls markersCalls
  cases t.mode <;> simp [Mode.drawsLines, Mode.drawsMarkers]

theorem traceCalls_isInfix {index : Nat} (h : traces[index]? = some t) :
    traceCalls a b index t <:+: tracesCalls a b traces := by
  have hindexed : (t, index) ∈ traces.zipIdx := List.mk_mem_zipIdx_iff_getElem?.mpr h
  obtain ⟨before, after, hsplit⟩ := List.append_of_mem hindexed
  unfold tracesCalls
  rw [hsplit, List.flatMap_append, List.flatMap_cons]
  exact ⟨_, _, List.append_assoc ..⟩

/-! ## Grid and axes -/

/-- A number of fifths. -/
def fifths (i : Nat) : Float := Float.ofNat i / 5.0

theorem tickFractions_eq : tickFractions = (List.range 6).map fifths := by decide

/-- The pixel line at some fifths of the area, from above. -/
def Area.down (a : Area) (i : Nat) : Float := a.top + fifths i * a.height

/-- The pixel column at some fifths of the area, from the left. -/
def Area.across (a : Area) (i : Nat) : Float := a.left + fifths i * a.width

/-- The text of the vertical axis at some fifths, from above. -/
def Bounds.yTick (b : Bounds) (i : Nat) : String :=
  tickText (b.yMax - fifths i * (b.yMax - b.yMin))

/-- The text of the horizontal axis at some fifths, from the left. -/
def Bounds.xTick (b : Bounds) (i : Nat) : String :=
  tickText (b.xMin + fifths i * (b.xMax - b.xMin))

/-- A line of the grid from side to side, and its tick on the left. -/
def gridLineAt (a : Area) (b : Bounds) (i : Nat) : List Call :=
  [.beginPath, .moveTo (a.left, a.down i), .lineTo (a.left + a.width, a.down i), .stroke,
    .fillStyle tickColor, .fillText (b.yTick i) 5.0 (a.down i + 4.0)]

/-- A tick of the horizontal axis on a canvas of a height. -/
def xTickAt (a : Area) (b : Bounds) (height : Float) (i : Nat) : Call :=
  .fillText (b.xTick i) (a.across i - 15.0) (height - 10.0)

theorem gridCalls_eq (a : Area) (b : Bounds) : gridCalls a b =
    [.strokeStyle gridColor, .lineWidth 1.0, .font "12px sans-serif"] ++
      (List.range 6).flatMap (gridLineAt a b) := by
  unfold gridCalls
  rw [tickFractions_eq, List.flatMap_map]
  rfl

theorem xTickCalls_eq (a : Area) (b : Bounds) (height : Float) : xTickCalls a b height =
    [.fillStyle tickColor, .font "12px sans-serif"] ++
      (List.range 6).map (xTickAt a b height) := by
  unfold xTickCalls
  rw [tickFractions_eq, List.map_map]
  rfl

theorem labels_gridCalls (a : Area) (b : Bounds) : labels (gridCalls a b) =
    (List.range 6).map fun i => (b.yTick i, 5.0, a.down i + 4.0) := by
  rw [gridCalls_eq]
  rfl

theorem labels_xTickCalls (a : Area) (b : Bounds) (height : Float) :
    labels (xTickCalls a b height) =
      (List.range 6).map fun i => (b.xTick i, a.across i - 15.0, height - 10.0) := by
  rw [xTickCalls_eq]
  rfl

/-! ## The whole chart -/

/-- **The texts of a chart with data**: the ticks of both axes. -/
theorem labels_draw (h : Bounds.ofTraces traces = some b) : labels (draw canvas traces) =
    ((List.range 6).map fun i => (b.yTick i, 5.0, canvas.area.down i + 4.0)) ++
      (List.range 6).map fun i =>
        (b.xTick i, canvas.area.across i - 15.0, coordinate canvas.height - 10.0) := by
  have htraces : labels (tracesCalls canvas.area b traces) = [] := by
    unfold labels tracesCalls
    rw [List.filterMap_flatMap]
    exact List.flatMap_eq_nil_iff.mpr fun indexed _ => labels_traceCalls indexed.2 indexed.1
  rw [draw_of_bounds h, labels_append, labels_append, labels_append, htraces, labels_gridCalls,
    labels_xTickCalls, List.append_nil]
  rfl

/-- What an empty chart on a canvas consists of: the background and a text. -/
def emptyChart (canvas : Canvas) : List Call :=
  [.fillStyle background, .fillRect 0.0 0.0 (coordinate canvas.width) (coordinate canvas.height),
    .fillStyle emptyColor, .font "16px sans-serif",
    .fillText "No data to plot" (coordinate canvas.width / 2.0 - 55.0)
      (coordinate canvas.height / 2.0)]

theorem draw_of_no_bounds (h : Bounds.ofTraces traces = none) :
    draw canvas traces = emptyChart canvas := by
  unfold draw
  rw [h]
  rfl

/-- **A chart with data**, by its calls. -/
structure FullChart (canvas : Canvas) (traces : List Trace) (b : Bounds) (calls : List Call) :
    Prop where
  extent : Bounds.ofTraces traces = some b
  /-- There are the background, six lines of the grid with the ticks of the vertical axis, the
  traces, and six ticks of the horizontal axis. -/
  parts : calls =
    [.fillStyle background,
      .fillRect 0.0 0.0 (coordinate canvas.width) (coordinate canvas.height)] ++
    ([.strokeStyle gridColor, .lineWidth 1.0, .font "12px sans-serif"] ++
      (List.range 6).flatMap (gridLineAt canvas.area b) ++
      traces.zipIdx.flatMap (fun indexed => traceSection canvas.area b indexed.2 indexed.1) ++
      ([.fillStyle tickColor, .font "12px sans-serif"] ++
        (List.range 6).map (xTickAt canvas.area b (coordinate canvas.height))))
  /-- The lines are those of the grid, from side to side at every fifth of the area, and those of
  the traces. -/
  lines : legs none calls =
    ((List.range 6).map fun i => (some (canvas.area.left, canvas.area.down i),
      (canvas.area.left + canvas.area.width, canvas.area.down i))) ++
      traces.flatMap (traceLegs canvas.area b)
  /-- No trace is left out, -/
  each : ∀ (index : Nat) t, traces[index]? = some t →
    traceCalls canvas.area b index t ≠ [] ∧ traceCalls canvas.area b index t <:+: calls
  /-- and its line and its markers go to its finite points, those that the extent is taken of. -/
  loops : ∀ t ∈ traces, ∀ color,
    pixels (lineCalls canvas.area b color t) = (finitePoints [t]).map (canvas.area.project b) ∧
      pixels (markersCalls canvas.area b color t) =
        (finitePoints [t]).map (canvas.area.project b)
  /-- Nothing is written but the twelve ticks, on the left and below. -/
  written : labels calls =
    ((List.range 6).map fun i => (b.yTick i, 5.0, canvas.area.down i + 4.0)) ++
      (List.range 6).map fun i =>
        (b.xTick i, canvas.area.across i - 15.0, coordinate canvas.height - 10.0)

/-- **What is drawn** where there is a context that draws. -/
structure EmissionLaw (context : Context) (canvas : Canvas) (traces : List Trace) : Prop where
  /-- Without a finite point, the background and what an empty chart says, and nothing else. -/
  empty : drawOn context canvas traces = emptyChart canvas ↔ finitePoints traces = []
  /-- No other chart says so: -/
  noData : "No data to plot" ∈ (labels (drawOn context canvas traces)).map Prod.fst ↔
    finitePoints traces = []
  /-- it shows its data. -/
  full : finitePoints traces ≠ [] → ∃ b, FullChart canvas traces b (drawOn context canvas traces)

/-- **What the extent of some traces depends on.** -/
structure ExtentLaw (traces : List Trace) : Prop where
  /-- The finite points come trace by trace and index by index. -/
  sequence : finitePoints traces =
    traces.flatMap fun t => (List.range t.size).filterMap (finitePointAt t)
  /-- A loop over all points comes to the extent, -/
  scanned : Bounds.ofTraces traces = (Bounds.scan traces).map fun b => b.padVertically.widen
  /-- which only the finite points have an influence on: -/
  only : ∀ others, finitePoints others = finitePoints traces →
    Bounds.ofTraces others = Bounds.ofTraces traces
  /-- no edit changes it, -/
  edited : ∀ others, Interchangeable traces others →
    Bounds.ofTraces others = Bounds.ofTraces traces
  /-- and edits lead to all other traces with these finite points. -/
  edits : ∀ others, Interchangeable traces others ↔ finitePoints others = finitePoints traces
  /-- There is none just if there is no finite point, -/
  nowhere : Bounds.ofTraces traces = none ↔ finitePoints traces = []
  /-- and the chart is drawn accordingly. -/
  drawn : ∀ context canvas, context.isUsable = true → EmissionLaw context canvas traces

theorem legs_draw_fifths (h : Bounds.ofTraces traces = some b) : legs none (draw canvas traces) =
    ((List.range 6).map fun i => (some (canvas.area.left, canvas.area.down i),
      (canvas.area.left + canvas.area.width, canvas.area.down i))) ++
      traces.flatMap (traceLegs canvas.area b) := by
  rw [legs_draw h, tickFractions_eq, List.map_map]
  rfl

theorem fullChart_draw (h : Bounds.ofTraces traces = some b) :
    FullChart canvas traces b (draw canvas traces) := by
  refine ⟨h, ?_, legs_draw_fifths h, fun index t ht => ⟨traceCalls_ne_nil index, ?_⟩,
    fun t _ color => ⟨pixels_lineCalls color t, pixels_markersCalls color t⟩, labels_draw h⟩
  · rw [draw_of_bounds h, gridCalls_eq, xTickCalls_eq]
    unfold tracesCalls backgroundCalls
    simp only [traceCalls_eq]
  · have hparts := (traceCalls_isInfix (a := canvas.area) (b := b) ht).trans
      (List.infix_append (gridCalls canvas.area b) _
        (xTickCalls canvas.area b (coordinate canvas.height)))
    rw [draw_of_bounds h]
    exact hparts.trans (List.suffix_append _ _).isInfix

/-- A chart with data does not say that it has none. -/
theorem FullChart.noData_not_mem {calls : List Call} (h : FullChart canvas traces b calls) :
    "No data to plot" ∉ (labels calls).map Prod.fst := by
  rw [h.written, List.map_append, List.map_map, List.map_map]
  intro hmem
  rcases List.mem_append.mp hmem with hmem | hmem
  · obtain ⟨i, -, htext⟩ := List.mem_map.mp hmem
    exact tickText_ne_emptyText _ htext
  · obtain ⟨i, -, htext⟩ := List.mem_map.mp hmem
    exact tickText_ne_emptyText _ htext

theorem noData_mem_emptyChart (canvas : Canvas) :
    "No data to plot" ∈ (labels (emptyChart canvas)).map Prod.fst :=
  List.mem_singleton_self _

theorem emissionLaw_of_no_data {context : Context} (hcontext : context.isUsable = true)
    (h : finitePoints traces = []) : EmissionLaw context canvas traces := by
  have hdraw : drawOn context canvas traces = draw canvas traces := if_pos hcontext
  have hempty := hdraw.trans (draw_of_no_bounds (ofTraces_eq_none.mpr h))
  refine ⟨iff_of_true hempty h, iff_of_true ?_ h, fun hdata => absurd h hdata⟩
  rw [hempty]
  exact noData_mem_emptyChart canvas

theorem emissionLaw_of_data {context : Context} (hcontext : context.isUsable = true)
    (h : finitePoints traces ≠ []) : EmissionLaw context canvas traces := by
  obtain ⟨b, hb⟩ := Option.ne_none_iff_exists'.mp fun hnone => h (ofTraces_eq_none.mp hnone)
  have hdraw : drawOn context canvas traces = draw canvas traces := if_pos hcontext
  have hchart : FullChart canvas traces b (drawOn context canvas traces) :=
    hdraw ▸ fullChart_draw hb
  have hsilent := hchart.noData_not_mem
  refine ⟨iff_of_false (fun hempty => hsilent ?_) h, iff_of_false hsilent h, fun _ => ⟨b, hchart⟩⟩
  rw [hempty]
  exact noData_mem_emptyChart canvas

/-- **Only finite points influence the extent of a chart**, and a chart says that it has no data
just if there are none. -/
theorem extent_law (traces : List Trace) : ExtentLaw traces := by
  have honly (others : List Trace) (h : finitePoints others = finitePoints traces) :
      Bounds.ofTraces others = Bounds.ofTraces traces := by
    rw [Bounds.ofTraces_eq_scan, Bounds.ofTraces_eq_scan, Bounds.scan_eq, Bounds.scan_eq, h]
  have hedits (others : List Trace) :
      Interchangeable traces others ↔ finitePoints others = finitePoints traces :=
    interchangeable_iff.trans eq_comm
  refine ⟨finitePoints_eq traces, Bounds.ofTraces_eq_scan traces, honly,
    fun others h => honly others ((hedits others).mp h), hedits, ofTraces_eq_none,
    fun context canvas hcontext => ?_⟩
  by_cases hdata : finitePoints traces = []
  · exact emissionLaw_of_no_data hcontext hdata
  · exact emissionLaw_of_data hcontext hdata

/-- Two traces with gaps of all kinds, and the same points in two others without any. -/
theorem extent_law_gaps :
    let gappy : List Trace := [⟨"v1", [0.0 / 0.0, 1.0], [5.0, 1.0 / 0.0], .markers⟩,
      ⟨"v2", [0.0, 1.0, 2.0, 3.0, 4.0], [5.0, 6.0, 0.0 / 0.0, 7.0], .linesMarkers⟩]
    let plain : List Trace := [⟨"u1", [0.0, 1.0], [5.0, 6.0], .lines⟩,
      ⟨"u2", [3.0], [7.0], .lines⟩]
    Interchangeable gappy plain ∧ Bounds.ofTraces plain = Bounds.ofTraces gappy ∧
      EmissionLaw .complaining .least gappy ∧ finitePoints gappy ≠ [] := by
  intro gappy plain
  have hpoints : finitePoints plain = finitePoints gappy := by decide
  have hsame := ((extent_law gappy).edits plain).mpr hpoints
  exact ⟨hsame, (extent_law gappy).edited plain hsame,
    (extent_law gappy).drawn .complaining .least rfl, by decide⟩

end Chart

end ResultsBoard
