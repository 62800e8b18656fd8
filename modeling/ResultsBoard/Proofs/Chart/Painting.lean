import ResultsBoard.Proofs.Chart.Path
import ResultsBoard.View.Plot

/-!
# How the traces are drawn

A chart (`draw_series`) is a list of calls on a canvas. A call that draws a line leads on from the
call directly before it, which has put the pen somewhere. So the lines of a trace go from one point
to the next where both are finite, none goes over a gap or from one trace to another, and each trace
has the colour that the legend gives to it.

* `legs`: the lines that some calls ask for, each with the pixel that it leads on from.
* `pieces`: the pairs of points that are joined. `leads_lineCalls`: the lines of a trace are these.
* `traceSection`, `traceCalls_eq`: the calls for a trace, point by point.
* `PaintingLaw`, `painting_law`: the whole chart.
-/

namespace ResultsBoard.Chart

open Series

/-! ## Lines -/

/-- A line that is asked for: the pixel where the call before it has put the pen, if it has, and the
pixel that it leads to. -/
abbrev Leg := Option (Float × Float) × (Float × Float)

/-- **The lines that some calls ask for**, with the pixel where the call before the first one has
put the pen. This is read off the calls as they stand. A canvas passes over a call to a pixel that
is not finite, so what it shows of a line to or from such a pixel is another matter. -/
def legs : Option (Float × Float) → List Call → List Leg
  | _, [] => []
  | _, .moveTo pixel :: calls => legs (some pixel) calls
  | before, .lineTo pixel :: calls => (before, pixel) :: legs (some pixel) calls
  | _, _ :: calls => legs none calls

/-- The lines that some calls ask for between others, to which they are not joined. -/
def Leads (calls : List Call) (lines : List Leg) : Prop :=
  ∀ rest, legs none (calls ++ rest) = lines ++ legs none rest

section

variable {calls calls' : List Call} {lines lines' : List Leg}

theorem leads_nil : Leads [] [] := fun _ => rfl

theorem Leads.append (h : Leads calls lines) (h' : Leads calls' lines') :
    Leads (calls ++ calls') (lines ++ lines') := fun rest => by
  rw [List.append_assoc, h, h', List.append_assoc]

theorem leads_flatMap {α : Type} {calls : α → List Call} {lines : α → List Leg}
    (h : ∀ x, Leads (calls x) (lines x)) (xs : List α) :
    Leads (xs.flatMap calls) (xs.flatMap lines) := by
  induction xs with
  | nil => exact leads_nil
  | cons x xs ih =>
    rw [List.flatMap_cons, List.flatMap_cons]
    exact (h x).append ih

theorem Leads.legs_eq (h : Leads calls lines) : legs none calls = lines := by
  have hall := h []
  rw [List.append_nil] at hall
  exact hall.trans (List.append_nil lines)

end

/-! ## One trace -/

/-- **The pieces of a line**: two points that follow each other and are both finite. -/
def pieces (points : List (Float × Float)) : List ((Float × Float) × (Float × Float)) :=
  (points.zip points.tail).filter fun piece => isFinitePoint piece.1 && isFinitePoint piece.2

variable {a : Area} {b : Bounds} {p q : Float × Float} {ps : List (Float × Float)}

theorem pieces_cons_of_not (hp : ¬ isFinitePoint p = true) : pieces (p :: ps) = pieces ps := by
  cases ps with
  | nil => rfl
  | cons q ps =>
    unfold pieces
    rw [List.tail_cons, List.zip_cons_cons, List.filter_cons_of_neg]
    · rfl
    · rw [Bool.and_eq_true]
      exact fun hboth => hp hboth.1

theorem pieces_cons_cons_of_not (hq : ¬ isFinitePoint q = true) :
    pieces (p :: q :: ps) = pieces (q :: ps) := by
  unfold pieces
  rw [List.tail_cons, List.zip_cons_cons, List.filter_cons_of_neg]
  · rfl
  · rw [Bool.and_eq_true]
    exact fun hboth => hq hboth.2

theorem pieces_cons_cons (hp : isFinitePoint p = true) (hq : isFinitePoint q = true) :
    pieces (p :: q :: ps) = (p, q) :: pieces (q :: ps) := by
  unfold pieces
  rw [List.tail_cons, List.zip_cons_cons, List.filter_cons_of_pos]
  · rfl
  · rw [hp, hq]
    rfl

/-- The line for a piece. -/
def Area.leg (a : Area) (b : Bounds) (piece : (Float × Float) × (Float × Float)) : Leg :=
  (some (a.project b piece.1), a.project b piece.2)

/-- A path that starts with the pen up is not joined to what is before it. -/
theorem legs_pathCalls_up (before : Option (Float × Float)) (ps : List (Float × Float))
    (rest : List Call) :
    legs before (pathCalls a b false ps ++ .stroke :: rest) =
      legs none (pathCalls a b false ps ++ .stroke :: rest) := by
  induction ps with
  | nil => rfl
  | cons p ps ih =>
    unfold pathCalls
    split
    · rfl
    · exact ih

/-- **The pieces that a path is made of.** The pen is down if the point before is finite, and then
it is there. -/
theorem legs_pathCalls (before : Option (Float × Float)) (ps : List (Float × Float))
    (hbefore : ∀ p ∈ before, isFinitePoint p = true) (rest : List Call) :
    legs (before.map (a.project b)) (pathCalls a b before.isSome ps ++ .stroke :: rest) =
      (pieces (before.toList ++ ps)).map (a.leg b) ++ legs none rest := by
  induction ps generalizing before with
  | nil => cases before <;> rfl
  | cons p ps ih =>
    unfold pathCalls
    by_cases hp : isFinitePoint p = true
    · have hrest := ih (some p) fun q hq => Option.mem_some_iff.mp hq ▸ hp
      rw [if_pos hp]
      cases before with
      | none => exact hrest
      | some q =>
        show (some (a.project b q), a.project b p) :: legs (some (a.project b p)) _ =
          (pieces (q :: p :: ps)).map (a.leg b) ++ _
        rw [pieces_cons_cons (hbefore q rfl) hp]
        exact congrArg (List.cons _) hrest
    · rw [if_neg hp, legs_pathCalls_up]
      refine (ih none fun q hq => absurd hq (Option.not_mem_none q)).trans ?_
      cases before with
      | none =>
        show _ = (pieces (p :: ps)).map _ ++ _
        rw [pieces_cons_of_not hp]
        rfl
      | some q =>
        show _ = (pieces (q :: p :: ps)).map _ ++ _
        rw [pieces_cons_cons_of_not hp, pieces_cons_of_not hp]
        rfl

/-- **The lines of a trace** join its pieces. -/
theorem leads_lineCalls (a : Area) (b : Bounds) (color : String) (t : Trace) :
    Leads (lineCalls a b color t) ((pieces t.points).map (a.leg b)) := fun rest => by
  unfold lineCalls
  rw [List.append_assoc]
  exact legs_pathCalls none t.points (fun _ hp => absurd hp (Option.not_mem_none _)) rest

theorem leads_markersCalls (a : Area) (b : Bounds) (color : String) (t : Trace) :
    Leads (markersCalls a b color t) [] := by
  have hmarker (p : Float × Float) : Leads (markerCalls a b p) [] := fun _ => rfl
  have hmarkers := leads_flatMap hmarker (t.points.filter isFinitePoint)
  rw [List.flatMap_eq_nil_iff.mpr fun _ _ => rfl] at hmarkers
  exact hmarkers

/-- The lines for a trace. -/
def traceLegs (a : Area) (b : Bounds) (t : Trace) : List Leg :=
  if t.mode.drawsLines then (pieces t.points).map (a.leg b) else []

theorem leads_traceCalls (a : Area) (b : Bounds) (index : Nat) (t : Trace) :
    Leads (traceCalls a b index t) (traceLegs a b t) := by
  have hline := leads_lineCalls a b (seriesColor index) t
  have hmarkers := leads_markersCalls a b (seriesColor index) t
  have hboth := hline.append hmarkers
  rw [List.append_nil] at hboth
  unfold traceCalls traceLegs
  cases t.mode with
  | lines =>
    show Leads (lineCalls a b (seriesColor index) t ++ []) _
    rw [List.append_nil]
    exact hline
  | markers => exact hmarkers
  | linesMarkers => exact hboth

/-! ## The whole chart -/

/-- A line of the grid. -/
def gridLeg (a : Area) (fraction : Float) : Leg :=
  let y := a.top + fraction * a.height
  (some (a.left, y), (a.left + a.width, y))

theorem leads_gridCalls (a : Area) (b : Bounds) :
    Leads (gridCalls a b) (tickFractions.map (gridLeg a)) := by
  have hline (fraction : Float) : Leads (gridLineCalls a b fraction) [gridLeg a fraction] :=
    fun _ => rfl
  have hlines := leads_flatMap hline tickFractions
  rw [← List.map_eq_flatMap] at hlines
  intro rest
  simp only [gridCalls, List.cons_append, List.nil_append, legs]
  exact hlines rest

theorem leads_xTickCalls (a : Area) (b : Bounds) (height : Float) :
    Leads (xTickCalls a b height) [] := by
  have htick (fraction : Float) : Leads [xTickCall a b height fraction] [] := fun _ => rfl
  have hticks := leads_flatMap htick tickFractions
  rw [← List.map_eq_flatMap, List.flatMap_eq_nil_iff.mpr fun _ _ => rfl] at hticks
  intro rest
  simp only [xTickCalls, List.cons_append, List.nil_append, legs]
  exact hticks rest

theorem leads_tracesCalls (a : Area) (b : Bounds) (traces : List Trace) :
    Leads (tracesCalls a b traces) (traces.flatMap (traceLegs a b)) := by
  have hlines := leads_flatMap (fun indexed : Trace × Nat =>
    leads_traceCalls a b indexed.2 indexed.1) traces.zipIdx
  rwa [← List.flatMap_map, List.zipIdx_map_fst] at hlines

/-- The plot area of a canvas of a size. -/
def Canvas.area (canvas : Canvas) : Area :=
  .ofCanvas (coordinate canvas.width) (coordinate canvas.height)

variable {canvas : Canvas} {traces : List Trace}

theorem draw_of_bounds (h : Bounds.ofTraces traces = some b) : draw canvas traces =
    backgroundCalls (coordinate canvas.width) (coordinate canvas.height) ++
      (gridCalls canvas.area b ++ tracesCalls canvas.area b traces ++
        xTickCalls canvas.area b (coordinate canvas.height)) := by
  unfold draw
  rw [h]
  rfl

/-- **The lines of a chart**: those of the grid, and those of the traces in order. -/
theorem legs_draw (h : Bounds.ofTraces traces = some b) : legs none (draw canvas traces) =
    tickFractions.map (gridLeg canvas.area) ++ traces.flatMap (traceLegs canvas.area b) := by
  have hparts := (leads_gridCalls canvas.area b).append (leads_tracesCalls canvas.area b traces)
  have hchart := hparts.append (leads_xTickCalls canvas.area b (coordinate canvas.height))
  rw [List.append_nil] at hchart
  rw [draw_of_bounds h]
  exact hchart.legs_eq

/-- **There is an extent if there is a finite point.** -/
theorem ofTraces_eq_none : Bounds.ofTraces traces = none ↔ finitePoints traces = [] := by
  unfold Bounds.ofTraces
  rw [Option.map_eq_none_iff]
  cases finitePoints traces with
  | nil => exact ⟨fun _ => rfl, fun _ => rfl⟩
  | cons p ps => exact ⟨nofun, nofun⟩

/-- There is no finite point if no trace has one. -/
theorem ofTraces_eq_none_iff : Bounds.ofTraces traces = none ↔
    ∀ t ∈ traces, ∀ p ∈ t.points, ¬ isFinitePoint p = true := by
  rw [ofTraces_eq_none]
  unfold finitePoints
  rw [List.filter_eq_nil_iff]
  constructor
  · exact fun h t ht p hp => h p (List.mem_flatMap_of_mem ht hp)
  · intro h p hp
    obtain ⟨t, ht, hpt⟩ := List.mem_flatMap.mp hp
    exact h t ht p hpt

/-! ## The law -/

/-- The calls for one trace, point by point. -/
def traceSection (a : Area) (b : Bounds) (index : Nat) (t : Trace) : List Call :=
  (if t.mode.drawsLines then
    [.strokeStyle (seriesColor index), .lineWidth 2.0, .beginPath] ++
      (List.range t.size).filterMap (pathCallAt a b false t.points) ++ [.stroke]
    else []) ++
  if t.mode.drawsMarkers then
    .fillStyle (seriesColor index) :: (List.range t.size).flatMap (markerCallsAt a b t.points)
  else []

theorem traceCalls_eq (index : Nat) : traceCalls a b index t = traceSection a b index t := by
  unfold traceCalls traceSection
  rw [lineCalls_eq, markersCalls_eq]

/-- **How traces are drawn** on a canvas, with the extent that they have. -/
structure PaintingLaw (canvas : Canvas) (traces : List Trace) (b : Bounds) : Prop where
  extent : Bounds.ofTraces traces = some b
  /-- There is a section of calls for each trace, in order: -/
  calls : draw canvas traces =
    backgroundCalls (coordinate canvas.width) (coordinate canvas.height) ++
      (gridCalls canvas.area b ++
        traces.zipIdx.flatMap (fun indexed => traceSection canvas.area b indexed.2 indexed.1) ++
        xTickCalls canvas.area b (coordinate canvas.height))
  /-- a call of the line and a marker for each finite point, at the same pixel, -/
  pixel : ∀ t ∈ traces, ∀ (i : Nat) pixel, pixelAt canvas.area b t.points i = some pixel ↔
    ∃ p, t.points[i]? = some p ∧ isFinitePoint p = true ∧ pixel = canvas.area.project b p
  /-- and the line leads to it if the point before is finite, too. -/
  joined : ∀ t ∈ traces, ∀ i, joined false t.points i = true ↔
    0 < i ∧ ∃ p, t.points[i - 1]? = some p ∧ isFinitePoint p = true
  /-- So besides those of the grid, the lines that are asked for are those from one point of a trace
  to the next where both are finite. -/
  lines : legs none (draw canvas traces) =
    tickFractions.map (gridLeg canvas.area) ++ traces.flatMap fun t =>
      if t.mode.drawsLines then (pieces t.points).map (canvas.area.leg b) else []
  /-- The legend gives this colour to the name of the trace. -/
  legend : ∃ attributes rows,
    (View.legend (traces.map Trace.name) : View.Node Action) = .element "div" attributes rows ∧
      rows.length = traces.length ∧
      ∀ (index : Nat) t, traces[index]? = some t → ∃ row spot label,
        rows[index]? = some (.element "div" row
          [.element "div" spot [], .element "span" label (View.words t.name)]) ∧
        ("style", "background-color: " ++ seriesColor index) ∈ spot

theorem pixelAt_eq_some_iff {i : Nat} {pixel : Float × Float} : pixelAt a b ps i = some pixel ↔
    ∃ p, ps[i]? = some p ∧ isFinitePoint p = true ∧ pixel = a.project b p := by
  unfold pixelAt
  rw [Option.map_eq_some_iff]
  constructor
  · rintro ⟨p, hp, rfl⟩
    obtain ⟨hpoint, hfinite⟩ := Option.filter_eq_some_iff.mp hp
    exact ⟨p, hpoint, hfinite, rfl⟩
  · rintro ⟨p, hpoint, hfinite, rfl⟩
    exact ⟨p, Option.filter_eq_some_iff.mpr ⟨hpoint, hfinite⟩, rfl⟩

theorem joined_iff {i : Nat} : joined false ps i = true ↔
    0 < i ∧ ∃ p, ps[i - 1]? = some p ∧ isFinitePoint p = true := by
  cases i with
  | zero => exact ⟨nofun, fun h => absurd h.1 (Nat.lt_irrefl 0)⟩
  | succ i =>
    unfold joined
    rw [Option.any_eq_true]
    exact ⟨fun h => ⟨Nat.succ_pos i, h⟩, fun h => h.2⟩

/-- **Gaps are drawn as gaps**, and lines, markers and legend agree. -/
theorem painting_law (canvas : Canvas) (traces : List Trace)
    (hfinite : ∃ t ∈ traces, ∃ p ∈ t.points, isFinitePoint p = true) :
    ∃ b, PaintingLaw canvas traces b := by
  obtain ⟨b, hb⟩ : ∃ b, Bounds.ofTraces traces = some b := by
    obtain ⟨t, ht, p, hp, hpoint⟩ := hfinite
    rw [← Option.isSome_iff_exists, ← Option.ne_none_iff_isSome]
    exact fun hnone => ofTraces_eq_none_iff.mp hnone t ht p hp hpoint
  refine ⟨b, hb, ?_, fun t _ i pixel => pixelAt_eq_some_iff, fun t _ i => joined_iff,
    legs_draw hb, _, _, rfl, ?_, fun index t ht => ?_⟩
  · rw [draw_of_bounds hb]
    unfold tracesCalls
    simp only [traceCalls_eq]
  · rw [List.length_map, List.length_zipIdx, List.length_map]
  · have hname : (traces.map Trace.name).zipIdx[index]? = some (t.name, index) := by
      rw [List.getElem?_zipIdx, List.getElem?_map, ht, Nat.zero_add]
      rfl
    rw [List.getElem?_map, hname]
    exact ⟨_, _, _, rfl, List.mem_cons_of_mem _ List.mem_cons_self⟩

/-- A line with a gap and an isolated point behind it, after a trace without a finite point. -/
theorem painting_law_gap :
    let hidden : Trace := ⟨"v1", [0.0 / 0.0, 1.0], [5.0, 1.0 / 0.0], .markers⟩
    let broken : Trace := ⟨"v2", [0.0, 1.0, 2.0, 3.0], [5.0, 6.0, 0.0 / 0.0, 7.0], .linesMarkers⟩
    (∃ t ∈ [hidden, broken], ∃ p ∈ t.points, isFinitePoint p = true) ∧
      pieces broken.points = [((0.0, 5.0), (1.0, 6.0))] ∧
      ∃ b, PaintingLaw .least [hidden, broken] b := by
  intro hidden broken
  have hfinite : ∃ t ∈ [hidden, broken], ∃ p ∈ t.points, isFinitePoint p = true :=
    ⟨broken, List.mem_cons_of_mem _ List.mem_cons_self, (0.0, 5.0), List.mem_cons_self, by decide⟩
  exact ⟨hfinite, by decide, painting_law .least [hidden, broken] hfinite⟩

end ResultsBoard.Chart
