import ResultsBoard.Chart.Draw

/-!
# The line and the markers of a trace, point by point

The pen that goes through the points of a trace is lifted by what is not finite. So the call for a
point depends on the point before it alone: it leads on from there if that one is finite too, and
otherwise it starts anew. The markers stand at the same pixels.

* `pixelAt`, `joined`: what the calls for a point depend on.
* `lineCalls_eq`, `markersCalls_eq`: the calls of a trace, by the indices of its points.
-/

namespace ResultsBoard.Chart

open Series

section

variable (a : Area) (b : Bounds)

/-- The pixel of the point with an index. A point that is not finite has none. -/
def pixelAt (points : List (Float × Float)) (i : Nat) : Option (Float × Float) :=
  (points[i]?.filter isFinitePoint).map (a.project b)

/-- **Whether the line leads from one point to the next**, the one with the given index: whether the
one before is finite. No line leads to the first point, unless the pen is down from the start. -/
def joined (penDown : Bool) (points : List (Float × Float)) : Nat → Bool
  | 0 => penDown
  | i + 1 => points[i]?.any isFinitePoint

/-- The call of the line for the point with an index. -/
def pathCallAt (penDown : Bool) (points : List (Float × Float)) (i : Nat) : Option Call :=
  (pixelAt a b points i).map fun pixel =>
    if joined penDown points i then .lineTo pixel else .moveTo pixel

/-- The calls of the marker for the point with an index. -/
def markerCallsAt (points : List (Float × Float)) (i : Nat) : List Call :=
  (pixelAt a b points i).toList.flatMap fun pixel =>
    [.beginPath, .arc pixel 3.0 0.0 (pi * 2.0), .fill]

end

variable {a : Area} {b : Bounds} {p : Float × Float} {ps : List (Float × Float)} {penDown : Bool}

theorem pixelAt_cons_zero :
    pixelAt a b (p :: ps) 0 = if isFinitePoint p then some (a.project b p) else none := by
  unfold pixelAt
  rw [List.getElem?_cons_zero, Option.filter_some]
  split <;> rfl

theorem pixelAt_cons_succ (i : Nat) : pixelAt a b (p :: ps) (i + 1) = pixelAt a b ps i := rfl

/-- Behind a point the pen is down if that point is finite. -/
theorem joined_cons_succ (i : Nat) :
    joined penDown (p :: ps) (i + 1) = joined (isFinitePoint p) ps i := by
  cases i with
  | zero => rfl
  | succ i => rfl

theorem pathCallAt_cons_succ (i : Nat) :
    pathCallAt a b penDown (p :: ps) (i + 1) = pathCallAt a b (isFinitePoint p) ps i := by
  unfold pathCallAt
  rw [pixelAt_cons_succ, joined_cons_succ]

theorem pathCalls_cons : pathCalls a b penDown (p :: ps) =
    (pathCallAt a b penDown (p :: ps) 0).toList ++ pathCalls a b (isFinitePoint p) ps := by
  unfold pathCallAt
  rw [pixelAt_cons_zero, pathCalls]
  cases isFinitePoint p with
  | true => rfl
  | false => rfl

/-- **One call for each finite point, in order.** -/
theorem pathCalls_eq : pathCalls a b penDown ps =
    (List.range ps.length).filterMap (pathCallAt a b penDown ps) := by
  induction ps generalizing penDown with
  | nil => rfl
  | cons p ps ih =>
    have hrest : pathCallAt a b penDown (p :: ps) ∘ Nat.succ =
        pathCallAt a b (isFinitePoint p) ps := funext pathCallAt_cons_succ
    rw [List.length_cons, List.range_succ_eq_map, List.filterMap_cons, List.filterMap_map, hrest,
      ← ih, pathCalls_cons]
    cases pathCallAt a b penDown (p :: ps) 0 with
    | none => rfl
    | some call => rfl

theorem markerCalls_eq : (ps.filter isFinitePoint).flatMap (markerCalls a b) =
    (List.range ps.length).flatMap (markerCallsAt a b ps) := by
  induction ps with
  | nil => rfl
  | cons p ps ih =>
    have hrest : (fun i => markerCallsAt a b (p :: ps) (Nat.succ i)) = markerCallsAt a b ps := rfl
    rw [List.length_cons, List.range_succ_eq_map, List.flatMap_cons, List.flatMap_map, hrest, ← ih]
    unfold markerCallsAt
    rw [pixelAt_cons_zero, List.filter_cons]
    cases isFinitePoint p with
    | true => rfl
    | false => rfl

variable {color : String} {t : Trace}

/-- **The line of a trace.** -/
theorem lineCalls_eq : lineCalls a b color t =
    [.strokeStyle color, .lineWidth 2.0, .beginPath] ++
      (List.range t.size).filterMap (pathCallAt a b false t.points) ++ [.stroke] := by
  unfold lineCalls
  rw [pathCalls_eq, Trace.length_points]

/-- **The markers of a trace**, at the pixels of its line. -/
theorem markersCalls_eq : markersCalls a b color t =
    .fillStyle color :: (List.range t.size).flatMap (markerCallsAt a b t.points) := by
  unfold markersCalls
  rw [markerCalls_eq, Trace.length_points]

end ResultsBoard.Chart
