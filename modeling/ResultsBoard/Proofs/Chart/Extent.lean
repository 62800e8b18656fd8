import Mathlib.Logic.Relation
import ResultsBoard.Chart.Bounds

/-!
# What the extent of a chart depends on

The extent (`ChartBounds::from_series`) is found in a loop over all points, trace by trace, that
passes over what is not finite. So nothing but the finite points in their order has an influence on
it: not the gaps between them, no coordinate without a partner, and not the way in which the points
are shared out among the traces.

* `finitePoints_eq`: the finite points, by the indices of their coordinates.
* `Bounds.scan`: the loop. `ofTraces_eq_scan`: what it comes to.
* `Edit`: the changes of some traces that leave the finite points in their order.
  `interchangeable_iff`: such changes lead from any traces to any others with the same finite
  points, and to no others.
-/

namespace ResultsBoard.Chart

open Series

/-! ## The finite points -/

/-- **The finite point of a trace with an index**: the two coordinates there, if there are two and
both are finite. -/
def finitePointAt (t : Trace) (i : Nat) : Option (Float × Float) :=
  t.xs[i]?.bind fun x => t.ys[i]?.bind fun y =>
    if x.isFinite && y.isFinite then some (x, y) else none

theorem filter_zip_eq (xs ys : List Float) (name : String) (mode : Mode) :
    (xs.zip ys).filter isFinitePoint =
      (List.range (min xs.length ys.length)).filterMap (finitePointAt ⟨name, xs, ys, mode⟩) := by
  induction xs generalizing ys with
  | nil => simp
  | cons x xs ih =>
    cases ys with
    | nil => simp
    | cons y ys =>
      have hrest : finitePointAt ⟨name, x :: xs, y :: ys, mode⟩ ∘ Nat.succ =
          finitePointAt ⟨name, xs, ys, mode⟩ := rfl
      rw [List.zip_cons_cons, List.length_cons, List.length_cons, Nat.add_min_add_right,
        List.range_succ_eq_map, List.filterMap_cons, List.filterMap_map, hrest, ← ih]
      by_cases hfinite : isFinitePoint (x, y) = true
      · rw [List.filter_cons_of_pos hfinite]
        have hfirst : finitePointAt ⟨name, x :: xs, y :: ys, mode⟩ 0 = some (x, y) := if_pos hfinite
        rw [hfirst]
      · rw [List.filter_cons_of_neg hfinite]
        have hfirst : finitePointAt ⟨name, x :: xs, y :: ys, mode⟩ 0 = none := if_neg hfinite
        rw [hfirst]

/-- **The finite points**, trace by trace and index by index. -/
theorem finitePoints_eq (traces : List Trace) : finitePoints traces =
    traces.flatMap fun t => (List.range t.size).filterMap (finitePointAt t) := by
  unfold finitePoints
  rw [List.filter_flatMap]
  exact congrArg traces.flatMap (funext fun t => filter_zip_eq t.xs t.ys t.name t.mode)

theorem finitePoints_append (ts us : List Trace) :
    finitePoints (ts ++ us) = finitePoints ts ++ finitePoints us := by
  simp [finitePoints]

theorem finitePoints_singleton (t : Trace) : finitePoints [t] = t.points.filter isFinitePoint := by
  simp [finitePoints]

/-! ## The loop -/

namespace Bounds

/-- One turn: a finite point is taken in, and anything else is passed over. -/
def takeIn (seen : Option Bounds) (p : Float × Float) : Option Bounds :=
  if isFinitePoint p then
    match seen with
    | none => some (ofPoint p)
    | some b => some (b.stretch p)
  else seen

/-- **The loop over all points**, trace by trace. -/
def scan (traces : List Trace) : Option Bounds :=
  traces.foldl (fun seen t => t.points.foldl takeIn seen) none

theorem foldl_takeIn_some (ps : List (Float × Float)) (b : Bounds) :
    ps.foldl takeIn (some b) = some ((ps.filter isFinitePoint).foldl stretch b) := by
  induction ps generalizing b with
  | nil => rfl
  | cons p ps ih =>
    rw [List.foldl_cons, List.filter_cons]
    unfold takeIn
    split
    · exact ih (b.stretch p)
    · exact ih b

/-- The first finite point opens the rectangle, and the others stretch it. -/
theorem foldl_takeIn_none (ps : List (Float × Float)) :
    ps.foldl takeIn none = ofPoints (ps.filter isFinitePoint) := by
  induction ps with
  | nil => rfl
  | cons p ps ih =>
    rw [List.foldl_cons, List.filter_cons]
    unfold takeIn
    split
    · exact foldl_takeIn_some ps (ofPoint p)
    · exact ih

/-- **The loop comes to the rectangle around the finite points.** -/
theorem scan_eq (traces : List Trace) : scan traces = ofPoints (finitePoints traces) := by
  unfold scan finitePoints
  rw [← List.foldl_flatMap, foldl_takeIn_none]

theorem ofTraces_eq_scan (traces : List Trace) :
    ofTraces traces = (scan traces).map fun b => b.padVertically.widen := by
  rw [scan_eq]
  rfl

end Bounds

/-! ## Edits -/

/-- **A change that leaves the finite points in their order.** -/
inductive Edit : List Trace → List Trace → Prop
  /-- A pair that is no finite point is left out. -/
  | gap (t : Trace) (i : Nat) (p : Float × Float) (hp : t.points[i]? = some p)
      (hgap : isFinitePoint p = false) :
      Edit [t] [{ t with xs := t.xs.eraseIdx i, ys := t.ys.eraseIdx i }]
  /-- Coordinates without a partner are left out, some of them or all. -/
  | excess (t : Trace) (n : Nat) (hn : t.size ≤ n) :
      Edit [t] [{ t with xs := t.xs.take n, ys := t.ys.take n }]
  /-- A trace without a finite point is left out. -/
  | barren (t : Trace) (hgaps : ∀ p ∈ t.points, isFinitePoint p = false) : Edit [t] []
  /-- A trace is split in two, which follow each other. -/
  | split (t : Trace) (i : Nat) :
      Edit [t] [{ t with xs := t.xs.take i, ys := t.ys.take i },
        { t with xs := t.xs.drop i, ys := t.ys.drop i }]
  /-- A trace gets another name and is drawn in another way. -/
  | restyle (t : Trace) (name : String) (mode : Mode) : Edit [t] [{ t with name, mode }]
  /-- Any of this happens among other traces. -/
  | among {ts us : List Trace} (before after : List Trace) (h : Edit ts us) :
      Edit (before ++ ts ++ after) (before ++ us ++ after)

/-- **Traces that edits lead to**, any number of them, done or undone. -/
def Interchangeable : List Trace → List Trace → Prop := Relation.EqvGen Edit

variable {ts us vs ws : List Trace} {ps : List (Float × Float)}

theorem points_take (t : Trace) (i : Nat) :
    ({ t with xs := t.xs.take i, ys := t.ys.take i } : Trace).points = t.points.take i := by
  unfold Trace.points
  rw [List.zip_eq_zipWith, List.zip_eq_zipWith, List.take_zipWith]

theorem points_drop (t : Trace) (i : Nat) :
    ({ t with xs := t.xs.drop i, ys := t.ys.drop i } : Trace).points = t.points.drop i := by
  unfold Trace.points
  rw [List.zip_eq_zipWith, List.zip_eq_zipWith, List.drop_zipWith]

theorem zip_eraseIdx (xs ys : List Float) (i : Nat) :
    (xs.eraseIdx i).zip (ys.eraseIdx i) = (xs.zip ys).eraseIdx i := by
  induction xs generalizing ys i with
  | nil => rfl
  | cons x xs ih =>
    cases ys with
    | nil => simp
    | cons y ys =>
      cases i with
      | zero => rfl
      | succ i => simp [ih]

/-- What a filter drops anyway may be left out before. -/
theorem filter_eraseIdx {p : Float × Float} {i : Nat} (hp : ps[i]? = some p)
    (hgap : isFinitePoint p = false) :
    (ps.eraseIdx i).filter isFinitePoint = ps.filter isFinitePoint := by
  obtain ⟨hi, rfl⟩ := List.getElem?_eq_some_iff.mp hp
  have hsplit : ps = ps.take i ++ ps[i] :: ps.drop (i + 1) := by
    rw [← List.drop_eq_getElem_cons hi, List.take_append_drop]
  have hdropped : ¬ isFinitePoint ps[i] = true := Bool.eq_false_iff.mp hgap
  calc (ps.eraseIdx i).filter isFinitePoint
      = (ps.take i ++ ps.drop (i + 1)).filter isFinitePoint := by
        rw [List.eraseIdx_eq_take_drop_succ]
    _ = (ps.take i ++ ps[i] :: ps.drop (i + 1)).filter isFinitePoint := by
        rw [List.filter_append, List.filter_append, List.filter_cons_of_neg hdropped]
    _ = ps.filter isFinitePoint := by rw [← hsplit]

/-- **One edit**, kind by kind. -/
theorem Edit.finitePoints_eq (h : Edit ts us) : finitePoints ts = finitePoints us := by
  induction h with
  | gap t i p hp hgap =>
    rw [finitePoints_singleton, finitePoints_singleton]
    show _ = ((t.xs.eraseIdx i).zip (t.ys.eraseIdx i)).filter isFinitePoint
    rw [zip_eraseIdx]
    exact (filter_eraseIdx hp hgap).symm
  | excess t n hn =>
    have hlength : t.points.length ≤ n := t.length_points ▸ hn
    rw [finitePoints_singleton, finitePoints_singleton, points_take,
      List.take_of_length_le hlength]
  | barren t hgaps =>
    rw [finitePoints_singleton]
    exact List.filter_eq_nil_iff.mpr fun p hp => by simp [hgaps p hp]
  | split t i =>
    rw [finitePoints_singleton, ← List.singleton_append, finitePoints_append,
      finitePoints_singleton, finitePoints_singleton, points_take, points_drop,
      ← List.filter_append, List.take_append_drop]
  | restyle t name mode => rfl
  | among before after _ ih =>
    rw [finitePoints_append, finitePoints_append, finitePoints_append, finitePoints_append, ih]

theorem Interchangeable.finitePoints_eq (h : Interchangeable ts us) :
    finitePoints ts = finitePoints us := by
  induction h with
  | rel _ _ hedit => exact hedit.finitePoints_eq
  | refl => rfl
  | symm _ _ _ ih => exact ih.symm
  | trans _ _ _ _ _ ih ih' => exact ih.trans ih'

/-! ## All traces with the same finite points -/

namespace Interchangeable

theorem refl (ts : List Trace) : Interchangeable ts ts := Relation.EqvGen.refl ts

theorem symm (h : Interchangeable ts us) : Interchangeable us ts := Relation.EqvGen.symm _ _ h

theorem trans (h : Interchangeable ts us) (h' : Interchangeable us vs) : Interchangeable ts vs :=
  Relation.EqvGen.trans _ _ _ h h'

theorem of_edit (h : Edit ts us) : Interchangeable ts us := .rel _ _ h

theorem among (before after : List Trace) (h : Interchangeable ts us) :
    Interchangeable (before ++ ts ++ after) (before ++ us ++ after) := by
  induction h with
  | rel _ _ hedit => exact .of_edit (hedit.among before after)
  | refl => exact .refl _
  | symm _ _ _ ih => exact ih.symm
  | trans _ _ _ _ _ ih ih' => exact ih.trans ih'

theorem append (h : Interchangeable ts us) (h' : Interchangeable vs ws) :
    Interchangeable (ts ++ vs) (us ++ ws) := by
  have hfirst := among [] vs h
  have hsecond := among us [] h'
  rw [List.append_nil, List.append_nil] at hsecond
  exact hfirst.trans hsecond

end Interchangeable

/-- A trace through some points, without a name. -/
def through (ps : List (Float × Float)) : Trace :=
  ⟨"", ps.map Prod.fst, ps.map Prod.snd, .lines⟩

theorem points_through (ps : List (Float × Float)) : (through ps).points = ps :=
  (List.zip_of_prod rfl rfl).symm

theorem through_points {t : Trace} (h : t.xs.length = t.ys.length) :
    through t.points = { t with name := "", mode := .lines } := by
  unfold through Trace.points
  rw [List.map_fst_zip (Nat.le_of_eq h), List.map_snd_zip (Nat.le_of_eq h.symm)]

/-- Each trace can be edited into one that is just its points. -/
theorem interchangeable_through_points (t : Trace) : Interchangeable [t] [through t.points] := by
  have hlength : (t.xs.take t.size).length = (t.ys.take t.size).length := by simp [Trace.size]
  have hcut := through_points
    (t := { t with xs := t.xs.take t.size, ys := t.ys.take t.size }) hlength
  rw [points_take, List.take_of_length_le (Nat.le_of_eq t.length_points)] at hcut
  rw [hcut]
  exact (Interchangeable.of_edit (.excess t t.size (Nat.le_refl _))).trans
    (.of_edit (.restyle _ "" .lines))

theorem interchangeable_through_append (ps qs : List (Float × Float)) :
    Interchangeable [through (ps ++ qs)] [through ps, through qs] := by
  have hsplit := Edit.split
    ⟨"", ps.map Prod.fst ++ qs.map Prod.fst, ps.map Prod.snd ++ qs.map Prod.snd, .lines⟩ ps.length
  unfold through
  rw [List.map_append, List.map_append]
  exact .of_edit (by simpa using hsplit)

/-- The gaps of a trace can be edited out. -/
theorem interchangeable_through_filter (ps : List (Float × Float)) :
    Interchangeable [through ps] [through (ps.filter isFinitePoint)] := by
  induction ps with
  | nil => exact .refl _
  | cons p ps ih =>
    have happart : Interchangeable [through (p :: ps)] [through [p], through ps] :=
      interchangeable_through_append [p] ps
    refine happart.trans ?_
    -- The first point is a trace of its own now, which is joined again or left out.
    by_cases hp : isFinitePoint p = true
    · rw [List.filter_cons_of_pos hp]
      exact ((Interchangeable.refl [through [p]]).append ih).trans
        (interchangeable_through_append [p] _).symm
    · rw [List.filter_cons_of_neg hp]
      have hbarren : Edit [through [p]] [] := by
        refine .barren _ fun q hq => ?_
        rw [points_through, List.mem_singleton] at hq
        rw [hq]
        exact Bool.eq_false_iff.mpr hp
      exact (Interchangeable.of_edit hbarren).append ih

/-- **Any traces can be edited into a single one through their finite points.** -/
theorem interchangeable_through_finitePoints (ts : List Trace) :
    Interchangeable ts [through (finitePoints ts)] := by
  induction ts with
  | nil => exact (Interchangeable.of_edit (.barren (through []) fun _ hp => nomatch hp)).symm
  | cons t ts ih =>
    have hfirst := (interchangeable_through_points t).trans
      (interchangeable_through_filter t.points)
    rw [← List.singleton_append, finitePoints_append, finitePoints_singleton]
    exact (hfirst.append ih).trans (interchangeable_through_append _ _).symm

/-- **Edits lead just to the traces with the same finite points.** -/
theorem interchangeable_iff : Interchangeable ts us ↔ finitePoints ts = finitePoints us := by
  constructor
  · exact Interchangeable.finitePoints_eq
  · -- Through the single trace that both can be edited into.
    intro h
    have hthere := interchangeable_through_finitePoints ts
    rw [h] at hthere
    exact hthere.trans (interchangeable_through_finitePoints us).symm

end ResultsBoard.Chart
