import Mathlib.Data.List.Forall2
import ResultsBoard.Chart.Draw
import ResultsBoard.Proofs.Chart.Zeros

/-!
# Traces that count as equal

A widget keeps the traces that it has if the new ones count as equal, and zeros of different signs
do. Still the chart is the one of the new traces, call by call: wherever the sign of a zero could
show, in a pixel or on a tick, it is lost before.

* `AlikeTraces`: traces over alike numbers. `alikeTraces_of_beq`: traces that count as equal.
* `AlikeBounds`: the extents of alike traces are alike, and `Bounds.Upright` says that they are not
  upside down.
* `Agree`: what drawing asks of an extent is even the same. `AlikeBounds.agree`: so it is once the
  extent has been padded and widened.
* `draw_congr`: traces that count as equal are drawn by the same calls.
-/

namespace ResultsBoard.Chart

open Series

/-! ## Traces -/

/-- Points with alike coordinates. -/
def AlikePoints (p q : Float × Float) : Prop := Alike p.1 q.1 ∧ Alike p.2 q.2

/-- Traces that are drawn in the same way through alike points. -/
structure AlikeTraces (t u : Trace) : Prop where
  mode : t.mode = u.mode
  points : List.Forall₂ AlikePoints t.points u.points

/-- Lists of numbers that count as equal are alike one by one. -/
theorem alike_of_beq_list {xs ys : List Float} (h : (xs == ys) = true) :
    List.Forall₂ Alike xs ys := by
  induction xs generalizing ys with
  | nil =>
    cases ys with
    | nil => exact .nil
    | cons y ys => cases h
  | cons x xs ih =>
    cases ys with
    | nil => cases h
    | cons y ys =>
      rw [List.cons_beq_cons, Bool.and_eq_true] at h
      exact .cons (alike_of_beq h.1) (ih h.2)

theorem alikePoints_zip {xs xs' ys ys' : List Float} (hx : List.Forall₂ Alike xs xs')
    (hy : List.Forall₂ Alike ys ys') : List.Forall₂ AlikePoints (xs.zip ys) (xs'.zip ys') := by
  induction hx generalizing ys ys' with
  | nil => exact .nil
  | cons hfirst _ ih =>
    cases hy with
    | nil => exact .nil
    | cons hfirst' hrest => exact .cons ⟨hfirst, hfirst'⟩ (ih hrest)

theorem alikeTrace_of_beq {t u : Trace} (h : (t == u) = true) : AlikeTraces t u := by
  cases t with
  | mk name xs ys mode =>
    cases u with
    | mk name' xs' ys' mode' =>
      simp only [BEq.beq, instBEqTrace.beq, Bool.and_eq_true, decide_eq_true_eq] at h
      obtain ⟨-, hxs, hys, hmode⟩ := h
      exact ⟨hmode, alikePoints_zip (alike_of_beq_list hxs) (alike_of_beq_list hys)⟩

/-- **Traces that count as equal are alike.** -/
theorem alikeTraces_of_beq {ts us : List Trace} (h : (ts == us) = true) :
    List.Forall₂ AlikeTraces ts us := by
  induction ts generalizing us with
  | nil =>
    cases us with
    | nil => exact .nil
    | cons u us => cases h
  | cons t ts ih =>
    cases us with
    | nil => cases h
    | cons u us =>
      rw [List.cons_beq_cons, Bool.and_eq_true] at h
      exact .cons (alikeTrace_of_beq h.1) (ih h.2)

theorem AlikePoints.isFinitePoint {p q : Float × Float} (h : AlikePoints p q) :
    isFinitePoint p = isFinitePoint q := by
  unfold Chart.isFinitePoint
  rw [h.1.isFinite_congr, h.2.isFinite_congr]

/-- Alike points are finite or not together. -/
theorem alikePoints_filter {ps qs : List (Float × Float)} (h : List.Forall₂ AlikePoints ps qs) :
    List.Forall₂ AlikePoints (ps.filter isFinitePoint) (qs.filter isFinitePoint) :=
  List.rel_filter (fun _ _ hpq => iff_of_eq (congrArg (· = true) hpq.isFinitePoint)) h

theorem alikePoints_finitePoints {ts us : List Trace} (h : List.Forall₂ AlikeTraces ts us) :
    List.Forall₂ AlikePoints (finitePoints ts) (finitePoints us) :=
  alikePoints_filter (List.rel_flatMap h fun _ _ htu => htu.points)

/-! ## Extents -/

/-- Extents with alike sides. -/
structure AlikeBounds (b c : Bounds) : Prop where
  xMin : Alike b.xMin c.xMin
  xMax : Alike b.xMax c.xMax
  yMin : Alike b.yMin c.yMin
  yMax : Alike b.yMax c.yMax

theorem Alike.lesser {x x' y y' : Float} (hx : Alike x x') (hy : Alike y y') :
    Alike (lesser x y) (lesser x' y') := by
  unfold Chart.lesser
  by_cases h : x < y
  · rw [if_pos h, if_pos ((hx.lt_congr hy).mp h)]
    exact hx
  · rw [if_neg h, if_neg fun h' => h ((hx.lt_congr hy).mpr h')]
    exact hy

theorem Alike.greater {x x' y y' : Float} (hx : Alike x x') (hy : Alike y y') :
    Alike (greater x y) (greater x' y') := by
  unfold Chart.greater
  by_cases h : y < x
  · rw [if_pos h, if_pos ((hy.lt_congr hx).mp h)]
    exact hx
  · rw [if_neg h, if_neg fun h' => h ((hy.lt_congr hx).mpr h')]
    exact hy

theorem AlikeBounds.stretch {b c : Bounds} (h : AlikeBounds b c) {p q : Float × Float}
    (hpq : AlikePoints p q) : AlikeBounds (b.stretch p) (c.stretch q) :=
  ⟨h.xMin.lesser hpq.1, h.xMax.greater hpq.1, h.yMin.lesser hpq.2, h.yMax.greater hpq.2⟩

theorem AlikeBounds.foldl {b c : Bounds} (h : AlikeBounds b c) {ps qs : List (Float × Float)}
    (hpoints : List.Forall₂ AlikePoints ps qs) :
    AlikeBounds (ps.foldl Bounds.stretch b) (qs.foldl Bounds.stretch c) := by
  induction hpoints generalizing b c with
  | nil => exact h
  | cons hfirst _ ih => exact ih (h.stretch hfirst)

/-- Left is not right of right. -/
def Bounds.Upright (b : Bounds) : Prop := ¬ b.xMax < b.xMin

theorem Bounds.Upright.stretch {b : Bounds} (h : b.Upright) (p : Float × Float) :
    (b.stretch p).Upright := by
  unfold Bounds.Upright at h ⊢
  unfold Bounds.stretch lesser greater
  dsimp only
  by_cases hleft : b.xMin < p.1
  · rw [if_pos hleft]
    by_cases hright : p.1 < b.xMax
    · rw [if_pos hright]
      exact h
    · rw [if_neg hright]
      exact lt_asymm hleft
  · rw [if_neg hleft]
    by_cases hright : p.1 < b.xMax
    · rw [if_pos hright]
      exact lt_asymm hright
    · rw [if_neg hright]
      exact lt_irrefl p.1

theorem Bounds.Upright.foldl {b : Bounds} (h : b.Upright) (ps : List (Float × Float)) :
    (ps.foldl Bounds.stretch b).Upright := by
  induction ps generalizing b with
  | nil => exact h
  | cons p ps ih => exact ih (h.stretch p)

/-- **What drawing asks of an extent**, the same for both. Only the left side may be a zero of
another sign, and no tick shows it. -/
structure Agree (b c : Bounds) : Prop where
  top : b.yMax = c.yMax
  height : b.yMax - b.yMin = c.yMax - c.yMin
  width : b.xMax - b.xMin = c.xMax - c.xMin
  left : Alike b.xMin c.xMin
  ticks : ∀ fraction ∈ tickFractions,
    b.xMin + fraction * (b.xMax - b.xMin) = c.xMin + fraction * (c.xMax - c.xMin)

theorem unsigned_tickFractions : ∀ fraction ∈ tickFractions, Unsigned fraction := by
  unfold tickFractions
  simp only [List.map_cons, List.map_nil, List.forall_mem_cons]
  exact ⟨rfl, rfl, rfl, rfl, rfl, rfl, List.forall_mem_nil _⟩

theorem isZero_zero : IsZero 0.0 := ⟨.positive, rfl⟩

theorem not_isZero_one : ¬ IsZero 1.0 := by
  rintro ⟨sign, h⟩
  cases h

/-- A positive number is no zero and has no minus sign. -/
theorem not_isZero_of_pos {x : Float} (h : 0.0 < x) : ¬ IsZero x := by
  intro hx
  have halike : Alike x 0.0 := .inr ⟨hx, isZero_zero⟩
  exact lt_irrefl 0.0 (((Alike.refl 0.0).lt_congr halike).mp h)

theorem unsigned_of_pos {x : Float} (h : 0.0 < x) : Unsigned x :=
  unsigned_of_not_lt_zero (not_isZero_of_pos h) isZero_zero (lt_asymm h)

/-- The room that is added above and below. -/
def Bounds.room (b : Bounds) : Float :=
  if 0.0 < b.yMax - b.yMin then (b.yMax - b.yMin) * 0.1 else 1.0

theorem Bounds.padVertically_eq (b : Bounds) :
    b.padVertically = { b with yMin := b.yMin - b.room, yMax := b.yMax + b.room } := rfl

theorem Bounds.unsigned_room (b : Bounds) : Unsigned b.room := by
  unfold Bounds.room
  by_cases h : 0.0 < b.yMax - b.yMin
  · rw [if_pos h]
    exact unsigned_mul (unsigned_of_pos h) rfl
  · rw [if_neg h]
    rfl

/-- Room that rounds to zero is that of a rectangle with some height. -/
theorem Bounds.pos_of_isZero_room {b : Bounds} (h : IsZero b.room) : 0.0 < b.yMax - b.yMin := by
  by_contra hflat
  unfold Bounds.room at h
  rw [if_neg hflat] at h
  exact not_isZero_one h

variable {b c : Bounds}

theorem AlikeBounds.room (h : AlikeBounds b c) : b.room = c.room := by
  have hlt := (Alike.refl 0.0).lt_congr (h.yMax.sub h.yMin)
  unfold Bounds.room
  by_cases hpos : 0.0 < b.yMax - b.yMin
  · have hnonzero : ¬ (IsZero b.yMax ∧ IsZero b.yMin) := fun hzero =>
      not_isZero_of_pos hpos (isZero_sub hzero.1 hzero.2)
    rw [if_pos hpos, if_pos (hlt.mp hpos), h.yMax.sub_eq h.yMin hnonzero]
  · rw [if_neg hpos, if_neg fun hpos' => hpos (hlt.mpr hpos')]

/-- The upper side after padding. -/
theorem AlikeBounds.top (h : AlikeBounds b c) : b.padVertically.yMax = c.padVertically.yMax := by
  rw [Bounds.padVertically_eq, Bounds.padVertically_eq]
  show b.yMax + b.room = c.yMax + c.room
  rw [h.yMax.add_eq b.unsigned_room, h.room]

/-- The height after padding. -/
theorem AlikeBounds.height (h : AlikeBounds b c) :
    b.padVertically.yMax - b.padVertically.yMin = c.padVertically.yMax - c.padVertically.yMin := by
  rw [← h.top]
  show (b.yMax + b.room) - (b.yMin - b.room) = (b.yMax + b.room) - (c.yMin - c.room)
  rw [← h.room]
  by_cases hzero : IsZero b.yMin ∧ IsZero b.room
  · -- The lower side stays a zero. Then the upper side is as high as the rectangle was.
    have hpos := Bounds.pos_of_isZero_room hzero.2
    have hyMax : ¬ IsZero b.yMax := fun hyMax =>
      not_isZero_of_pos hpos (isZero_sub hyMax hzero.1)
    have htop : ¬ IsZero (b.yMax + b.room) := by
      rw [add_zero_eq hyMax hzero.2, ← sub_zero_eq hyMax hzero.1]
      exact not_isZero_of_pos hpos
    exact (Alike.refl _).sub_eq (h.yMin.sub (.refl _)) fun hboth => htop hboth.1
  · rw [h.yMin.sub_eq (.refl b.room) hzero]

/-- **Once they have been padded and widened, alike extents agree.** -/
theorem AlikeBounds.agree (h : AlikeBounds b c) (hb : b.Upright) :
    Agree b.padVertically.widen c.padVertically.widen := by
  have htop := h.top
  have hheight := h.height
  have hflat : (b.padVertically.xMin == b.padVertically.xMax) =
      (c.padVertically.xMin == c.padVertically.xMax) := h.xMin.beq_congr h.xMax
  unfold Bounds.widen
  rw [← hflat]
  by_cases hwidth : (b.padVertically.xMin == b.padVertically.xMax) = true
  · rw [if_pos hwidth, if_pos hwidth]
    have hleft : b.xMin - 1.0 = c.xMin - 1.0 :=
      h.xMin.sub_eq (.refl 1.0) fun hzero => not_isZero_one hzero.2
    have hright : b.xMax + 1.0 = c.xMax + 1.0 := h.xMax.add_eq rfl
    have hwider : b.xMax + 1.0 - (b.xMin - 1.0) = c.xMax + 1.0 - (c.xMin - 1.0) := by
      rw [hleft, hright]
    refine ⟨htop, hheight, hwider, ?_, fun fraction _ => ?_⟩
    · show Alike (b.xMin - 1.0) (c.xMin - 1.0)
      rw [hleft]
      exact .refl _
    · show b.xMin - 1.0 + fraction * (b.xMax + 1.0 - (b.xMin - 1.0)) =
        c.xMin - 1.0 + fraction * (c.xMax + 1.0 - (c.xMin - 1.0))
      rw [hwider, hleft]
  · rw [if_neg hwidth, if_neg hwidth]
    have hnonzero : ¬ (IsZero b.xMax ∧ IsZero b.xMin) := fun hzero =>
      hwidth (beq_of_zeros hzero.2 hzero.1)
    have hsame : b.xMax - b.xMin = c.xMax - c.xMin := h.xMax.sub_eq h.xMin hnonzero
    refine ⟨htop, hheight, hsame, h.xMin, fun fraction hfraction => ?_⟩
    show b.xMin + fraction * (b.xMax - b.xMin) = c.xMin + fraction * (c.xMax - c.xMin)
    rw [← hsame]
    by_cases hzero : IsZero b.xMin
    · -- The width is the right side then, which is not left of zero.
      have hxMax : ¬ IsZero b.xMax := fun hxMax => hnonzero ⟨hxMax, hzero⟩
      have hunsigned : Unsigned (b.xMax - b.xMin) := by
        rw [sub_zero_eq hxMax hzero]
        exact unsigned_packed (unsigned_of_not_lt_zero hxMax hzero hb)
      exact h.xMin.add_eq (unsigned_mul (unsigned_tickFractions fraction hfraction) hunsigned)
    · have hparts := h.xMin.resolve_right fun hzeros => hzero hzeros.1
      rw [add_eq, add_eq, hparts]

theorem agree_ofPoints {ps qs : List (Float × Float)} (h : List.Forall₂ AlikePoints ps qs) :
    Option.Rel Agree ((Bounds.ofPoints ps).map fun b => b.padVertically.widen)
      ((Bounds.ofPoints qs).map fun b => b.padVertically.widen) := by
  cases h with
  | nil => exact .none
  | @cons p q ps qs hfirst hrest =>
    have hpoint : AlikeBounds (.ofPoint p) (.ofPoint q) :=
      ⟨hfirst.1, hfirst.1, hfirst.2, hfirst.2⟩
    have hupright : (Bounds.ofPoint p).Upright := lt_irrefl p.1
    exact .some ((hpoint.foldl hrest).agree (hupright.foldl ps))

/-- The extents of alike traces agree, if there is something to be seen at all. -/
theorem agree_ofTraces {ts us : List Trace} (h : List.Forall₂ AlikeTraces ts us) :
    Option.Rel Agree (Bounds.ofTraces ts) (Bounds.ofTraces us) :=
  agree_ofPoints (alikePoints_finitePoints h)

/-! ## Drawing -/

/-- Lists that are taken apart into the same pieces one by one. -/
theorem flatMap_eq_of_forall₂ {α β γ : Type} {R : α → β → Prop} {f : α → List γ} {g : β → List γ}
    (hfg : ∀ x y, R x y → f x = g y) {xs : List α} {ys : List β} (h : List.Forall₂ R xs ys) :
    xs.flatMap f = ys.flatMap g := by
  induction h with
  | nil => rfl
  | cons hfirst _ ih => rw [List.flatMap_cons, List.flatMap_cons, hfg _ _ hfirst, ih]

theorem Agree.gridCalls (h : Agree b c) (a : Area) : gridCalls a b = gridCalls a c := by
  have hlines : gridLineCalls a b = gridLineCalls a c := by
    funext fraction
    unfold gridLineCalls
    rw [h.height, h.top]
  unfold Chart.gridCalls
  rw [hlines]

theorem Agree.xTickCalls (h : Agree b c) (a : Area) (height : Float) :
    xTickCalls a b height = xTickCalls a c height := by
  unfold Chart.xTickCalls
  refine congrArg _ (List.map_congr_left fun fraction hfraction => ?_)
  unfold xTickCall
  rw [h.ticks fraction hfraction]

variable {p q : Float × Float} {width height : Float}

theorem not_isZero_margins : ¬ IsZero marginLeft ∧ ¬ IsZero marginTop := by
  constructor <;>
  · rintro ⟨sign, h⟩
    cases h

/-- **Alike points have the same pixel**, since there is a margin left of the area and above it. -/
theorem Agree.project (h : Agree b c) (hpq : AlikePoints p q) :
    (Area.ofCanvas width height).project b p = (Area.ofCanvas width height).project c q := by
  unfold Area.project
  rw [h.width, h.height, h.top]
  refine Prod.ext ?_ ?_
  · exact Alike.add_left_eq (((hpq.1.sub h.left).div_right _).mul_right _) not_isZero_margins.1
  · exact Alike.add_left_eq ((((Alike.refl _).sub hpq.2).div_right _).mul_right _)
      not_isZero_margins.2

theorem Agree.pathCalls (h : Agree b c) (penDown : Bool) {ps qs : List (Float × Float)}
    (hpoints : List.Forall₂ AlikePoints ps qs) :
    pathCalls (.ofCanvas width height) b penDown ps =
      pathCalls (.ofCanvas width height) c penDown qs := by
  induction hpoints generalizing penDown with
  | nil => rfl
  | cons hfirst _ ih =>
    unfold Chart.pathCalls
    rw [hfirst.isFinitePoint, h.project hfirst, ih, ih]

theorem Agree.markersCalls (h : Agree b c) (color : String) {t u : Trace}
    (htu : AlikeTraces t u) :
    markersCalls (.ofCanvas width height) b color t =
      markersCalls (.ofCanvas width height) c color u := by
  unfold Chart.markersCalls
  refine congrArg _ (flatMap_eq_of_forall₂ (fun p q hpq => ?_) (alikePoints_filter htu.points))
  unfold markerCalls
  rw [h.project hpq]

theorem Agree.traceCalls (h : Agree b c) (index : Nat) {t u : Trace} (htu : AlikeTraces t u) :
    traceCalls (.ofCanvas width height) b index t =
      traceCalls (.ofCanvas width height) c index u := by
  unfold Chart.traceCalls lineCalls
  rw [htu.mode, h.markersCalls _ htu, h.pathCalls false htu.points]

theorem forall₂_zipIdx {α β : Type} {R : α → β → Prop} {xs : List α} {ys : List β}
    (h : List.Forall₂ R xs ys) (start : Nat) :
    List.Forall₂ (fun x y => R x.1 y.1 ∧ x.2 = y.2) (xs.zipIdx start) (ys.zipIdx start) := by
  induction h generalizing start with
  | nil => exact .nil
  | cons hfirst _ ih => exact .cons ⟨hfirst, rfl⟩ (ih (start + 1))

theorem Agree.tracesCalls (h : Agree b c) {ts us : List Trace}
    (htraces : List.Forall₂ AlikeTraces ts us) :
    tracesCalls (.ofCanvas width height) b ts = tracesCalls (.ofCanvas width height) c us := by
  unfold Chart.tracesCalls
  refine flatMap_eq_of_forall₂ (fun x y hxy => ?_) (forall₂_zipIdx htraces 0)
  rw [h.traceCalls x.2 hxy.1, hxy.2]

/-- **Traces that count as equal are drawn by the same calls**, on a canvas of any size. -/
theorem draw_congr {ts us : List Trace} (h : (ts == us) = true) (canvas : Canvas) :
    draw canvas ts = draw canvas us := by
  have htraces := alikeTraces_of_beq h
  have hextents := agree_ofTraces htraces
  unfold draw
  dsimp only
  refine congrArg _ ?_
  generalize Bounds.ofTraces ts = b? at hextents ⊢
  generalize Bounds.ofTraces us = c? at hextents ⊢
  cases hextents with
  | none => rfl
  | some hagree =>
    dsimp only
    rw [hagree.gridCalls, hagree.tracesCalls htraces, hagree.xTickCalls]

/-- A line of zeros is the same line whatever their signs. -/
example : draw ⟨640, 480⟩ [⟨"a", [0.0, 1.0], [0.0, 0.0], .linesMarkers⟩] =
    draw ⟨640, 480⟩ [⟨"a", [-0.0, 1.0], [0.0, -0.0], .linesMarkers⟩] :=
  draw_congr (by decide) _

end ResultsBoard.Chart
