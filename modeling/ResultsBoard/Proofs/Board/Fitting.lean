import Mathlib.Algebra.Order.Ring.Int
import ResultsBoard.Proofs.Board.Sound

/-!
# Canvases and their containers

The resize hub notifies (`ResizeHub::broadcast`) whenever the containers may have got another size.
A canvas that does not fit is fitted and its chart is drawn again; a canvas that fits is left alone.

* `Canvas.eq_ofContainer_iff`: the size that a container asks for.
* `fits_broadcast`: after a notification every canvas fits.
* `untouched_broadcast`: a widget whose canvas fits is untouched by it, and
  `broadcast_of_fits`: if all of them fit, so is the whole board.
-/

namespace ResultsBoard

open Chart (Canvas)

/-! ## Sizes -/

theorem Chart.Canvas.toNat_pixels {n : Int} (h : n < 2 ^ 32) :
    ((Canvas.pixels n).toNat : Int) = max n 0 := by
  unfold Canvas.pixels
  rw [UInt32.toNat_ofNat', Nat.mod_eq_of_lt (by omega)]
  exact Int.toNat_eq_max n

/-- **The size that a container asks for** is its own, with nothing for what is negative, but at
least 200 by 150. -/
theorem Chart.Canvas.eq_ofContainer_iff {canvas : Canvas} {container : Int × Int}
    (hwidth : container.1 < 2 ^ 32) (hheight : container.2 < 2 ^ 32) :
    canvas = .ofContainer container ↔
      (canvas.width.toNat : Int) = max 200 (max container.1 0) ∧
        (canvas.height.toNat : Int) = max 150 (max container.2 0) := by
  have hsize : ((Canvas.ofContainer container).width.toNat : Int) =
        max 200 (max container.1 0) ∧
      ((Canvas.ofContainer container).height.toNat : Int) = max 150 (max container.2 0) := by
    have hw := toNat_pixels hwidth
    have hh := toNat_pixels hheight
    unfold Canvas.ofContainer
    dsimp only
    rw [UInt32.toNat_max, UInt32.toNat_max, show Canvas.least.width.toNat = 200 from rfl,
      show Canvas.least.height.toNat = 150 from rfl]
    omega
  constructor
  · rintro rfl
    exact hsize
  · rintro ⟨hw, hh⟩
    rw [← hsize.1, Int.ofNat_inj, UInt32.toNat_inj] at hw
    rw [← hsize.2, Int.ofNat_inj, UInt32.toNat_inj] at hh
    cases canvas
    exact congrArg₂ Canvas.mk hw hh

/-! ## Widgets -/

namespace Widget

/-- The canvas, if it is on the page, has the size that the container asks for. -/
def Fits (w : Widget) (container : Int × Int) : Prop :=
  ∀ canvas, w.canvas = some canvas → canvas = .ofContainer container

variable {w : Widget} {container : Int × Int}

/-- A canvas that fits is left alone. -/
theorem refit_of_fits (h : w.Fits container) : w.refit container = (w, []) := by
  unfold refit
  split
  · rfl
  · rename_i canvas hcanvas
    obtain rfl := h canvas hcanvas
    have hsame : decide (Canvas.ofContainer container ≠ Canvas.ofContainer container) = false :=
      decide_eq_false fun hne => hne rfl
    unfold Canvas.fit
    dsimp only
    rw [hsame, if_neg Bool.false_ne_true]

theorem fits_refit (w : Widget) (container : Int × Int) :
    (w.refit container).1.Fits container := by
  intro after hafter
  unfold refit Canvas.fit at hafter
  split at hafter
  · rename_i hnone
    rw [hnone] at hafter
    cases hafter
  · rename_i canvas hcanvas
    dsimp only at hafter
    split at hafter
    · exact (Option.some.inj hafter).symm
    · rename_i hsame
      rw [hcanvas] at hafter
      obtain rfl := Option.some.inj hafter
      by_contra hne
      exact hsame (decide_eq_true (Ne.symm hne))

end Widget

/-! ## Notifications -/

namespace Board

variable {b b' b'' : Board} {w : Widget}

/-- What has been fitted fits; nothing else needs to, so far. -/
theorem fits_refits {tokens : List Nat}
    (h : ∀ w ∈ b.widgets, w.token ∉ tokens → w.Fits b.container) :
    ∀ w ∈ (refitEach tokens b).widgets, w.Fits b.container := by
  induction tokens generalizing b with
  | nil => exact fun w hw => h w hw List.not_mem_nil
  | cons token rest ih =>
    rw [← container_refit token b]
    refine ih fun w hw hrest => ?_
    rw [container_refit]
    rcases mem_modify hw with ⟨v, -, rfl⟩ | ⟨hmem, hne⟩
    · exact v.fits_refit b.container
    · exact h w hmem (List.not_mem_cons_of_ne_of_not_mem hne hrest)

/-- **After a notification every canvas fits.** -/
theorem Synced.fits_broadcast (h : b.Synced) : ∀ w ∈ b.broadcast.1.widgets, w.Fits b.container := by
  rw [(broadcast_spec b).2]
  refine fits_refits fun w hw hother => absurd ?_ hother
  rw [h.tokens_eq]
  exact List.mem_map_of_mem hw

/-! ## To be left alone -/

/-- A widget is untouched: it is as before, and nothing has been drawn on its element. -/
def Untouched (w : Widget) (b b' : Board) : Prop :=
  w ∈ b'.widgets ∧ ∃ effects, b'.effects = b.effects ++ effects ∧
    ∀ e ∈ effects, ∀ d, e.drawing? = some d → d.target ≠ w.entry.renderTarget

theorem Untouched.refl (hw : w ∈ b.widgets) : Untouched w b b :=
  ⟨hw, [], (List.append_nil _).symm, List.forall_mem_nil _⟩

theorem Untouched.trans (h : Untouched w b b') (h' : Untouched w b' b'') : Untouched w b b'' := by
  obtain ⟨-, effects, heq, helse⟩ := h
  obtain ⟨hmem, more, heq', helse'⟩ := h'
  refine ⟨hmem, effects ++ more, by rw [heq', heq, List.append_assoc], fun e he => ?_⟩
  rcases List.mem_append.mp he with he | he
  · exact helse e he
  · exact helse' e he

/-- One canvas is fitted: another widget has other elements, and the widget itself fits. -/
theorem Whole.untouched_refit (h : b.Whole) (hw : w ∈ b.widgets) (hfits : w.Fits b.container)
    (token : Nat) : Untouched w b (refit token b) := by
  unfold refit modify
  split
  · exact .refl hw
  · rename_i v hv
    obtain ⟨hmem, rfl⟩ := mem_of_widget? hv
    dsimp only
    refine ⟨List.mem_map.mpr ⟨w, hw, ?_⟩, _, rfl, fun e he d hd => ?_⟩
    · split
      · rename_i hsame
        obtain rfl := List.inj_on_of_nodup_map h.synced.nodup hw hmem hsame
        rw [Widget.refit_of_fits hfits]
      · rfl
    · obtain ⟨drawing, hdrawing, rfl⟩ := List.mem_map.mp he
      cases hd
      by_cases hsame : w.token = v.token
      · obtain rfl := List.inj_on_of_nodup_map h.synced.nodup hw hmem hsame
        rw [Widget.refit_of_fits hfits] at hdrawing
        cases hdrawing
      · rw [(v.paints_refit b.container).target d hdrawing]
        exact h.target_ne hw hmem hsame

theorem Whole.untouched_refits (h : b.Whole) (hw : w ∈ b.widgets) (hfits : w.Fits b.container)
    (tokens : List Nat) : Untouched w b (refitEach tokens b) := by
  induction tokens generalizing b with
  | nil => exact .refl hw
  | cons token rest ih =>
    have hfirst := h.untouched_refit hw hfits token
    refine hfirst.trans (ih (h.of_course (course_refit token b)) hfirst.1 ?_)
    rw [container_refit]
    exact hfits

/-- **A notification leaves a widget alone whose canvas fits**, whatever it does to others. -/
theorem Whole.untouched_broadcast (h : b.Whole) (hw : w ∈ b.widgets)
    (hfits : w.Fits b.container) : Untouched w b b.broadcast.1 := by
  rw [(broadcast_spec b).2]
  exact h.untouched_refits hw hfits _

/-- If all canvases fit, it leaves the board as it is. -/
theorem Synced.broadcast_of_fits (h : b.Synced) (hfits : ∀ w ∈ b.widgets, w.Fits b.container) :
    b.broadcast.1 = b := by
  have hrefit : ∀ token, refit token b = b := by
    intro token
    unfold refit modify
    split
    · rfl
    · rename_i v hv
      obtain ⟨hmem, rfl⟩ := mem_of_widget? hv
      beta_reduce
      rw [Widget.refit_of_fits (hfits v hmem)]
      have hsame : (b.widgets.map fun u => if u.token = v.token then v else u) = b.widgets := by
        refine (List.map_congr_left fun u hu => ?_).trans (List.map_id _)
        split
        · rename_i htoken
          exact List.inj_on_of_nodup_map h.nodup hmem hu htoken.symm
        · rfl
      dsimp only
      rw [hsame]
      unfold emit
      rw [List.map_nil, List.append_nil]
  rw [(broadcast_spec b).2]
  induction b.hub.tokens with
  | nil => rfl
  | cons token rest ih =>
    show refitEach rest (refit token b) = b
    rw [hrefit]
    exact ih

end Board

end ResultsBoard
