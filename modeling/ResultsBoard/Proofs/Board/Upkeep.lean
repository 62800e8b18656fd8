import ResultsBoard.Board.Script
import ResultsBoard.Proofs.Resize.Pass

/-!
# Loops over the widgets

Canvases enter the page, containers get another size, requested frames run: all of it places and
fits canvases one after another, and logs what has been done. An update of the plots unmounts and
mounts widgets one after another. So a relation between boards holds across these steps if it does
across their parts.

* `foldl_rel`: a loop keeps what each of its turns keeps.
* `Upkeep`: the relation holds across what is done for canvases. `Upkeep.step`: it holds across the
  steps made of that.
* `Traffic`: it holds across mounting and unmounting one widget. `Traffic.setPlots`,
  `Traffic.unmountAll`: it holds across an update of the plots, and across unmounting all.
-/

namespace ResultsBoard.Board

/-- A loop is one turn after another, so it keeps what each of them keeps. -/
theorem foldl_rel {σ α : Type} {R : σ → σ → Prop} {f : σ → α → σ} (hrefl : ∀ s, R s s)
    (htrans : ∀ {s s' s''}, R s s' → R s' s'' → R s s'') (hf : ∀ s x, R s (f s x)) (xs : List α)
    (s : σ) : R s (xs.foldl f s) := by
  induction xs generalizing s with
  | nil => exact hrefl s
  | cons x rest ih => exact htrans (hf s x) (ih (f s x))

/-- A relation between boards that holds across all that is done for canvases. -/
structure Upkeep (R : Board → Board → Prop) : Prop where
  refl : ∀ b, R b b
  trans : ∀ {b b' b''}, R b b' → R b' b'' → R b b''
  place : ∀ (b : Board) token, R b (b.modify token fun w => w.place b.container)
  refit : ∀ token b, R b (refit token b)
  debug : ∀ (b : Board) message, R b (b.log (.debug message))
  frames : ∀ (b : Board) frames, R b { b with frames }
  container : ∀ (b : Board) container, R b { b with container }

/-- Whether a step does something for canvases and nothing else. -/
def Step.upkeep : Step → Bool
  | .place | .resizeContainers _ | .resizeWindow _ | .runFrames => true
  | _ => false

namespace Upkeep

variable {R : Board → Board → Prop} (h : Upkeep R)

include h

theorem broadcast (b : Board) : R b b.broadcast.1 :=
  Resize.pass_rel _ _ h.refl h.trans h.refit b.hub.tokens b

theorem runFrame (b : Board) (frame : Frame) : R b (b.runFrame frame) :=
  h.trans (h.broadcast b) (h.debug _ _)

theorem runFrames (b : Board) : R b b.runFrames.1 :=
  h.trans (h.frames b []) (foldl_rel h.refl h.trans h.runFrame b.frames _)

theorem resizeContainers (b : Board) (container : Int × Int) :
    R b (b.resizeContainers container).1 :=
  h.trans (h.container b container) (h.broadcast _)

theorem resizeWindow (b : Board) (container : Int × Int) : R b (b.resizeWindow container).1 := by
  unfold Board.resizeWindow
  split
  · exact h.trans (h.resizeContainers b container) (h.debug _ _)
  · exact h.container b container

/-- **It holds across every step that does something for canvases.** -/
theorem step (b : Board) {step : Step} (hstep : step.upkeep = true) : R b (b.step step).1 := by
  cases step with
  | place =>
    exact foldl_rel h.refl h.trans (fun b (w : Widget) => h.place b w.token) b.widgets b
  | resizeContainers container => exact h.resizeContainers b container
  | resizeWindow container => exact h.resizeWindow b container
  | runFrames => exact h.runFrames b
  | _ => cases hstep

end Upkeep

/-- A relation between boards that holds across mounting and across unmounting a widget. -/
structure Traffic (R : Board → Board → Prop) : Prop where
  refl : ∀ b, R b b
  trans : ∀ {b b' b''}, R b b' → R b' b'' → R b b''
  mount : ∀ (b : Board) entry, R b (b.mountWidget entry)
  unmount : ∀ (b : Board) w, R b (b.unmountWidget w)

namespace Traffic

variable {R : Board → Board → Prop} (h : Traffic R)

include h

theorem unmountAll (b : Board) (gone : List Widget) : R b (gone.foldl unmountWidget b) :=
  foldl_rel h.refl h.trans h.unmount gone b

theorem arrange (b : Board) (entries : List PlotEntry) : R b (b.arrange entries) :=
  h.trans (h.unmountAll b _) (foldl_rel h.refl h.trans h.mount _ _)

theorem setPlots {b : Board} {p : Plots}
    (hupdate : R b { b with plots := some p, frames := b.frames ++ [Frame.mk p.size] }) :
    R b (b.setPlots p) :=
  h.trans hupdate (h.arrange _ p.entries)

end Traffic

end ResultsBoard.Board
