import Mathlib.Data.List.Nodup
import ResultsBoard.Proofs.Board.Upkeep

/-!
# What mounts and unmounts nothing

Most of what happens to a board leaves alone which plots there are, which widgets are mounted and
which of them are subscribed to the resize hub. `Still` says so of two boards, and there is a lemma
for each operation: fetches that end, loads, tabs, canvases that enter the page, notifications.
Only the column of plots itself mounts and unmounts.
-/

namespace ResultsBoard

open Fetch Metadata

/-- What never changes about a widget: its token and the entry that it shows. -/
def Widget.label (w : Widget) : Nat × PlotEntry := (w.token, w.entry)

namespace Widget

theorem label_redraw (w : Widget) (container : Int × Int) :
    (w.redraw container).1.label = w.label := by
  unfold redraw
  split <;> rfl

theorem label_setDataset (w : Widget) (container : Int × Int)
    (dataset : State Series.Dataset) : (w.setDataset container dataset).1.label = w.label := by
  unfold setDataset
  dsimp only
  split
  · rfl
  · exact label_redraw _ container

theorem label_place (w : Widget) (container : Int × Int) :
    (w.place container).1.label = w.label := by
  unfold place
  split
  · exact label_redraw _ container
  · rfl

theorem label_refit (w : Widget) (container : Int × Int) :
    (w.refit container).1.label = w.label := by
  unfold refit
  split
  · rfl
  · dsimp only
    split <;> rfl

end Widget

namespace Board

variable {b b' b'' : Board}

/-- The tokens of the mounted widgets. -/
def widgetTokens (b : Board) : List Nat := b.widgets.map Widget.token

/-- Nothing has been mounted or unmounted. Widgets are told apart by their tokens. -/
structure Still (b b' : Board) : Prop where
  hub : b'.hub = b.hub
  plots : b'.plots = b.plots
  listening : b'.listening = b.listening
  labels : b.widgetTokens.Nodup → b'.widgets.map Widget.label = b.widgets.map Widget.label

theorem widgetTokens_eq (b : Board) :
    b.widgetTokens = (b.widgets.map Widget.label).map Prod.fst := by
  unfold widgetTokens
  rw [List.map_map]
  rfl

theorem Still.widgetTokens (h : Still b b') (hnodup : b.widgetTokens.Nodup) :
    b'.widgetTokens = b.widgetTokens := by
  rw [widgetTokens_eq, widgetTokens_eq, h.labels hnodup]

theorem Still.refl (b : Board) : Still b b := ⟨rfl, rfl, rfl, fun _ => rfl⟩

theorem Still.trans (h : Still b b') (h' : Still b' b'') : Still b b'' where
  hub := h'.hub.trans h.hub
  plots := h'.plots.trans h.plots
  listening := h'.listening.trans h.listening
  labels hnodup := by
    have hnodup' : b'.widgetTokens.Nodup := by
      rw [h.widgetTokens hnodup]
      exact hnodup
    exact (h'.labels hnodup').trans (h.labels hnodup)

/-- A change elsewhere. -/
theorem Still.of_eq (hhub : b'.hub = b.hub) (hplots : b'.plots = b.plots)
    (hlistening : b'.listening = b.listening) (hwidgets : b'.widgets = b.widgets) : Still b b' :=
  ⟨hhub, hplots, hlistening, fun _ => by rw [hwidgets]⟩

/-! ## Widgets -/

/-- A widget changes, but not its label. -/
theorem still_modify (b : Board) (token : Nat) {f : Widget → Widget × List Drawing}
    (hf : ∀ w, (f w).1.label = w.label) : Still b (b.modify token f) := by
  unfold modify
  split
  · exact .refl b
  · rename_i w hw
    refine ⟨rfl, rfl, rfl, fun hnodup => ?_⟩
    have hmem : w ∈ b.widgets := List.mem_of_find?_eq_some hw
    have htoken : w.token = token := by simpa using List.find?_some hw
    show (b.widgets.map fun v => if v.token = token then (f w).1 else v).map Widget.label = _
    rw [List.map_map]
    refine List.map_congr_left fun v hv => ?_
    simp only [Function.comp]
    split
    · rename_i heq
      rw [hf, List.inj_on_of_nodup_map hnodup hmem hv (htoken.trans heq.symm)]
    · rfl

theorem upkeep_still : Upkeep Still where
  refl := .refl
  trans := .trans
  place b token := still_modify b token fun w => w.label_place b.container
  refit token b := still_modify b token fun w => w.label_refit b.container
  debug _ _ := .of_eq rfl rfl rfl rfl
  frames _ _ := .of_eq rfl rfl rfl rfl
  container _ _ := .of_eq rfl rfl rfl rfl

/-! ## Fetches -/

theorem still_deliverDataset (b : Board) (token : Nat) (plot : PlotId)
    (result : Except Failure Series.Dataset) : Still b (b.deliverDataset token plot result) := by
  unfold deliverDataset
  split
  · exact .of_eq rfl rfl rfl rfl
  · have hset : Still b (b.modify token fun w => w.setDataset b.container (.ofResult result)) :=
      still_modify b token fun w => w.label_setDataset _ _
    dsimp only
    split
    · exact hset
    · exact hset.trans (.of_eq rfl rfl rfl rfl)

theorem still_deliverDocument {α : Type} (b : Board) (name : String) (result : Except Failure α)
    (apply : Browser → Except Failure α → Browser × Bool) :
    Still b (b.deliverDocument name result apply) := by
  unfold deliverDocument
  split
  · exact .refl b
  · dsimp only
    split <;> exact .of_eq rfl rfl rfl rfl

theorem still_carryOut {α : Type} (b : Board) (resource : Resource)
    (fetch : (Nat → Answer) → Run α) {deliver : Board → Except Failure α → Board}
    (hdeliver : ∀ b result, Still b (deliver b result)) :
    Still b (b.carryOut resource fetch deliver) := by
  unfold carryOut
  refine Still.trans ?_ (hdeliver _ _)
  exact .of_eq rfl rfl rfl rfl

theorem still_complete (b : Board) (task : Task) : Still b (b.complete task) := by
  cases task with
  | dataset token plot =>
    exact still_carryOut b _ _ fun b result => still_deliverDataset b token plot result
  | options generation =>
    exact still_carryOut b _ _ fun b result =>
      still_deliverDocument b "options" result fun browser => browser.applyOptions generation
  | model generation =>
    exact still_carryOut b _ _ fun b result =>
      still_deliverDocument b "model" result fun browser => browser.applyModel generation

theorem still_settle (b : Board) (index : Nat) : Still b (b.settle index).1 := by
  unfold settle
  split
  · exact .refl b
  · rename_i task _
    have herase : Still b { b with waiting := b.waiting.eraseIdx index } := .of_eq rfl rfl rfl rfl
    exact herase.trans (still_complete _ task)

theorem still_settleAll (b : Board) : Still b b.settleAll := by
  have hclear : Still b { b with waiting := [] } := .of_eq rfl rfl rfl rfl
  exact hclear.trans (foldl_rel .refl .trans still_complete b.waiting _)

theorem still_pause (b : Board) (promptly : Bool) : Still b (b.pause promptly) := by
  unfold pause
  split
  · exact still_settleAll b
  · exact .refl b

theorem still_retry (b : Board) (load : Load) : Still b (b.retry load).1 := by
  cases load with
  | metadata =>
    unfold retry
    dsimp only
    split <;> exact .of_eq rfl rfl rfl rfl
  | plot token =>
    unfold retry
    dsimp only
    split
    · exact .refl b
    · have hset : Still b (b.modify token fun w => w.setDataset b.container .loading) :=
        still_modify b token fun w => w.label_setDataset _ _
      exact hset.trans (.of_eq rfl rfl rfl rfl)

theorem still_selectTab (b : Board) (tab : Tab) : Still b (b.selectTab tab).1 := by
  unfold selectTab
  split <;> exact .of_eq rfl rfl rfl rfl

/-! ## Steps -/

/-- Whether a step may mount or unmount something. -/
def Step.moves : Step → Bool
  | .addPlot | .removePlot _ | .unmount => true
  | _ => false

/-- **Every other step leaves alone what is mounted.** -/
theorem still_step (b : Board) {step : Step} (h : step.moves = false) :
    Still b (b.step step).1 := by
  cases step with
  | settle index => exact still_settle b index
  | advance milliseconds => exact .of_eq rfl rfl rfl rfl
  | retry index =>
    unfold step
    dsimp only
    split
    · exact .refl b
    · exact still_retry b _
  | selectTab index =>
    unfold step
    dsimp only
    split
    · exact .refl b
    · exact still_selectTab b _
  | addPlot => cases h
  | removePlot id => cases h
  | unmount => cases h
  | _ => exact upkeep_still.step b rfl

end Board

end ResultsBoard
