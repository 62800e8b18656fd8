import Mathlib.Logic.Relation
import ResultsBoard.Proofs.Board.Column
import ResultsBoard.Proofs.Fetch.Retries

/-!
# What can happen to a board

Whatever happens to a board between mounting and unmounting is made of a few kinds of changes: a
widget is painted, lines are logged, a failure is reported, time passes, a fetch is started or taken
off the list. `Change` lists them with what is known when they are made, and every step that mounts
nothing is a course of such changes. So what every change keeps is kept by all of these steps.

* `Widget.Paints`: an operation on a widget leaves its picture alone and draws nothing, or it draws
  the picture that it leaves. Traces that are up to date stay so.
* `Change`, `Course`: the changes and their courses. `course_*`: each operation of the board that
  mounts nothing is one.
* `moving_cases`, `step_cases`: besides, a step may show an update of the plots or unmount
  everything.
* `Turnover`: a relation holds across all that is done then. `Turnover.step`: it holds across the
  steps that do it.
-/

namespace ResultsBoard

open Fetch Metadata Resize

/-! ## Pictures -/

namespace Widget

/-- What the canvas of a widget is to show: the drawing of its traces at its size. -/
def picture (w : Widget) : Option Drawing :=
  w.canvas.map fun canvas => ⟨w.entry.renderTarget, canvas, w.traces⟩

/-- The traces are those of the dataset, or count as equal to them. -/
def UpToDate (w : Widget) : Prop :=
  w.traces = shownTraces w.dataset ∨ (shownTraces w.dataset == w.traces) = true

/-- An operation leaves the picture alone and draws nothing, or it draws the picture that it leaves.
The label stays, and so do traces that are up to date. -/
structure Paints (w : Widget) (result : Widget × List Drawing) : Prop where
  label : result.1.label = w.label
  drawn : (result.1.picture = w.picture ∧ result.2 = []) ∨ result.2 = result.1.picture.toList
  upToDate : w.UpToDate → result.1.UpToDate

/-- What an operation draws, it draws on the element of the widget. -/
theorem Paints.target {w : Widget} {result : Widget × List Drawing} (h : w.Paints result) :
    ∀ d ∈ result.2, d.target = w.entry.renderTarget := by
  intro d hd
  rcases h.drawn with ⟨-, hnone⟩ | hall
  · rw [hnone] at hd
    cases hd
  · rw [hall, Option.mem_toList] at hd
    obtain ⟨canvas, -, rfl⟩ := Option.map_eq_some_iff.mp hd
    exact congrArg PlotEntry.renderTarget (congrArg Prod.snd h.label)

theorem drawings_redraw (w : Widget) (container : Int × Int) :
    (w.redraw container).2 = (w.redraw container).1.picture.toList := by
  unfold redraw picture
  cases h : w.canvas with
  | none => simp [h]
  | some canvas => rfl

theorem upToDate_redraw {w : Widget} (h : w.UpToDate) (container : Int × Int) :
    (w.redraw container).1.UpToDate := by
  unfold redraw
  split <;> exact h

theorem paints_setDataset (w : Widget) (container : Int × Int) (dataset : State Series.Dataset) :
    w.Paints (w.setDataset container dataset) := by
  refine ⟨label_setDataset w container dataset, ?_, fun _ => ?_⟩
  · unfold setDataset
    dsimp only
    split
    · exact .inl ⟨rfl, rfl⟩
    · exact .inr (drawings_redraw _ container)
  · unfold setDataset
    dsimp only
    split
    · rename_i hequal
      exact .inr hequal
    · exact upToDate_redraw (.inl rfl) container

theorem paints_place (w : Widget) (container : Int × Int) : w.Paints (w.place container) := by
  refine ⟨label_place w container, ?_, fun h => ?_⟩
  · unfold place
    split
    · exact .inr (drawings_redraw _ container)
    · exact .inl ⟨rfl, rfl⟩
  · unfold place
    split
    · have hplaced : UpToDate { w with canvas := some .unsized } := h
      exact upToDate_redraw hplaced container
    · exact h

theorem paints_refit (w : Widget) (container : Int × Int) : w.Paints (w.refit container) := by
  refine ⟨label_refit w container, ?_, fun h => ?_⟩
  · unfold refit
    split
    · exact .inl ⟨rfl, rfl⟩
    · dsimp only
      split
      · exact .inr rfl
      · exact .inl ⟨rfl, rfl⟩
  · unfold refit
    split
    · exact h
    · dsimp only
      split <;> exact h

end Widget

/-! ## Effects -/

/-- The drawing that an effect is. -/
def Effect.drawing? : Effect → Option Drawing
  | drew drawing => some drawing
  | logged _ | requested _ | waited _ | retryAsked | removalAsked _ => none

/-- Neither a drawing nor a report: the only warnings are those of requests that are tried again. -/
def Effect.Plain : Effect → Prop
  | drew _ => False
  | logged line => line.level = .warn →
      ∃ resource : Resource, resource.path.toList <+: line.message.toList
  | requested _ | waited _ | retryAsked | removalAsked _ => True

theorem Effect.plain_debug (message : String) : (logged (.debug message)).Plain := by
  intro h
  cases h

namespace Board

variable {b b' b'' : Board}

/-- The warning that the dataset of a plot could not be fetched. -/
def datasetWarning (plot : PlotId) (failure : Failure) : String :=
  "plot " ++ plot.text ++ ": dataset fetch failed: " ++ failure.message

/-- The message about it in the toast. -/
def datasetMessage (plot : PlotId) (failure : Failure) : String :=
  "Plot " ++ plot.text ++ ": " ++ failure.message

/-! ## Changes -/

/-- **One change.** -/
inductive Change : Board → Board → Prop where
  | paint (b : Board) (token : Nat) {f : Widget → Widget × List Drawing}
      (hf : ∀ w : Widget, w.Paints (f w)) : Change b (b.modify token f)
  | emit (b : Board) {effects : List Effect} (heffects : ∀ e ∈ effects, e.Plain) :
      Change b (b.emit effects)
  /-- The failure of a mounted widget's dataset is reported. -/
  | report (b : Board) {w : Widget} (hw : w ∈ b.widgets) (failure : Failure) :
      Change b (b.report (datasetWarning w.plot failure) (datasetMessage w.plot failure))
  | reportDocument (b : Board) {name : String} (hname : name = "options" ∨ name = "model")
      (failure : Failure) : Change b (b.reportDocument name failure)
  | advance (b : Board) (milliseconds : Nat) :
      Change b { b with toast := b.toast.advance milliseconds }
  /-- A dataset is fetched for a mounted widget only. -/
  | spawn (b : Board) {task : Task} (htask : ∀ token plot, task = .dataset token plot →
      ∃ w ∈ b.widgets, w.token = token ∧ w.plot = plot) : Change b (b.spawn task)
  | take (b : Board) {waiting : List Task} (hwaiting : waiting ⊆ b.waiting) :
      Change b { b with waiting }
  /-- Settings, server, containers, browser, loads and frames may change at any time. -/
  | elsewhere {b b' : Board} (hhub : b'.hub = b.hub) (hplots : b'.plots = b.plots)
      (hlistening : b'.listening = b.listening) (hwidgets : b'.widgets = b.widgets)
      (htoast : b'.toast = b.toast) (hwaiting : b'.waiting = b.waiting)
      (heffects : b'.effects = b.effects) : Change b b'

/-- Changes one after another. -/
def Course : Board → Board → Prop := Relation.ReflTransGen Change

theorem Course.refl (b : Board) : Course b b := Relation.ReflTransGen.refl

theorem Course.trans (h : Course b b') (h' : Course b' b'') : Course b b'' :=
  Relation.ReflTransGen.trans h h'

theorem Change.course (h : Change b b') : Course b b' := Relation.ReflTransGen.single h

theorem Change.still (h : Change b b') : Still b b' := by
  cases h with
  | paint token hf => exact still_modify b token fun w => (hf w).label
  | elsewhere hhub hplots hlistening hwidgets _ _ _ =>
    exact .of_eq hhub hplots hlistening hwidgets
  | _ => exact .of_eq rfl rfl rfl rfl

theorem Course.still (h : Course b b') : Still b b' := by
  induction h with
  | refl => exact .refl b
  | tail _ hlast ih => exact ih.trans hlast.still

theorem course_elsewhere (hhub : b'.hub = b.hub) (hplots : b'.plots = b.plots)
    (hlistening : b'.listening = b.listening) (hwidgets : b'.widgets = b.widgets)
    (htoast : b'.toast = b.toast) (hwaiting : b'.waiting = b.waiting)
    (heffects : b'.effects = b.effects) : Course b b' :=
  (Change.elsewhere hhub hplots hlistening hwidgets htoast hwaiting heffects).course

theorem course_narrate (b : Board) (messages : List String) : Course b (b.narrate messages) := by
  refine (Change.emit b fun e he => ?_).course
  obtain ⟨message, -, rfl⟩ := List.mem_map.mp he
  exact Effect.plain_debug message

theorem course_debug (b : Board) (message : String) : Course b (b.log (.debug message)) :=
  course_narrate b [message]

/-! ## Canvases and notifications -/

theorem course_refit (token : Nat) (b : Board) : Course b (refit token b) :=
  (Change.paint b token fun w => w.paints_refit b.container).course

theorem upkeep_course : Upkeep Course where
  refl := .refl
  trans := .trans
  place b token := (Change.paint b token fun w => w.paints_place b.container).course
  refit := course_refit
  debug := course_debug
  frames _ _ := course_elsewhere rfl rfl rfl rfl rfl rfl rfl
  container _ _ := course_elsewhere rfl rfl rfl rfl rfl rfl rfl

/-! ## Fetches -/

/-- A task for a dataset has a token that has been handed out, and it is for the plot of the widget
with that token, if that is still mounted. -/
def Labeled (b : Board) (task : Task) : Prop :=
  ∀ token plot, task = .dataset token plot →
    token < b.hub.nextToken ∧ ∀ w ∈ b.widgets, w.token = token → w.plot = plot

/-- A widget with the same label was there before. -/
theorem Still.exists_before (h : Still b b') (hnodup : b.widgetTokens.Nodup) {w : Widget}
    (hw : w ∈ b'.widgets) : ∃ v ∈ b.widgets, v.label = w.label := by
  have hlabel := List.mem_map_of_mem (f := Widget.label) hw
  rw [h.labels hnodup] at hlabel
  exact List.mem_map.mp hlabel

/-- Labels stay, so a task stays labeled. -/
theorem Labeled.of_still {task : Task} (h : b.Labeled task) (hs : Still b b')
    (hnodup : b.widgetTokens.Nodup) : b'.Labeled task := by
  intro token plot heq
  obtain ⟨hold, hplots⟩ := h token plot heq
  refine ⟨by rw [hs.hub]; exact hold, fun w hw htoken => ?_⟩
  obtain ⟨v, hv, hsame⟩ := hs.exists_before hnodup hw
  have htokens : v.token = w.token := congrArg Prod.fst hsame
  have hentries : v.entry = w.entry := congrArg Prod.snd hsame
  have hplot := hplots v hv (htokens.trans htoken)
  unfold Widget.plot at hplot ⊢
  rw [← hentries]
  exact hplot

theorem mem_of_widget? {token : Nat} {w : Widget} (h : b.widget? token = some w) :
    w ∈ b.widgets ∧ w.token = token :=
  ⟨List.mem_of_find?_eq_some h, by simpa using List.find?_some h⟩

/-- The widget that is painted is there afterwards. -/
theorem mem_widgets_modify {token : Nat} {w : Widget} (h : b.widget? token = some w)
    (f : Widget → Widget × List Drawing) : (f w).1 ∈ (b.modify token f).widgets := by
  obtain ⟨hmem, htoken⟩ := mem_of_widget? h
  unfold modify
  rw [h]
  exact List.mem_map.mpr ⟨w, hmem, if_pos htoken⟩

theorem course_deliverDataset {token : Nat} {plot : PlotId}
    (h : b.Labeled (.dataset token plot)) (result : Except Failure Series.Dataset) :
    Course b (b.deliverDataset token plot result) := by
  unfold deliverDataset
  split
  · exact course_debug _ _
  · rename_i w hw
    have hpaint : Course b (b.modify token fun w => w.setDataset b.container (.ofResult result)) :=
      (Change.paint b token fun w => w.paints_setDataset _ _).course
    dsimp only
    split
    · exact hpaint
    · rename_i failure
      refine hpaint.trans ?_
      obtain ⟨hmem, htoken⟩ := mem_of_widget? hw
      let dataset : State Series.Dataset := .ofResult (.error failure)
      have hafter := mem_widgets_modify hw fun w => w.setDataset b.container dataset
      have hreport := (Change.report _ hafter failure).course
      have hentry := congrArg Prod.snd (w.label_setDataset b.container dataset)
      have hplot : (w.setDataset b.container dataset).1.plot = plot :=
        (congrArg PlotEntry.id hentry).trans ((h token plot rfl).2 w hmem htoken)
      rw [hplot] at hreport
      exact hreport

theorem course_deliverDocument {α : Type} (b : Board) {name : String}
    (hname : name = "options" ∨ name = "model") (result : Except Failure α)
    (apply : Browser → Except Failure α → Browser × Bool) :
    Course b (b.deliverDocument name result apply) := by
  unfold deliverDocument
  split
  · exact .refl b
  · rename_i browser _
    have hset : Course b { b with browser := some (apply browser result).1 } :=
      course_elsewhere rfl rfl rfl rfl rfl rfl rfl
    dsimp only
    split
    · exact hset.trans (Change.reportDocument _ hname _).course
    · exact hset

/-- The events of a run are plain, and then its result is delivered. -/
theorem course_carryOut {α : Type} {resource : Resource} {fetch : (Nat → Answer) → Run α}
    {deliver : Board → Except Failure α → Board}
    (hfetch : ∀ answers, ∀ event ∈ (fetch answers).events, (Effect.ofEvent event).Plain)
    (hdeliver : ∀ b' result, Still b b' → Course b' (deliver b' result)) :
    Course b (b.carryOut resource fetch deliver) := by
  unfold carryOut
  dsimp only
  have hspend : Course b
      { b with server := b.server.spend resource (fetch (b.server.ahead resource)).used } :=
    course_elsewhere rfl rfl rfl rfl rfl rfl rfl
  refine (hspend.trans ?_).trans (hdeliver _ _ (.of_eq rfl rfl rfl rfl))
  refine (Change.emit _ fun e he => ?_).course
  obtain ⟨event, hevent, rfl⟩ := List.mem_map.mp he
  exact hfetch _ event hevent

/-- The events of a fetch are plain. -/
theorem plain_get (s : Settings) (resource : Resource) (answers : Nat → Answer) :
    ∀ event ∈ (Fetch.get s resource answers).events, (Effect.ofEvent event).Plain := by
  obtain ⟨last, hlast⟩ := exists_last s answers
  rw [get_eq hlast]
  intro event hevent
  have hasking : ∀ event ∈ asking s resource, (Effect.ofEvent event).Plain := by
    intro event hevent
    simp only [asking, List.mem_cons, List.not_mem_nil, or_false] at hevent
    rcases hevent with rfl | rfl
    · exact Effect.plain_debug _
    · exact trivial
  rcases List.mem_append.mp hevent with hturns | hlast
  · obtain ⟨i, -, hturn⟩ := List.mem_flatMap.mp hturns
    simp only [Fetch.turn, List.mem_cons, List.not_mem_nil, or_false] at hturn
    rcases hturn with rfl | rfl | rfl | rfl
    · exact Effect.plain_debug _
    · exact trivial
    · refine fun _ => ⟨resource, ?_⟩
      simp only [warning, LogLine.warn, String.toList_append, List.append_assoc]
      exact List.prefix_append _ _
    · exact trivial
  · exact hasking event hlast

theorem course_complete {task : Task} (h : b.Labeled task) (hnodup : b.widgetTokens.Nodup) :
    Course b (b.complete task) := by
  unfold complete
  cases task with
  | dataset token plot =>
    refine course_carryOut (fun answers => ?_) fun b' result hs => ?_
    · exact plain_get _ _ answers
    · exact course_deliverDataset (h.of_still hs hnodup) result
  | options generation =>
    refine course_carryOut (fun answers => ?_) fun b' result _ => ?_
    · exact plain_get _ _ answers
    · exact course_deliverDocument b' (.inl rfl) result _
  | model generation =>
    refine course_carryOut (fun answers => ?_) fun b' result _ => ?_
    · exact plain_get _ _ answers
    · exact course_deliverDocument b' (.inr rfl) result _

theorem course_settle (h : ∀ task ∈ b.waiting, b.Labeled task) (hnodup : b.widgetTokens.Nodup)
    (index : Nat) : Course b (b.settle index).1 := by
  unfold settle
  split
  · exact .refl b
  · rename_i task htask
    have htake : Course b { b with waiting := b.waiting.eraseIdx index } :=
      (Change.take b (List.eraseIdx_subset)).course
    refine htake.trans (course_complete ?_ hnodup)
    exact h task (List.mem_of_getElem? htask)

theorem course_completeAll {tasks : List Task} (h : ∀ task ∈ tasks, b.Labeled task)
    (hnodup : b.widgetTokens.Nodup) : Course b (tasks.foldl complete b) := by
  induction tasks generalizing b with
  | nil => exact .refl b
  | cons task rest ih =>
    have hfirst := course_complete (h task List.mem_cons_self) hnodup
    have hnodup' : (b.complete task).widgetTokens.Nodup := by
      rw [hfirst.still.widgetTokens hnodup]
      exact hnodup
    refine hfirst.trans (ih (fun other hother => ?_) hnodup')
    exact (h other (List.mem_cons_of_mem task hother)).of_still hfirst.still hnodup

theorem course_pause (h : ∀ task ∈ b.waiting, b.Labeled task) (hnodup : b.widgetTokens.Nodup)
    (promptly : Bool) : Course b (b.pause promptly) := by
  unfold pause settleAll
  split
  · have htake : Course b { b with waiting := [] } :=
      (Change.take b (List.nil_subset _)).course
    exact htake.trans (course_completeAll h hnodup)
  · exact .refl b

/-! ## Loads -/

theorem course_spawnMetadata (b : Board) (generation : UInt64) :
    Course b (b.spawnMetadata generation) := by
  have hoptions : Course b (b.spawn (.options generation)) :=
    (Change.spawn b fun _ _ heq => by cases heq).course
  exact hoptions.trans (Change.spawn _ fun _ _ heq => by cases heq).course

theorem course_mountBrowser (b : Board) (tab : Tab) : Course b (b.mountBrowser tab) := by
  unfold mountBrowser
  dsimp only
  refine Course.trans ?_ (course_spawnMetadata _ _)
  exact course_elsewhere rfl rfl rfl rfl rfl rfl rfl

theorem course_retry (b : Board) (load : Load) : Course b (b.retry load).1 := by
  cases load with
  | metadata =>
    unfold retry
    dsimp only
    split
    · exact .refl b
    · refine Course.trans ?_ (course_spawnMetadata _ _)
      exact course_elsewhere rfl rfl rfl rfl rfl rfl rfl
  | plot token =>
    unfold retry
    dsimp only
    split
    · exact .refl b
    · rename_i w hw
      have hpaint : Course b (b.modify token fun w => w.setDataset b.container .loading) :=
        (Change.paint b token fun w => w.paints_setDataset _ _).course
      refine hpaint.trans (Change.spawn _ fun token' plot heq => ?_).course
      cases heq
      have hlabel := w.label_setDataset b.container .loading
      refine ⟨_, mem_widgets_modify hw _, ?_, ?_⟩
      · exact (congrArg Prod.fst hlabel).trans (mem_of_widget? hw).2
      · exact congrArg PlotEntry.id (congrArg Prod.snd hlabel)

theorem course_selectTab (b : Board) (tab : Tab) : Course b (b.selectTab tab).1 := by
  unfold selectTab
  split
  · exact .refl b
  · exact course_elsewhere rfl rfl rfl rfl rfl rfl rfl

/-! ## Steps -/

/-- **Every step that mounts nothing is a course of changes.** -/
theorem course_step (h : ∀ task ∈ b.waiting, b.Labeled task) (hnodup : b.widgetTokens.Nodup)
    {step : Step} (hstep : step.moves = false) : Course b (b.step step).1 := by
  cases step with
  | settle index => exact course_settle h hnodup index
  | advance milliseconds => exact (Change.advance b milliseconds).course
  | retry index =>
    unfold Board.step
    dsimp only
    split
    · exact .refl b
    · exact course_retry b _
  | selectTab index =>
    unfold Board.step
    dsimp only
    split
    · exact .refl b
    · exact course_selectTab b _
  | addPlot => cases hstep
  | removePlot id => cases hstep
  | unmount => cases hstep
  | _ => exact upkeep_course.step b rfl

/-- Without a column there is nothing to update. -/
theorem step_of_no_plots (h : b.plots = none) {step : Step}
    (hstep : step = .addPlot ∨ ∃ id, step = .removePlot id) :
    ∃ effects, (∀ e ∈ effects, e.Plain) ∧ (b.step step).1 = b.emit effects := by
  rcases hstep with rfl | ⟨id, rfl⟩
  · simp only [Board.step, addPlot, h]
    exact ⟨[], List.forall_mem_nil _, (narrate_nil b).symm⟩
  · simp only [Board.step, removePlot, h]
    split
    · refine ⟨[.removalAsked id], fun e he => ?_, rfl⟩
      rw [List.mem_singleton.mp he]
      exact trivial
    · exact ⟨[], List.forall_mem_nil _, (narrate_nil b).symm⟩

/-- **What a step can mount and unmount**: nothing, if there is no column; it shows an update of the
plots, or it unmounts everything. -/
theorem moving_cases (b : Board) {step : Step} (hmoves : step.moves = true) :
    (∃ effects, (∀ e ∈ effects, e.Plain) ∧ (b.step step).1 = b.emit effects) ∨
      (∃ p messages, b.plots = some p ∧
        (b.step step).1 = (b.narrate messages).setPlots (step.onPlots p)) ∨ step = .unmount := by
  have hupdate : (step = .addPlot ∨ ∃ id, step = .removePlot id) ∨ step = .unmount := by
    cases step with
    | addPlot => exact .inl (.inl rfl)
    | removePlot id => exact .inl (.inr ⟨id, rfl⟩)
    | unmount => exact .inr rfl
    | _ => cases hmoves
  rcases hupdate with hupdate | hunmount
  · cases hplots : b.plots with
    | none => exact .inl (step_of_no_plots hplots hupdate)
    | some p =>
      obtain ⟨messages, heq⟩ := update_narrated hplots hupdate
      exact .inr (.inl ⟨p, messages, rfl, heq⟩)
  · exact .inr (.inr hunmount)

/-- A relation between boards that holds across all that is done when widgets come and go. -/
structure Turnover (R : Board → Board → Prop) : Prop extends Traffic R where
  emit : ∀ (b : Board) {effects : List Effect}, (∀ e ∈ effects, e.Plain) → R b (b.emit effects)
  update : ∀ (b : Board) plots frames, R b { b with plots, frames }
  clear : ∀ b : Board, R b { b with browser := none, plots := none, listening := false }

theorem Turnover.setPlots {R : Board → Board → Prop} (h : Turnover R) (b : Board) (p : Plots) :
    R b (b.setPlots p) :=
  h.toTraffic.setPlots (h.update b _ _)

/-- **It holds across every step that mounts or unmounts something.** -/
theorem Turnover.step {R : Board → Board → Prop} (h : Turnover R) (b : Board) {step : Step}
    (hmoves : step.moves = true) : R b (b.step step).1 := by
  rcases moving_cases b hmoves with ⟨effects, hplain, heq⟩ | ⟨p, messages, -, heq⟩ | rfl
  · rw [heq]
    exact h.emit b hplain
  · rw [heq]
    refine h.trans (h.emit b fun e he => ?_) (h.setPlots (b.narrate messages) _)
    obtain ⟨message, -, rfl⟩ := List.mem_map.mp he
    exact Effect.plain_debug message
  · exact h.trans (h.unmountAll b b.widgets) (h.clear _)

/-- **What a step can do**: it makes some changes, it shows an update of the plots, or it unmounts
everything. -/
theorem step_cases (h : ∀ task ∈ b.waiting, b.Labeled task) (hnodup : b.widgetTokens.Nodup)
    (step : Step) : Course b (b.step step).1 ∨
      (∃ p messages, b.plots = some p ∧
        (b.step step).1 = (b.narrate messages).setPlots (step.onPlots p)) ∨ step = .unmount := by
  cases hmoves : step.moves with
  | false => exact .inl (course_step h hnodup hmoves)
  | true =>
    rcases moving_cases b hmoves with ⟨effects, hplain, heq⟩ | hothers
    · rw [heq]
      exact .inl (Change.emit b hplain).course
    · exact .inr hothers

end Board

end ResultsBoard
