import ResultsBoard.Proofs.Board.Fitting
import ResultsBoard.Proofs.Chart.Likeness

/-!
# The chart on the screen

Datasets arrive or fail and are loaded again, containers get other sizes with or without a
notification, and canvases enter the page. After every step each chart on the page (`PlotWidget`) is
the drawing of its dataset at the size of its canvas.

* `Widget.ShownBy`: a drawing is a pass over the series of a widget's dataset, or over none, at the
  size of its canvas.
* `Whole.keepsUp_step`: if a step changes a picture, it draws the new one.
* `ScreenLaw`, `screen_law`: what is on the screen in the course of a run, and what a notification
  does to it.
-/

namespace ResultsBoard

open Fetch
open Metadata (Tab)

/-! ## Widgets -/

namespace Widget

variable {w : Widget} {d : Drawing}

/-- **A drawing shows a widget**: it has the size of its canvas and was made with its traces. -/
structure ShownBy (w : Widget) (d : Drawing) : Prop where
  canvas : w.canvas = some d.canvas
  traces : d.traces = w.traces
  /-- If the dataset has arrived, the calls are those of a pass over its series. -/
  ready : ∀ dataset, w.dataset = .ready dataset → d.calls = Chart.draw d.canvas dataset.traces
  /-- As long as it has not, and if it could not be fetched, they are those of a pass over no series
  at all. -/
  absent : (∀ dataset, w.dataset ≠ .ready dataset) → d.calls = Chart.draw d.canvas []

/-- The picture of a widget that is up to date shows its dataset. Traces that were not taken over
because they count as equal to those on the chart draw the same. -/
theorem UpToDate.shownBy (h : w.UpToDate) (hd : w.picture = some d) : w.ShownBy d := by
  obtain ⟨canvas, hcanvas, rfl⟩ := Option.map_eq_some_iff.mp hd
  have hcalls : Chart.draw canvas w.traces = Chart.draw canvas (shownTraces w.dataset) := by
    rcases h with hsame | hequal
    · rw [hsame]
    · exact (Chart.draw_congr hequal canvas).symm
  refine ⟨hcanvas, rfl, fun dataset hready => ?_, fun habsent => ?_⟩
  · rw [hready] at hcalls
    exact hcalls
  · cases hdataset : w.dataset with
    | ready dataset => exact absurd hdataset (habsent dataset)
    | _ =>
      rw [hdataset] at hcalls
      exact hcalls

/-- A widget with a canvas has a picture. -/
theorem exists_picture (h : w.canvas ≠ none) : ∃ d, w.picture = some d := by
  obtain ⟨canvas, hcanvas⟩ := Option.ne_none_iff_exists'.mp h
  unfold picture
  rw [hcanvas]
  exact ⟨_, rfl⟩

end Widget

namespace Board

variable {b b' b'' : Board} {p : Plots} {w : Widget}

/-! ## Steps -/

theorem KeepsUp.trans (h : KeepsUp b b') (h' : KeepsUp b' b'') : KeepsUp b b'' := by
  obtain ⟨effects, heq, hfirst⟩ := h
  obtain ⟨more, heq', hsecond⟩ := h'
  refine ⟨effects ++ more, by rw [heq', heq, List.append_assoc], fun w hw d hd => ?_⟩
  rw [Effect.lastOn_append]
  rcases hsecond w hw d hd with hdrawn | ⟨hnone, v, hv, htoken, hpicture⟩
  · rw [hdrawn, Option.some_or]
    exact .inl rfl
  · have htarget : v.entry.renderTarget = w.entry.renderTarget :=
      (target_of_picture hpicture).symm.trans (target_of_picture hd)
    rw [hnone, Option.none_or, ← htarget]
    rcases hfirst v hv d hpicture with hdrawn | ⟨hnone', u, hu, htoken', hpicture'⟩
    · exact .inl hdrawn
    · exact .inr ⟨hnone', u, hu, htoken'.trans htoken, hpicture'⟩

theorem Whole.keepsUp_of_course (h : b.Whole) (hc : Course b b') : KeepsUp b b' := by
  induction hc with
  | refl => exact .refl b
  | tail hcourse hlast ih => exact ih.trans ((h.of_course hcourse).keepsUp_of_change hlast)

/-- A widget that comes has no canvas yet. -/
theorem picture_of_mountAll {fresh : List PlotEntry}
    (hw : w ∈ (fresh.foldl mountWidget b).widgets) : w.picture = none ∨ w ∈ b.widgets := by
  induction fresh generalizing b with
  | nil => exact .inr hw
  | cons entry rest ih =>
    rcases ih hw with hnone | hmem
    · exact .inl hnone
    · rcases mem_mountWidget hmem with hold | rfl
      · exact .inr hold
      · exact .inl rfl

theorem keepsUp_setPlots (b : Board) (p : Plots) : KeepsUp b (b.setPlots p) := by
  obtain ⟨messages, heffects⟩ := (moved_setPlots b p).effects
  refine .of_silent _ heffects (fun e he => ?_) fun w hw => ?_
  · obtain ⟨message, -, rfl⟩ := List.mem_map.mp he
    rfl
  · rcases picture_of_mountAll hw with hnone | hmem
    · exact .inl hnone
    · rw [widgets_unmountAll] at hmem
      exact .inr (List.mem_of_mem_filter hmem)

/-- **With every step the screen keeps up.** -/
theorem Whole.keepsUp_step (h : b.Whole) (step : Step) : KeepsUp b (b.step step).1 := by
  rcases step_cases h.labeled h.synced.nodup step with hcourse | ⟨p, messages, -, heq⟩ | rfl
  · exact h.keepsUp_of_course hcourse
  · rw [heq]
    exact (h.keepsUp_of_course (course_narrate b messages)).trans (keepsUp_setPlots _ _)
  · obtain ⟨messages, heffects⟩ := (moved_unmount b).effects
    refine ⟨_, heffects, ?_⟩
    show ∀ w ∈ b.unmount.widgets, _
    rw [widgets_unmount]
    exact List.forall_mem_nil _

/-! ## The law -/

/-- **What is on the screen** after a run of a board. -/
structure ScreenLaw (start : Board) (steps : List Step) : Prop where
  /-- What was last drawn on the element of a widget shows it. -/
  current : ∀ w ∈ (start.run steps).widgets, w.canvas ≠ none →
    ∃ d, (start.run steps).onScreen w.entry.renderTarget = some d ∧ w.ShownBy d
  /-- A step that places the canvas of a widget or gives it another size, or changes the traces, has
  drawn the widget anew after that. -/
  redrawn : ∀ before step after, steps = before ++ step :: after →
    ∀ w ∈ (start.run (before ++ [step])).widgets, w.canvas ≠ none →
      (∀ v ∈ (start.run before).widgets, v.token = w.token →
        v.canvas ≠ w.canvas ∨ v.traces ≠ w.traces) →
      ∃ effects d, (start.run (before ++ [step])).effects = (start.run before).effects ++ effects ∧
        Effect.lastOn effects w.entry.renderTarget = some d ∧ w.ShownBy d
  /-- When the containers get another size and the hub notifies, every canvas fits afterwards. -/
  fitted : ∀ container, ∀ w ∈ ((start.run steps).resizeContainers container).1.widgets,
    w.Fits container
  /-- A notification touches no widget whose canvas has the size that it is to have. -/
  untouched : ∀ container : Int × Int, container.1 < 2 ^ 32 → container.2 < 2 ^ 32 →
    ∀ w ∈ (start.run steps).widgets,
      (∀ canvas, w.canvas = some canvas →
        (canvas.width.toNat : Int) = max 200 (max container.1 0) ∧
          (canvas.height.toNat : Int) = max 150 (max container.2 0)) →
      Untouched w (start.run steps) ((start.run steps).resizeContainers container).1
  /-- If all of them have it, nothing happens. -/
  idle : ∀ container, (∀ w ∈ (start.run steps).widgets, w.Fits container) →
    ((start.run steps).resizeContainers container).1 = { start.run steps with container }

theorem Whole.shown (h : b.Whole) (hw : w ∈ b.widgets) (hcanvas : w.canvas ≠ none) :
    ∃ d, b.onScreen w.entry.renderTarget = some d ∧ w.ShownBy d := by
  obtain ⟨d, hd⟩ := Widget.exists_picture hcanvas
  exact ⟨d, h.current w hw d hd, (h.upToDate w hw).shownBy hd⟩

/-- The size of the containers changes, and nothing else yet. -/
theorem course_container (b : Board) (container : Int × Int) : Course b { b with container } :=
  course_elsewhere rfl rfl rfl rfl rfl rfl rfl

theorem Whole.redrawn (h : b.Whole) {step : Step} (hafter : (b.step step).1.Whole)
    (hw : w ∈ (b.step step).1.widgets) (hcanvas : w.canvas ≠ none)
    (hchanged : ∀ v ∈ b.widgets, v.token = w.token → v.canvas ≠ w.canvas ∨ v.traces ≠ w.traces) :
    ∃ effects d, (b.step step).1.effects = b.effects ++ effects ∧
      Effect.lastOn effects w.entry.renderTarget = some d ∧ w.ShownBy d := by
  obtain ⟨effects, heffects, hdrawn⟩ := h.keepsUp_step step
  obtain ⟨d, hd⟩ := Widget.exists_picture hcanvas
  refine ⟨effects, d, heffects, ?_, (hafter.upToDate w hw).shownBy hd⟩
  rcases hdrawn w hw d hd with hlast | ⟨-, v, hv, htoken, hpicture⟩
  · exact hlast
  · -- The widget had this picture before, so neither its canvas nor its traces have changed.
    obtain ⟨canvas, hsize, rfl⟩ := Option.map_eq_some_iff.mp hd
    obtain ⟨canvas', hsize', hsame⟩ := Option.map_eq_some_iff.mp hpicture
    injection hsame with _ hcanvases htraces
    rcases hchanged v hv htoken with hne | hne
    · rw [hsize, hsize', hcanvases] at hne
      exact absurd rfl hne
    · exact absurd htraces hne

/-- There is always room where no plot is added. -/
theorem roomy_of_no_adds {steps : List Step} (h : steps.countP Step.adds = 0) (b : Board) :
    b.Roomy steps := by
  intro p _
  rw [h]
  exact p.nextId.toNat_lt

/-- **The chart on the screen is never stale.** Anything may happen to a board with a part mounted
on it, as long as there are ids for new plots. -/
theorem screen_law (part : Part) (tab : Tab) (promptly : Bool) {steps : List Step}
    (hfresh : b.Fresh) (hroomy : (b.mount part tab promptly).Roomy steps) :
    ScreenLaw (b.mount part tab promptly) steps := by
  have hstart := hfresh.mount part tab promptly
  have hlast := hstart.whole_run hroomy
  refine ⟨fun w hw => hlast.shown hw, fun before step after hsplit w hw => ?_,
    fun container => ?_, fun container hwidth hheight w hw hsize => ?_, fun container hfits => ?_⟩
  · subst hsplit
    obtain ⟨hbefore, hroom⟩ := hstart.run hroomy
    have hstep : (b.mount part tab promptly).run (before ++ [step]) =
        (((b.mount part tab promptly).run before).step step).1 := run_append _ _ _
    rw [hstep] at hw ⊢
    exact hbefore.redrawn (hbefore.step hroom.head) hw
  · exact (hlast.of_course (course_container _ container)).synced.fits_broadcast
  · have hsized := hlast.of_course (course_container _ container)
    have hfits : w.Fits container := fun canvas hcanvas =>
      (Chart.Canvas.eq_ofContainer_iff hwidth hheight).mpr (hsize canvas hcanvas)
    exact hsized.untouched_broadcast hw hfits
  · exact (hlast.of_course (course_container _ container)).synced.broadcast_of_fits hfits

/-- A dataset has been fetched and is delivered. -/
theorem settle_of_dataset {index token : Nat} {plot : PlotId} {fetched : Run Series.Dataset}
    (htask : b.waiting[index]? = some (.dataset token plot))
    (hfetched : Series.fetchDataset b.settings (b.server.ahead .data) = fetched) :
    b.settle index =
      (({ b with
          waiting := b.waiting.eraseIdx index
          server := b.server.spend .data fetched.used }.emit
        (fetched.events.map .ofEvent)).deliverDataset token plot fetched.result, true) := by
  subst hfetched
  unfold settle
  rw [htask]
  rfl

/-- A server whose data document has one series. -/
def plotted : Server :=
  { answers := fun _ _ => .response 200 "OK" "\x7b\"time\": [0, 1], \"v\": [5, 6]\x7d" }

theorem fetchDataset_plotted (s : Settings) (used : Resource → Nat) :
    Series.fetchDataset s ({ plotted with used }.ahead .data) =
      ⟨.ok ⟨[0.0, 1.0], [("v", [5.0, 6.0])]⟩, 1, asking s .data⟩ := by
  have hread : receive .data (({ plotted with used }.ahead .data) 0) =
      .ok (.object [("time", .array [.number (.natural 0), .number (.natural 1)]),
        ("v", .array [.number (.natural 5), .number (.natural 6)])]) := by
    unfold Server.ahead plotted receive
    cbv
  have hfinal : ¬ (({ plotted with used }.ahead .data) (0 : UInt32).toNat).MayPass := by
    show ¬ (¬ _ ∧ _)
    decide
  unfold Series.fetchDataset Fetch.get
  rw [attempts_of_final (.inl hfinal)]
  show Run.decode ⟨receive .data (({ plotted with used }.ahead .data) 0), _, _⟩ _ = _
  rw [hread]
  rfl

/-- A widget on its own is placed into a container without a size, its dataset arrives, and the
container becomes wide and of negative height. -/
theorem screen_law_widened :
    ScreenLaw ((empty .default plotted).mount (.widget ⟨1⟩ false) .model false)
        [.place, .settle 0, .resizeContainers (800, -5)] ∧
      (((empty .default plotted).mount (.widget ⟨1⟩ false) .model false).run
        [.place, .settle 0, .resizeContainers (800, -5)]).widgets =
          [{ token := 0
             entry := .ofId ⟨1⟩
             dataset := .ready ⟨[0.0, 1.0], [("v", [5.0, 6.0])]⟩
             traces := [⟨"v", [0.0, 1.0], [5.0, 6.0], .linesMarkers⟩]
             canvas := some ⟨800, 150⟩ }] := by
  refine ⟨screen_law (.widget ⟨1⟩ false) .model false ⟨⟨rfl, rfl⟩, rfl, rfl⟩
    (roomy_of_no_adds (by decide) _), ?_⟩
  let placed := ((empty .default plotted).mount (.widget ⟨1⟩ false) .model false).place
  have hsettled : placed.settle 0 = _ := settle_of_dataset rfl
    (fetchDataset_plotted placed.settings placed.server.used)
  show ((placed.settle 0).1.resizeContainers (800, -5)).1.widgets = _
  rw [hsettled]
  rfl

end Board

end ResultsBoard
