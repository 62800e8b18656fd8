import ResultsBoard.Proofs.Board.Alarms
import ResultsBoard.Proofs.Board.Logbooks
import ResultsBoard.Proofs.View.Buttons

/-!
# Single flight

The results of a dataset (`fetch_dataset`) carry no number that would tell an old fetch from a new
one. None is needed: the button to load a dataset again is there only after a failure, and as long
as nobody loads it again otherwise, each fetch ends before the next one is started. Each failure is
reported once.

* `Whole.same_plot_iff`: in the course of a run no two widgets show the same plot.
  `Whole.failures_eq`: so what is reported about a plot is about its widget.
* `FlightLaw`, `flight_law`: the fetches of a widget since its mounting.
-/

namespace ResultsBoard.Board

open Fetch Metadata

variable {b : Board} {v w : Widget} {steps rest : List Step}

/-! ## One widget for each plot -/

/-- A widget stays, or it is gone. -/
theorem Whole.stays_or_gone (hb : b.Whole) (hv : v ∈ b.widgets) {step : Step}
    (hroom : ∀ p, b.plots = some p → step.adds = true → p.Room) :
    (∃ u ∈ (b.step step).1.widgets, u.label = v.label) ∨ (b.step step).1.Gone v := by
  by_cases hstays : v.token ∈ (b.step step).1.widgetTokens
  · obtain ⟨u, hu, htoken⟩ := List.mem_map.mp hstays
    refine .inl ⟨u, hu, ?_⟩
    cases hmoves : step.moves with
    | false =>
      obtain ⟨v', hv', hlabel⟩ := (still_step b hmoves).exists_before hb.synced.nodup hu
      have hsame : v'.token = v.token := (congrArg Prod.fst hlabel).trans htoken
      rw [← hlabel, List.inj_on_of_nodup_map hb.synced.nodup hv' hv hsame]
    | true =>
      obtain ⟨-, -, hold⟩ := (turnover_elder v.token).step b hmoves (hb.synced.lt_nextToken hv)
      rw [List.inj_on_of_nodup_map hb.synced.nodup (hold u hu htoken) hv htoken]
  · exact .inr (hb.gone hv hroom hstays)

theorem Gone.of_label (h : b.Gone v) (hlabel : v.label = w.label) : b.Gone w := by
  have htoken : v.token = w.token := congrArg Prod.fst hlabel
  have hplot : v.plot = w.plot := congrArg (fun l : Nat × PlotEntry => l.2.id) hlabel
  obtain ⟨hold, hnone, hother, hplots⟩ := h
  rw [htoken] at hold hnone
  rw [hplot] at hother hplots
  exact ⟨hold, hnone, hother, hplots⟩

theorem Whole.stays_or_gone_run (hb : b.Whole) (hv : v ∈ b.widgets) (hroomy : b.Roomy steps) :
    (∃ u ∈ (b.run steps).widgets, u.label = v.label) ∨ (b.run steps).Gone v := by
  induction steps generalizing b v with
  | nil => exact .inl ⟨v, hv, rfl⟩
  | cons step rest ih =>
    have hnext := hb.step hroomy.head
    have hrest := hroomy.tail hb
    rcases hb.stays_or_gone hv hroomy.head with ⟨u, hu, hlabel⟩ | hgone
    · rcases ih hnext hu hrest with ⟨last, hlast, hsame⟩ | hgone
      · exact .inl ⟨last, hlast, hsame.trans hlabel⟩
      · exact .inr (hgone.of_label hlabel)
    · exact .inr (hgone.run hnext hrest).1

/-- **In the course of a run no two widgets show the same plot.** -/
theorem Whole.same_plot_iff (hb : b.Whole) (hroomy : b.Roomy steps) (hv : v ∈ b.widgets)
    (hw : w ∈ (b.run steps).widgets) : v.plot = w.plot ↔ v.token = w.token := by
  have hlast := hb.whole_run hroomy
  rcases hb.stays_or_gone_run hv hroomy with ⟨u, hu, hlabel⟩ | hgone
  · have htoken : u.token = v.token := congrArg Prod.fst hlabel
    have hplot : u.plot = v.plot := congrArg (fun l : Nat × PlotEntry => l.2.id) hlabel
    rw [← htoken, ← hplot]
    refine ⟨fun hsame => ?_, fun hsame => ?_⟩
    · rw [List.inj_on_of_nodup_map hlast.distinct hu hw hsame]
    · rw [List.inj_on_of_nodup_map hlast.synced.nodup hu hw hsame]
  · refine ⟨fun hsame => absurd hsame.symm (hgone.plot w hw), fun hsame => ?_⟩
    refine absurd ?_ hgone.token
    rw [hlast.synced.tokens_eq, hsame]
    exact List.mem_map_of_mem hw

/-- A widget that is mounted at the end has been mounted ever since its token was handed out. -/
theorem Synced.exists_widget (hb : b.Synced) (hlast : (b.run steps).Synced)
    (hw : w ∈ (b.run steps).widgets) (hold : w.token < b.hub.nextToken) :
    ∃ v ∈ b.widgets, v.token = w.token := by
  have htoken : w.token ∈ (b.run steps).hub.tokens := by
    rw [hlast.tokens_eq]
    exact List.mem_map_of_mem hw
  rcases (later_run b steps).tokens _ htoken with hmem | hnew
  · rw [hb.tokens_eq] at hmem
    exact List.mem_map.mp hmem
  · exact absurd hold (Nat.not_lt.mpr hnew)

/-- A task that is labeled is about the plot of a widget exactly if it is for that widget. -/
theorem Whole.about_iff (hb : b.Whole) (hroomy : b.Roomy steps) (hw : w ∈ (b.run steps).widgets)
    {t : Nat} {p : PlotId} (htask : .dataset t p ∈ b.waiting) :
    (p = w.plot ∧ (b.widget? t).isSome) ↔ t = w.token := by
  obtain ⟨hold, hplots⟩ := hb.labeled _ htask t p rfl
  constructor
  · rintro ⟨hplot, hmounted⟩
    obtain ⟨v, hv⟩ := Option.isSome_iff_exists.mp hmounted
    obtain ⟨hmem, htoken⟩ := mem_of_widget? hv
    have hsame : v.plot = w.plot := (hplots v hmem htoken).trans hplot
    rw [← htoken]
    exact (hb.same_plot_iff hroomy hmem hw).mp hsame
  · rintro rfl
    obtain ⟨v, hv, htoken⟩ := hb.synced.exists_widget (hb.whole_run hroomy).synced hw hold
    refine ⟨?_, ?_⟩
    · rw [← hplots v hv htoken]
      exact (hb.same_plot_iff hroomy hv hw).mpr htoken
    · rw [← htoken, hb.synced.widget?_eq hv]
      rfl

/-- **What a step reports about the plot of a widget are the failures of its fetches.** -/
theorem Whole.failures_eq (hb : b.Whole) {step : Step} (hroomy : b.Roomy (step :: rest))
    (hw : w ∈ (b.run (step :: rest)).widgets) :
    b.failures w.plot step = (b.flight? w.token step).toList.filterMap Flight.failure? := by
  cases step with
  | settle index =>
    simp only [failures, flight?]
    cases htask : b.waiting[index]? with
    | none => rfl
    | some task =>
      cases task with
      | dataset t p =>
        have hiff := hb.about_iff hroomy hw (List.mem_of_getElem? htask)
        simp only [Option.bind_some, failing?, Option.any_some, Task.isFor, decide_eq_true_eq, hiff]
        by_cases heq : t = w.token
        · rw [if_pos heq, if_pos heq]
          cases hresult : (State.ofResult b.outcome).failure? <;>
            simp [Flight.failure?, hresult]
        · rw [if_neg heq, if_neg heq]
          rfl
      | options generation => rfl
      | model generation => rfl
  | _ =>
    simp only [failures, flight?]
    split <;> rfl

theorem Whole.failures_run (hb : b.Whole) (hroomy : b.Roomy steps)
    (hw : w ∈ (b.run steps).widgets) : b.record (fun b step => b.failures w.plot step) steps =
      (b.record (fun b step => (b.flight? w.token step).toList) steps).filterMap
        Flight.failure? := by
  induction steps generalizing b with
  | nil => rfl
  | cons step rest ih =>
    simp only [record]
    rw [hb.failures_eq hroomy hw, ih (hb.step hroomy.head) (hroomy.tail hb) hw,
      List.filterMap_append]

/-! ## The law -/

/-- A fetch that ends was the only one under way, and its result is the state of the dataset. -/
theorem Synced.completed (hb : b.Synced) {history : List Flight} {index : Nat}
    (hw : w ∈ (b.settle index).1.widgets)
    (hlogbook : Logbook history w.dataset ((b.settle index).1.inFlight w.token))
    (htask : b.waiting[index]?.any (Task.isFor w.token) = true) :
    b.inFlight w.token = 1 ∧ w.dataset = .ofResult b.outcome := by
  have hflown := flown_settle b w.token index
  have hafter := (hb.of_still (still_settle b index)).dataset?_eq hw
  simp only [flight?, if_pos htask] at hflown
  cases hflown with
  | ended _ hdataset hinFlight =>
    rw [hafter] at hdataset
    obtain ⟨before, -, hstate⟩ := Option.map_eq_some_iff.mp hdataset.symm
    have hsingle := hlogbook.single
    rw [← hstate] at hsingle ⊢
    refine ⟨?_, rfl⟩
    rw [hinFlight, hsingle]
    cases b.outcome <;> rfl

/-- The failures that the fetches of the widget with a token have ended in, in order. -/
def failuresOf (start : Board) (token : Nat) (steps : List Step) : List Failure :=
  (start.flights token steps).filterMap Flight.failure?

/-- **The fetches of a mounted widget** in the course of some steps, when `start` is the board `b`
with a part mounted on it. -/
structure FlightLaw (b start : Board) (steps : List Step) (w : Widget) : Prop where
  /-- Mounting starts the first fetch; each fetch ends before the next one is started, which happens
  only after a failure; and one fetch has been started by mounting, and one each time that the
  dataset was loaded again. -/
  logbook : Logbook (start.flights w.token steps) w.dataset ((start.run steps).inFlight w.token)
  /-- No two fetches are under way, -/
  single : (start.run steps).inFlight w.token ≤ 1
  /-- and there is one exactly as long as the dataset is loading. -/
  loading : w.dataset = .loading ↔ (start.run steps).inFlight w.token = 1
  /-- So a fetch that ends is the only one, and its result is the state of the dataset. -/
  completed : ∀ before index, steps = before ++ [.settle index] →
    (start.run before).waiting[index]?.any (Task.isFor w.token) = true →
      (start.run before).inFlight w.token = 1 ∧ w.dataset = .ofResult (start.run before).outcome
  /-- A dataset that has arrived stays. -/
  kept : ∀ before after, steps = before ++ after → ∀ v ∈ (start.run before).widgets,
    v.token = w.token → ∀ data, v.dataset = .ready data → w.dataset = .ready data
  /-- The button to load the dataset again is there exactly after a failure. -/
  button : ∀ canRemove, .retry (.plot w.token) ∈ (View.widget canRemove w).actions ↔
    ∃ failure, w.dataset = .failed failure
  /-- There is one warning for each failure, in the order in which the fetches have ended, -/
  warned : start.Roomy steps → Effect.datasetWarnings w.plot (start.run steps).effects =
    Effect.datasetWarnings w.plot b.effects ++
      (start.failuresOf w.token steps).map (datasetWarning w.plot)
  /-- and among all that has been done to the toast -/
  toast : (start.run steps).toast = (start.toastHistory steps).foldl Toast.Op.act b.toast
  /-- there is one message for each failure, in the same order. -/
  shown : start.Roomy steps → (start.toastHistory steps).filterMap
      (Toast.Op.datasetMessage? w.plot) =
    (start.failuresOf w.token steps).map (datasetMessage w.plot)

/-- The failures of a widget are those that are reported about its plot. -/
theorem Whole.failuresOf_eq (hb : b.Whole) (hroomy : b.Roomy steps)
    (hw : w ∈ (b.run steps).widgets) :
    b.failuresOf w.token steps = b.record (fun b step => b.failures w.plot step) steps := by
  unfold failuresOf flights
  rw [List.filterMap_append, hb.failures_run hroomy hw]
  split <;> rfl

/-- **A widget needs no numbers to tell its fetches apart.** Any part is mounted on a board, and
anything may happen to it, except that the dataset of a widget is loaded again while it is loading
or has arrived. -/
theorem flight_law {b : Board} {w : Widget} (hfresh : b.Fresh) (part : Part) (tab : Tab)
    {steps : List Step} (hmounted : w ∈ ((b.mount part tab false).run steps).widgets)
    (hpatient : (b.mount part tab false).Patient w.token steps) :
    FlightLaw b (b.mount part tab false) steps w := by
  have hwhole := hfresh.mount part tab false
  have hwarned := mute_mount b w.plot part tab
  have htoast := toast_mount b part tab
  have htracked := hfresh.tracked part tab
  generalize b.mount part tab false = start at *
  have hlogbook := (htracked steps).mounted w hmounted hpatient
  refine ⟨hlogbook, hlogbook.le_one, hlogbook.loading_iff, ?_, ?_, fun canRemove =>
    View.retry_mem_actions canRemove w, fun hroomy => ?_, ?_, fun hroomy => ?_⟩
  · rintro before index rfl htask
    rw [run_append] at hmounted hlogbook
    exact (htracked before).synced.completed hmounted hlogbook htask
  · -- The logbook of now goes on from that of then, and nothing follows a dataset.
    rintro before after rfl v hv hsame data hready
    rw [← hsame] at hpatient hlogbook
    have hbefore := (htracked before).mounted v hv hpatient.of_append
    rw [hready] at hbefore
    rw [flights_append] at hlogbook
    exact hbefore.ready_stays hlogbook
  · have hrun := Warned.trans hwarned (warned_run start w.plot steps)
    rw [hwhole.failuresOf_eq hroomy hmounted]
    exact hrun
  · rw [← htoast]
    exact (reported_run start steps).toast
  · rw [hwhole.failuresOf_eq hroomy hmounted]
    exact shown_run start w.plot steps

/-- What the end of a fetch for a widget is: its result is delivered. -/
theorem settle_dataset {index t : Nat} {p : PlotId}
    (htask : b.waiting[index]? = some (.dataset t p)) : (b.step (.settle index)).1 =
      ({ b with waiting := b.waiting.eraseIdx index }.fetched .data
        (Series.fetchDataset b.settings (b.server.ahead .data))).deliverDataset t p b.outcome := by
  simp only [step, settle, htask]
  rfl

theorem outcome_refusing (h : b.server.answers = refusing.answers) :
    b.outcome = .error (.status 404 "Not Found") := by
  unfold outcome Series.fetchDataset Run.decode Server.ahead
  rw [h, get_refusing]
  rfl

/-- A widget on its own: its fetch fails, its dataset is loaded again, and that fails as well. -/
theorem flight_law_again :
    let missing : Failure := .status 404 "Not Found"
    let start := (empty .default refusing).mount (.widget ⟨1⟩ true) .model false
    let steps : List Step := [.settle 0, .retry 0, .settle 0]
    let w : Widget := { token := 0, entry := .ofId ⟨1⟩, dataset := .failed missing }
    start.flights 0 steps =
        [.mounted, .ended (.error missing), .retried, .ended (.error missing)] ∧
      w ∈ (start.run steps).widgets ∧ start.Roomy steps ∧
      FlightLaw (empty .default refusing) start steps w := by
  intro missing start steps w
  let failed : Board := ({ start with waiting := [] }.fetched .data
    (Series.fetchDataset start.settings (start.server.ahead .data))).deliverDataset 0 ⟨1⟩
      (.error missing)
  have hfirst : start.run [.settle 0] = failed := by
    show (start.step (.settle 0)).1 = failed
    rw [settle_dataset rfl, outcome_refusing rfl]
    rfl
  have hretried : start.run [.settle 0, .retry 0] = (failed.step (.retry 0)).1 := by
    rw [← hfirst]
    rfl
  have hlast : (start.run steps).widgets = [w] := by
    show ((start.run [.settle 0, .retry 0]).step (.settle 0)).1.widgets = [w]
    rw [hretried, settle_dataset rfl, outcome_refusing rfl]
    rfl
  have hmem : w ∈ (start.run steps).widgets := by
    rw [hlast]
    exact List.mem_singleton_self w
  refine ⟨?_, hmem, (fun p hp => nomatch hp),
    flight_law ⟨⟨rfl, rfl⟩, rfl, rfl⟩ (.widget ⟨1⟩ true) .model hmem ?_⟩
  · have hflights : start.flights 0 steps = [.mounted] ++ ((start.flight? 0 (.settle 0)).toList ++
        (((start.run [.settle 0]).flight? 0 (.retry 0)).toList ++
          (((start.run [.settle 0, .retry 0]).flight? 0 (.settle 0)).toList ++ []))) := rfl
    rw [hretried, hfirst] at hflights
    have houtcomes : start.flights 0 steps = [.mounted, .ended start.outcome, .retried,
        .ended (failed.step (.retry 0)).1.outcome] := hflights
    rw [houtcomes, outcome_refusing rfl, outcome_refusing rfl]
  · -- The only step that loads again is the second one, and the dataset has failed by then.
    intro before index hbegins _ v hv _
    obtain ⟨rest, hsteps⟩ := hbegins
    obtain rfl : before = [.settle 0] := by
      rcases before with _ | ⟨first, _ | ⟨second, _ | ⟨third, more⟩⟩⟩ <;>
        simp_all [steps]
    rw [hfirst] at hv
    obtain rfl : v = w := List.mem_singleton.mp hv
    exact ⟨missing, rfl⟩

end ResultsBoard.Board
