import ResultsBoard.Proofs.Board.Flights

/-!
# Reports of datasets

A fetch of a dataset that fails is reported once in the log and once in the toast, if its widget is
still mounted. Nothing else that happens to a board looks like such a report.

* `Board.failures`: what a step reports about the dataset of a plot.
* `warned_step`, `warned_run`: so it is in the log. `Mute`: most of what happens is no warning about
  a dataset.
* `shown_step`, `shown_run`: so it is in the toast.
-/

namespace ResultsBoard

open Fetch Metadata
open Metadata.Browser (Half)

variable {plot : PlotId}

/-! ## Texts -/

/-- The text of an effect that is a warning about the dataset of a plot. -/
def Effect.datasetWarning? (plot : PlotId) : Effect → Option String
  | logged line =>
    if line.level = .warn ∧
        ("plot " ++ plot.text ++ ": dataset fetch failed").toList <+: line.message.toList then
      some line.message
    else none
  | drew _ | requested _ | waited _ | retryAsked | removalAsked _ => none

/-- The warnings about the dataset of a plot among some effects. -/
def Effect.datasetWarnings (plot : PlotId) (effects : List Effect) : List String :=
  effects.filterMap (datasetWarning? plot)

/-- The text of a toast operation that displays a message about a plot. -/
def Toast.Op.datasetMessage? (plot : PlotId) : Toast.Op → Option String
  | display _ message =>
    if ("Plot " ++ plot.text ++ ": ").toList <+: message.toList then some message else none
  | clear _ | share _ | advance _ => none

theorem datasetWarning?_of_not_concerns {e : Effect} (h : ¬ e.Concerns plot) :
    e.datasetWarning? plot = none := by
  cases e with
  | logged line => exact if_neg h
  | _ => rfl

namespace Board

variable {b b' b'' : Board}

/-- A warning about a dataset is about one plot. -/
theorem datasetWarning?_datasetWarning (plot p : PlotId) (failure : Failure) :
    (Effect.logged (.warn (datasetWarning p failure))).datasetWarning? plot =
      if p = plot then some (datasetWarning plot failure) else none := by
  by_cases heq : p = plot
  · subst heq
    rw [if_pos rfl]
    refine if_pos ⟨rfl, ?_⟩
    have hheading : ": dataset fetch failed".toList <+: ": dataset fetch failed: ".toList :=
      ⟨[':', ' '], rfl⟩
    simp only [LogLine.warn, datasetWarning, String.toList_append, List.append_assoc,
      List.prefix_append_right_inj]
    exact hheading.trans (List.prefix_append _ _)
  · rw [if_neg heq]
    refine if_neg ?_
    rintro ⟨-, hheading⟩
    exact heq (eq_of_datasetWarning hheading).symm

/-- So is a message. -/
theorem datasetMessage?_datasetMessage (plot p : PlotId) (failure : Failure) :
    (Toast.Op.display 0 (datasetMessage p failure)).datasetMessage? plot =
      if p = plot then some (datasetMessage plot failure) else none := by
  by_cases heq : p = plot
  · subst heq
    rw [if_pos rfl]
    refine if_pos ?_
    simp only [datasetMessage, String.toList_append, List.append_assoc,
      List.prefix_append_right_inj]
    exact List.prefix_append _ _
  · rw [if_neg heq]
    exact if_neg fun hheading => heq (eq_of_datasetMessage hheading).symm

/-! ## Warnings -/

/-- The failure that the end of a fetch reports about a plot. -/
def failing? (b : Board) (plot : PlotId) : Task → Option Failure
  | .dataset token p =>
    if p = plot ∧ (b.widget? token).isSome then (State.ofResult b.outcome).failure? else none
  | .options _ | .model _ => none

/-- The failures that a step reports about a plot. -/
def failures (b : Board) (plot : PlotId) : Step → List Failure
  | .settle index => (b.waiting[index]?.bind (b.failing? plot)).toList
  | _ => []

/-- **Some failures have been warned about**, when it comes to the dataset of a plot, and nothing
else. -/
def Warned (plot : PlotId) (failures : List Failure) (b b' : Board) : Prop :=
  Effect.datasetWarnings plot b'.effects =
    Effect.datasetWarnings plot b.effects ++ failures.map (datasetWarning plot)

/-- There is no warning about the dataset of a plot. -/
def Mute (plot : PlotId) (b b' : Board) : Prop := Warned plot [] b b'

theorem Warned.trans {failures more : List Failure} (h : Warned plot failures b b')
    (h' : Warned plot more b' b'') : Warned plot (failures ++ more) b b'' := by
  unfold Warned at h h' ⊢
  rw [h', h, List.map_append, List.append_assoc]

theorem Mute.trans (h : Mute plot b b') (h' : Mute plot b' b'') : Mute plot b b'' :=
  Warned.trans h h'

theorem mute_of_effects (effects : List Effect) (heffects : b'.effects = b.effects ++ effects)
    (hnone : ∀ e ∈ effects, e.datasetWarning? plot = none) : Mute plot b b' := by
  unfold Mute Warned Effect.datasetWarnings
  rw [heffects, List.filterMap_append, List.filterMap_eq_nil_iff.mpr hnone]
  rfl

theorem mute_of_eq (heffects : b'.effects = b.effects) : Mute plot b b' :=
  mute_of_effects [] (by rw [heffects, List.append_nil]) (List.forall_mem_nil _)

theorem mute_emit (b : Board) {effects : List Effect} (h : ∀ e ∈ effects, e.Plain) :
    Mute plot b (b.emit effects) :=
  mute_of_effects effects rfl fun e he =>
    datasetWarning?_of_not_concerns (not_concerns_of_plain (h e he) plot)

theorem mute_modify (b : Board) (t : Nat) (f : Widget → Widget × List Drawing) :
    Mute plot b (b.modify t f) := by
  unfold modify
  split
  · exact mute_of_eq rfl
  · rename_i w _
    refine mute_of_effects ((f w).2.map .drew) rfl fun e he => ?_
    obtain ⟨drawing, -, rfl⟩ := List.mem_map.mp he
    rfl

theorem Moved.mute (h : Moved b b') : Mute plot b b' := by
  obtain ⟨messages, heffects⟩ := h.effects
  refine mute_of_effects _ heffects fun e he => ?_
  obtain ⟨message, -, rfl⟩ := List.mem_map.mp he
  rfl

theorem upkeep_mute (plot : PlotId) : Upkeep (Mute plot) where
  refl _ := mute_of_eq rfl
  trans := .trans
  place b t := mute_modify b t _
  refit t b := mute_modify b t _
  debug b message := mute_of_effects [_] rfl fun e he => by rw [List.mem_singleton.mp he]; rfl
  frames _ _ := mute_of_eq rfl
  container _ _ := mute_of_eq rfl

/-- The failure of a document is not one of a dataset. -/
theorem mute_deliverDocument {α : Type} (b : Board) {name : String}
    (hname : name = "options" ∨ name = "model") (result : Except Failure α)
    (apply : Browser → Except Failure α → Browser × Bool) :
    Mute plot b (b.deliverDocument name result apply) := by
  unfold deliverDocument
  split
  · exact mute_of_eq rfl
  · dsimp only
    split
    · refine mute_of_effects [_] rfl fun e he => ?_
      rw [List.mem_singleton.mp he]
      exact datasetWarning?_of_not_concerns (not_concerns_reportDocument hname _ plot)
    · exact mute_of_eq rfl

/-- **A failure that is delivered is warned about** if its widget is mounted. -/
theorem warned_deliverDataset (b : Board) (t : Nat) (p : PlotId)
    (result : Except Failure Series.Dataset) :
    Warned plot (if p = plot ∧ (b.widget? t).isSome then (State.ofResult result).failure?
      else none).toList b (b.deliverDataset t p result) := by
  unfold deliverDataset
  cases b.widget? t with
  | none =>
    rw [if_neg (fun hmounted => Bool.false_ne_true hmounted.2)]
    exact mute_of_effects [_] rfl fun e he => by rw [List.mem_singleton.mp he]; rfl
  | some w =>
    have hset : Mute plot b (b.modify t fun w => w.setDataset b.container (.ofResult result)) :=
      mute_modify b t _
    cases result with
    | ok data =>
      rw [show (State.ofResult (.ok data : Except Failure Series.Dataset)).failure? = none from rfl,
        ite_self]
      exact hset
    | error failure =>
      refine Warned.trans hset ?_
      unfold Warned Effect.datasetWarnings
      show (_ ++ [Effect.logged (.warn (datasetWarning p failure))]).filterMap _ = _
      rw [List.filterMap_append]
      congr 1
      rw [List.filterMap_cons, datasetWarning?_datasetWarning]
      by_cases heq : p = plot
      · rw [if_pos heq, if_pos ⟨heq, rfl⟩]
        rfl
      · rw [if_neg heq, if_neg (fun h => heq h.1)]
        rfl

/-- The events of a fetch are plain, and then its result is delivered. -/
theorem warned_carryOut {α : Type} {resource : Resource} {fetch : (Nat → Answer) → Run α}
    {deliver : Board → Except Failure α → Board} {failures : List Failure}
    (hfetch : ∀ answers, ∀ event ∈ (fetch answers).events, (Effect.ofEvent event).Plain)
    (hdeliver : let run := fetch (b.server.ahead resource)
      Warned plot failures (b.fetched resource run) (deliver (b.fetched resource run) run.result)) :
    Warned plot failures b (b.carryOut resource fetch deliver) := by
  have hevents : Mute plot b (b.fetched resource (fetch (b.server.ahead resource))) := by
    refine mute_of_effects _ rfl fun e he => ?_
    obtain ⟨event, hevent, rfl⟩ := List.mem_map.mp he
    exact datasetWarning?_of_not_concerns (not_concerns_of_plain (hfetch _ event hevent) plot)
  exact Warned.trans hevents hdeliver

/-- **The end of a fetch** is warned about if it is a failure of a mounted widget. -/
theorem warned_complete (b : Board) (plot : PlotId) (task : Task) :
    Warned plot (b.failing? plot task).toList b (b.complete task) := by
  unfold complete
  cases task with
  | dataset t p =>
    exact warned_carryOut (fun answers => plain_get b.settings .data answers)
      (warned_deliverDataset _ t p b.outcome)
  | options generation =>
    exact warned_carryOut (fun answers => plain_get b.settings .options answers)
      (mute_deliverDocument _ (.inl rfl) _ _)
  | model generation =>
    exact warned_carryOut (fun answers => plain_get b.settings .model answers)
      (mute_deliverDocument _ (.inr rfl) _ _)

theorem warned_settle (b : Board) (plot : PlotId) (index : Nat) :
    Warned plot (b.failures plot (.settle index)) b (b.settle index).1 := by
  unfold settle
  simp only [failures]
  cases htask : b.waiting[index]? with
  | none => exact mute_of_eq rfl
  | some task =>
    let taken : Board := { b with waiting := b.waiting.eraseIdx index }
    have htaken : Mute plot b taken := mute_of_eq rfl
    exact Warned.trans htaken (warned_complete taken plot task)

theorem mute_retry (b : Board) (plot : PlotId) (load : Load) : Mute plot b (b.retry load).1 := by
  cases load with
  | metadata =>
    unfold retry
    dsimp only
    split <;> exact mute_of_eq rfl
  | plot t =>
    unfold retry
    dsimp only
    split
    · exact mute_of_eq rfl
    · exact (mute_modify b t _).trans (mute_of_eq rfl)

theorem turnover_mute (plot : PlotId) : Turnover (Mute plot) where
  refl _ := mute_of_eq rfl
  trans := .trans
  mount b entry := (moved_mountWidget b entry).mute
  unmount b w := (moved_unmountWidget b w).mute
  emit := mute_emit
  update _ _ _ := mute_of_eq rfl
  clear _ := mute_of_eq rfl

/-- **Every step warns of the failures that it reports**, and of no others. -/
theorem warned_step (b : Board) (plot : PlotId) (step : Step) :
    Warned plot (b.failures plot step) b (b.step step).1 := by
  cases step with
  | settle index => exact warned_settle b plot index
  | advance milliseconds => exact mute_of_eq rfl
  | retry index =>
    simp only [Board.step]
    split
    · exact mute_of_eq rfl
    · exact mute_retry b plot _
  | selectTab index =>
    simp only [Board.step, selectTab]
    split
    · exact mute_of_eq rfl
    · dsimp only [Reply.ofFlag]
      split <;> exact mute_of_eq rfl
  | addPlot => exact (turnover_mute plot).step b rfl
  | removePlot id => exact (turnover_mute plot).step b rfl
  | unmount => exact (turnover_mute plot).step b rfl
  | _ => exact (upkeep_mute plot).step b rfl

/-! ## Messages -/

/-- What the toast says of a document is not about a plot. -/
theorem datasetMessage?_document (plot : PlotId) (half : Half) (failure : Failure) :
    (Toast.Op.display 0 (half.message failure)).datasetMessage? plot = none := by
  refine if_neg fun hmessage => ?_
  simp only [Half.message, String.toList_append, List.append_assoc] at hmessage
  exact not_prefix_of_head_ne (by decide) hmessage

/-- The end of a fetch shows the failure that it reports. -/
theorem shown_says? (b : Board) (plot : PlotId) (task : Task) :
    ((b.says? task).map (Toast.Op.display 0)).toList.filterMap (Toast.Op.datasetMessage? plot) =
      (b.failing? plot task).toList.map (datasetMessage plot) := by
  have hdocument : ∀ happening? : Option Happening,
      ((happening?.bind b.countedMessage?).map (Toast.Op.display 0)).toList.filterMap
        (Toast.Op.datasetMessage? plot) = [] := by
    intro happening?
    refine List.filterMap_eq_nil_iff.mpr fun op hop => ?_
    obtain ⟨message, hmessage, rfl⟩ := Option.map_eq_some_iff.mp (Option.mem_toList.mp hop)
    obtain ⟨happening, -, hcounted⟩ := Option.bind_eq_some_iff.mp hmessage
    obtain ⟨failed, -, rfl⟩ := Option.map_eq_some_iff.mp hcounted
    exact datasetMessage?_document plot failed.1 failed.2
  cases task with
  | dataset t p =>
    show (((if (b.widget? t).isSome then (State.ofResult b.outcome).failure?.map (datasetMessage p)
      else none).map (Toast.Op.display 0)).toList).filterMap _ = _
    simp only [failing?]
    cases (b.widget? t).isSome with
    | false => rw [if_neg Bool.false_ne_true, if_neg (fun h => Bool.false_ne_true h.2)]; rfl
    | true =>
      rw [if_pos rfl]
      cases (State.ofResult b.outcome).failure? with
      | none => rw [ite_self]; rfl
      | some failure =>
        rw [Option.map_some, Option.map_some, Option.toList_some, List.filterMap_cons,
          datasetMessage?_datasetMessage]
        by_cases heq : p = plot
        · rw [if_pos heq, if_pos ⟨heq, rfl⟩]
          rfl
        · rw [if_neg heq, if_neg (fun h => heq h.1)]
          rfl
  | options generation => exact hdocument (b.ending? (.options generation))
  | model generation => exact hdocument (b.ending? (.model generation))

/-- **Every step shows in the toast the failures that it reports**, and no others. -/
theorem shown_step (b : Board) (plot : PlotId) (step : Step) :
    (b.toastOps step).filterMap (Toast.Op.datasetMessage? plot) =
      (b.failures plot step).map (datasetMessage plot) := by
  cases step with
  | settle index =>
    simp only [toastOps, failures]
    cases htask : b.waiting[index]? with
    | none => rfl
    | some task => exact shown_says? b plot task
  | _ => rfl

/-! ## Runs -/

/-- **A run warns of the failures that it reports**, in order, and of no others. -/
theorem warned_run (b : Board) (plot : PlotId) (steps : List Step) :
    Warned plot (b.record (fun b step => b.failures plot step) steps) b (b.run steps) := by
  induction steps generalizing b with
  | nil => exact mute_of_eq rfl
  | cons step rest ih => exact (warned_step b plot step).trans (ih (b.step step).1)

/-- **A run shows the failures that it reports**, in order, and no others. -/
theorem shown_run (b : Board) (plot : PlotId) (steps : List Step) :
    (b.toastHistory steps).filterMap (Toast.Op.datasetMessage? plot) =
      (b.record (fun b step => b.failures plot step) steps).map (datasetMessage plot) := by
  induction steps generalizing b with
  | nil => rfl
  | cons step rest ih =>
    rw [toastHistory, record, List.filterMap_append, List.map_append, shown_step, ih]

theorem mute_mountDashboard (b : Board) (plot : PlotId) (tab : Tab) :
    Mute plot b (b.mountDashboard tab false) := by
  have hbrowser : Mute plot b (b.listen.mountBrowser tab) := mute_of_eq rfl
  exact hbrowser.trans ((turnover_mute plot).setPlots _ .initial)

/-- To mount a part warns of nothing. -/
theorem mute_mount (b : Board) (plot : PlotId) (part : Part) (tab : Tab) :
    Mute plot b (b.mount part tab false) := by
  cases part with
  | browser => exact mute_of_eq rfl
  | widget id canRemove => exact (turnover_mute plot).mount b _
  | plots => exact (turnover_mute plot).setPlots b _
  | dashboard => exact mute_mountDashboard b plot tab
  | page path =>
    have hlog : Mute plot b
        (b.log ⟨.info, "dashboard starting against " ++ b.settings.apiBase⟩) := by
      refine mute_emit b fun e he => ?_
      rw [List.mem_singleton.mp he]
      intro hlevel
      cases hlevel
    unfold Board.mount
    dsimp only
    split
    · exact hlog.trans (mute_mountDashboard _ plot tab)
    · exact hlog
  | _ => exact mute_of_eq rfl

theorem toast_mount (b : Board) (part : Part) (tab : Tab) :
    (b.mount part tab false).toast = b.toast := by
  rcases reported_mount b part tab with h | h
  · exact h.toast
  · exact h.toast

end Board

end ResultsBoard
