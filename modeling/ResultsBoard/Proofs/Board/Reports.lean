import Mathlib.Data.List.Perm.Basic
import ResultsBoard.Proofs.Board.Happening

/-!
# Reports of the metadata browser

Each of the two fetches of a load fails or brings its document. A failure is reported (`report`)
once in the log and once in the toast if its load is the latest one and the browser is still
mounted. Otherwise the end of the fetch goes unnoticed.

* `Gated.reported`: the end of one fetch.
* `reported_step`, `reported_run`: every step is reported as what it is for the loads, and so is
  every run.
* `numbered_chronicle`: loads are numbered as they begin, so that fewer than `2 ^ 64` of them are
  told apart.
* `ReportLaw`, `report_law`: the warnings and the messages since mounting are those of the failures
  that count, in the order in which their fetches have ended.
-/

namespace ResultsBoard

open Fetch Metadata
open Metadata.Browser (Half)

namespace Board

variable {b b' b'' : Board}

/-! ## Fetches -/

/-- The board after a fetch has been carried out, before its result is delivered. -/
def fetched {α : Type} (b : Board) (resource : Resource) (run : Run α) : Board :=
  { b with server := b.server.spend resource run.used }.emit (run.events.map .ofEvent)

theorem aside_fetched {α : Type} (b : Board) (resource : Resource) (run : Run α)
    (h : ∀ event ∈ run.events, (Effect.ofEvent event).Plain) :
    Aside b (b.fetched resource run) := by
  refine .of_effects (run.events.map .ofEvent) rfl (documentWarnings_of_plain fun e he => ?_)
    rfl rfl rfl
  obtain ⟨event, hevent, rfl⟩ := List.mem_map.mp he
  exact h event hevent

/-- One of the `apply` operations of the metadata browser with the generation of a load: it stores
results for that load only. -/
structure Gated {α : Type} (generation : UInt64)
    (apply : Browser → Except Failure α → Browser × Bool) : Prop where
  stored : ∀ browser result, browser.generation = generation →
    (apply browser result).1.generation = generation ∧ (apply browser result).2 = true
  dropped : ∀ browser result, browser.generation ≠ generation →
    apply browser result = (browser, false)

theorem gated_applyOptions (generation : UInt64) :
    Gated generation fun browser => browser.applyOptions generation where
  stored browser result hsame := by simp [Browser.applyOptions, hsame]
  dropped browser result hother := by simp [Browser.applyOptions, Ne.symm hother]

theorem gated_applyModel (generation : UInt64) :
    Gated generation fun browser => browser.applyModel generation where
  stored browser result hsame := by simp [Browser.applyModel, hsame]
  dropped browser result hother := by simp [Browser.applyModel, Ne.symm hother]

variable {α : Type} {generation : UInt64} {apply : Browser → Except Failure α → Browser × Bool}

/-- A result of another load than the latest one, or one that arrives after unmounting, is dropped:
nothing changes. -/
theorem Gated.unnoticed (h : Gated generation apply) (hother : b.latest ≠ some generation)
    (name : String) (result : Except Failure α) : b.deliverDocument name result apply = b := by
  unfold deliverDocument
  split
  · rfl
  · rename_i browser hbrowser
    have hne : browser.generation ≠ generation := fun heq => hother (by
      unfold latest
      rw [hbrowser, ← heq]
      rfl)
    rw [h.dropped browser result hne]
    show { b with browser := some browser } = b
    rw [← hbrowser]

/-- A result of the latest load is stored. -/
theorem Gated.noticed (h : Gated generation apply) (hlatest : b.latest = some generation)
    (name : String) (result : Except Failure α) :
    ∃ browser : Browser, browser.generation = generation ∧ b.deliverDocument name result apply =
      match result with
      | .ok _ => { b with browser := some browser }
      | .error failure => { b with browser := some browser }.reportDocument name failure := by
  obtain ⟨browser, hbrowser, hsame⟩ := Option.map_eq_some_iff.mp hlatest
  obtain ⟨hgeneration, hstored⟩ := h.stored browser result hsame
  refine ⟨(apply browser result).1, hgeneration, ?_⟩
  unfold deliverDocument
  rw [hbrowser]
  dsimp only
  rw [hstored]
  cases result <;> rfl

theorem documentMessages_countedMessage? (b : Board) (h : Happening) :
    ((b.countedMessage? h).map (Toast.Op.display 0)).toList.filterMap Toast.Op.documentMessage? =
      (Happening.counted b.latest [h]).map fun failed => failed.1.message failed.2 := by
  rw [Happening.counted_singleton]
  unfold countedMessage?
  cases h.counted? b.latest with
  | none => rfl
  | some failed => simp [documentMessage?_message]

/-- A failure counts if its load is the latest one. -/
theorem counted?_of_latest {latest : Option UInt64} {generation : UInt64}
    (h : latest = some generation) (half : Half) (failure : Failure) :
    (Happening.ended half generation (some failure)).counted? latest = some (half, failure) :=
  if_pos h

/-- No other failure counts. -/
theorem counted?_of_other {latest : Option UInt64} {generation : UInt64}
    (h : latest ≠ some generation) (half : Half) (failure? : Option Failure) :
    (Happening.ended half generation failure?).counted? latest = none := by
  cases failure? with
  | none => rfl
  | some failure => exact if_neg h

/-- To report a document is to warn about it once. -/
theorem documentWarnings_reportDocument (b : Board) (half : Half) (failure : Failure) :
    Effect.documentWarnings (b.reportDocument half.name failure).effects =
      Effect.documentWarnings b.effects ++ [half.warning failure] := by
  have hline : Effect.documentWarnings [.logged (.warn (half.warning failure))] =
      [half.warning failure] := by
    unfold Effect.documentWarnings
    rw [List.filterMap_cons, documentWarning?_warning, List.filterMap_nil]
  show Effect.documentWarnings (b.effects ++ [.logged (.warn (half.warning failure))]) = _
  rw [documentWarnings_append, hline]

/-- **The end of a fetch of a document is reported if it is a failure that counts.** The fetch is
taken off the list and carried out, and then its result is delivered. -/
theorem Gated.reported (h : Gated generation apply) {waiting : List Task} {half : Half}
    (htaken : b.underWay.Perm ((half, generation) :: { b with waiting }.underWay))
    (haside : Aside { b with waiting } b') (result : Except Failure α) :
    let ended : Happening := .ended half generation (State.ofResult result).failure?
    Reported b (b'.deliverDocument half.name result apply) [ended]
      ((b.countedMessage? ended).map (.display 0)).toList := by
  intro ended
  have hlatest : b'.latest = b.latest := haside.latest
  have htoast : b'.toast = b.toast := haside.toast
  have hwarned : Effect.documentWarnings b'.effects = Effect.documentWarnings b.effects :=
    haside.warned.trans (List.append_nil _)
  have hfetches : (Happening.finished [ended] ++ b'.underWay).Perm
      (b.underWay ++ Happening.started [ended]) := by
    have hrest : b'.underWay.Perm { b with waiting }.underWay := by
      have hperm := haside.fetches
      rwa [show Happening.started [] = [] from rfl, List.append_nil] at hperm
    rw [show Happening.started [ended] = [] from rfl, List.append_nil]
    exact (hrest.cons (half, generation)).trans htaken.symm
  have hshown := documentMessages_countedMessage? b ended
  by_cases hg : b.latest = some generation
  · obtain ⟨browser, hgeneration, heq⟩ := h.noticed (hlatest.trans hg) half.name result
    have hkept : some browser.generation = b.latest := by rw [hg, hgeneration]
    rw [heq]
    cases result with
    | ok value =>
      refine ⟨hkept, hfetches, ?_, htoast, hshown⟩
      exact hwarned.trans (List.append_nil _).symm
    | error failure =>
      have hcounted : ended.counted? b.latest = some (half, failure) :=
        counted?_of_latest hg half failure
      refine ⟨hkept, hfetches, ?_, ?_, hshown⟩
      · rw [Happening.counted_singleton, hcounted]
        dsimp only
        rw [documentWarnings_reportDocument, hwarned]
        rfl
      · unfold countedMessage?
        rw [hcounted]
        exact congrArg (fun t : Toast => t.display (half.message failure)) htoast
  · rw [h.unnoticed (fun heq => hg (hlatest.symm.trans heq))]
    have hcounted : ended.counted? b.latest = none := counted?_of_other hg half _
    refine ⟨hlatest, hfetches, ?_, ?_, hshown⟩
    · rw [Happening.counted_singleton, hcounted]
      exact hwarned.trans (List.append_nil _).symm
    · unfold countedMessage?
      rw [hcounted]
      exact htoast

/-- The failure of a dataset is reported, but not as one of a document. -/
theorem reported_dataset (b : Board) (plot : PlotId) (failure : Failure) :
    Reported b (b.report (datasetWarning plot failure) (datasetMessage plot failure)) []
      [.display 0 (datasetMessage plot failure)] where
  latest := rfl
  fetches := (Aside.refl b).fetches
  warned := by
    show Effect.documentWarnings (b.effects ++ [_]) = _
    rw [documentWarnings_append]
    simp only [Effect.documentWarnings, List.filterMap_cons, List.filterMap_nil,
      documentWarning?_datasetWarning]
    rfl
  toast := rfl
  shown := by
    simp only [List.filterMap_cons, List.filterMap_nil, documentMessage?_datasetMessage]
    rfl

theorem reported_deliverDataset (b : Board) (token : Nat) (plot : PlotId)
    (result : Except Failure Series.Dataset) :
    Reported b (b.deliverDataset token plot result) []
      ((if (b.widget? token).isSome then
        (State.ofResult result).failure?.map (datasetMessage plot) else none).map
          (.display 0)).toList := by
  unfold deliverDataset
  cases b.widget? token with
  | none => exact aside_debug b _
  | some w =>
    have hset : Aside b (b.modify token fun w => w.setDataset b.container (.ofResult result)) :=
      aside_modify b token _
    cases result with
    | ok dataset => exact hset
    | error failure => exact Reported.trans hset (reported_dataset _ plot failure)

/-- The task that is taken off the list is one of those under way. -/
theorem underWay_erase {index : Nat} {task : Task} (h : b.waiting[index]? = some task) :
    b.underWay.Perm (task.document?.toList ++
      { b with waiting := b.waiting.eraseIdx index }.underWay) := by
  obtain ⟨hlt, rfl⟩ := List.getElem?_eq_some_iff.mp h
  have hperm := (List.getElem_cons_eraseIdx_perm hlt).symm.filterMap Task.document?
  rw [List.filterMap_cons] at hperm
  cases hdocument : b.waiting[index].document? with
  | none =>
    rw [hdocument] at hperm
    exact hperm
  | some fetch =>
    rw [hdocument] at hperm
    exact hperm

/-- The end of a fetch, when it has been taken off the list. -/
theorem reported_complete {waiting : List Task} {task : Task}
    (htaken : b.underWay.Perm (task.document?.toList ++ { b with waiting }.underWay)) :
    Reported b ({ b with waiting }.complete task) (b.ending? task).toList
      ((b.says? task).map (.display 0)).toList := by
  cases task with
  | dataset token plot =>
    have htake : Aside b { b with waiting } := by
      refine ⟨rfl, ?_, (Aside.refl b).warned, rfl, rfl⟩
      rw [show Happening.started [] = [] from rfl, List.append_nil]
      exact htaken.symm
    have hplain := plain_get b.settings .data (b.server.ahead .data)
    have hfetch := htake.trans (aside_fetched _ .data
      (Series.fetchDataset b.settings (b.server.ahead .data)) hplain)
    exact Reported.trans hfetch (reported_deliverDataset _ token plot _)
  | options generation =>
    have hplain := plain_get b.settings .options (b.server.ahead .options)
    exact (gated_applyOptions generation).reported htaken (aside_fetched _ .options
      (fetchOptions b.settings (b.server.ahead .options)) hplain) _
  | model generation =>
    have hplain := plain_get b.settings .model (b.server.ahead .model)
    exact (gated_applyModel generation).reported htaken (aside_fetched _ .model
      (fetchModel b.settings (b.server.ahead .model)) hplain) _

theorem reported_settle (b : Board) (index : Nat) :
    Reported b (b.settle index).1 (b.happening? (.settle index)).toList
      (b.toastOps (.settle index)) := by
  unfold settle
  simp only [happening?, toastOps]
  cases htask : b.waiting[index]? with
  | none => exact Aside.refl b
  | some task => exact reported_complete (underWay_erase htask)

/-! ## Loads and unmounting -/

theorem reported_retry_metadata (b : Board) :
    Reported b (b.retry .metadata).1
      (b.browser.map fun browser => .began browser.beginLoading.generation).toList [] := by
  unfold retry
  dsimp only
  cases hbrowser : b.browser with
  | none => exact Aside.refl b
  | some browser =>
    refine ⟨rfl, ?_, (List.append_nil _).symm, rfl, rfl⟩
    refine .of_eq ?_
    show (b.waiting ++ [_] ++ [_]).filterMap Task.document? = _
    rw [List.append_assoc, List.filterMap_append]
    rfl

theorem reported_unmount (b : Board) : Reported b b.unmount [.unmounted] [] := by
  have h := traffic_aside.unmountAll b b.widgets
  exact ⟨rfl, h.fetches, h.warned, h.toast, rfl⟩

theorem reported_retry (b : Board) (index : Nat) :
    Reported b (b.step (.retry index)).1 (b.happening? (.retry index)).toList [] := by
  simp only [step, happening?]
  cases b.loads[index]? with
  | none => exact Aside.refl b
  | some load =>
    cases load with
    | metadata => exact reported_retry_metadata b
    | plot token => exact aside_retry_plot b token

/-! ## Steps and runs -/

/-- **Every step reports what it is for the loads.** -/
theorem reported_step (b : Board) (step : Step) :
    Reported b (b.step step).1 (b.happening? step).toList (b.toastOps step) := by
  cases step with
  | settle index => exact reported_settle b index
  | advance milliseconds =>
    have h := Aside.refl b
    exact ⟨rfl, h.fetches, h.warned, rfl, rfl⟩
  | retry index => exact reported_retry b index
  | selectTab index =>
    unfold Board.step
    dsimp only
    split
    · exact Aside.refl b
    · exact aside_selectTab b _
  | addPlot => exact aside_addPlot b
  | removePlot id => exact aside_removePlot b id
  | unmount => exact reported_unmount b
  | _ => exact upkeep_aside.step b rfl

theorem reported_run (b : Board) (steps : List Step) :
    Reported b (b.run steps) (b.happenings steps) (b.toastHistory steps) := by
  induction steps generalizing b with
  | nil => exact Aside.refl b
  | cons step rest ih => exact (reported_step b step).trans (ih (b.step step).1)

/-- A fetch whose result does not count ends unnoticed. -/
theorem settle_unnoticed {index : Nat} {half : Half} {generation : UInt64}
    {failure? : Option Failure}
    (hended : b.happening? (.settle index) = some (.ended half generation failure?))
    (hother : b.latest ≠ some generation) :
    (b.settle index).1.browser = b.browser ∧ (b.settle index).1.toast = b.toast := by
  unfold settle
  obtain ⟨task, htask, hending⟩ := Option.bind_eq_some_iff.mp hended
  rw [htask]
  let taken : Board := { b with waiting := b.waiting.eraseIdx index }
  cases task with
  | dataset token plot => cases hending
  | options g =>
    cases hending
    let run := fetchOptions b.settings (b.server.ahead .options)
    have heq := (gated_applyOptions g).unnoticed (b := taken.fetched .options run) hother
      Half.options.name run.result
    have hbrowser := congrArg Board.browser heq
    have htoast := congrArg Board.toast heq
    exact ⟨hbrowser, htoast⟩
  | model g =>
    cases hending
    let run := fetchModel b.settings (b.server.ahead .model)
    have heq := (gated_applyModel g).unnoticed (b := taken.fetched .model run) hother
      Half.model.name run.result
    have hbrowser := congrArg Board.browser heq
    have htoast := congrArg Board.toast heq
    exact ⟨hbrowser, htoast⟩

/-! ## Numbers of loads -/

/-- Only to try again begins a load, and its generation is the next one. -/
theorem next_of_began {step : Step} {generation : UInt64}
    (h : b.happening? step = some (.began generation)) :
    ∃ previous, b.latest = some previous ∧ generation = previous + 1 := by
  cases step with
  | settle index =>
    obtain ⟨task, -, hending⟩ := Option.bind_eq_some_iff.mp h
    obtain ⟨fetch, -, hended⟩ := Option.map_eq_some_iff.mp hending
    cases hended
  | retry index =>
    simp only [happening?] at h
    split at h
    · obtain ⟨browser, hbrowser, hbegan⟩ := Option.map_eq_some_iff.mp h
      cases hbegan
      refine ⟨browser.generation, ?_, rfl⟩
      unfold latest
      rw [hbrowser]
      rfl
    · cases h
  | unmount => cases h
  | _ => cases h

/-! ## Mounting -/

theorem reported_mountBrowser (b : Board) (tab : Tab) :
    Reported b (b.mountBrowser tab) [.began 1] [] := by
  refine ⟨rfl, .of_eq ?_, (List.append_nil _).symm, rfl, rfl⟩
  show (b.waiting ++ [_] ++ [_]).filterMap Task.document? = _
  rw [List.append_assoc, List.filterMap_append]
  rfl

theorem reported_mountDashboard (b : Board) (tab : Tab) :
    Reported b (b.mountDashboard tab false) [.began 1] [] := by
  have hlisten : Aside b b.listen := .of_eq rfl rfl rfl rfl
  have hbrowser := Reported.trans hlisten (reported_mountBrowser b.listen tab)
  exact hbrowser.trans (aside_setPlots _ .initial)

/-- To mount a part begins the first load if there is a metadata browser in it. -/
theorem reported_mount (b : Board) (part : Part) (tab : Tab) :
    Aside b (b.mount part tab false) ∨ Reported b (b.mount part tab false) [.began 1] [] := by
  cases part with
  | browser => exact .inr (reported_mountBrowser b tab)
  | widget id canRemove => exact .inl (aside_mountWidget b _)
  | plots => exact .inl (aside_setPlots b .initial)
  | dashboard => exact .inr (reported_mountDashboard b tab)
  | page path =>
    have hlog : Aside b (b.log ⟨.info, "dashboard starting against " ++ b.settings.apiBase⟩) := by
      refine aside_emit b fun e he => ?_
      rw [List.mem_singleton.mp he]
      intro hlevel
      cases hlevel
    unfold Board.mount
    dsimp only
    split
    · exact .inr (Reported.trans hlog (reported_mountDashboard _ tab))
    · exact .inl hlog
  | _ => exact .inl (.refl b)

/-- What has happened to the loads since the mounting of the board, with the load that it has
begun. -/
def chronicle (start : Board) (steps : List Step) : List Happening :=
  (start.latest.map .began).toList ++ start.happenings steps

theorem happenings_concat (b : Board) (steps : List Step) (step : Step) :
    b.happenings (steps ++ [step]) =
      b.happenings steps ++ ((b.run steps).happening? step).toList := by
  induction steps generalizing b with
  | nil => exact List.append_nil _
  | cons first rest ih =>
    simp only [List.cons_append, happenings, List.append_assoc]
    rw [ih]
    rfl

theorem chronicle_concat (start : Board) (steps : List Step) (step : Step) :
    start.chronicle (steps ++ [step]) =
      start.chronicle steps ++ ((start.run steps).happening? step).toList := by
  unfold chronicle
  rw [happenings_concat, List.append_assoc]

/-- Mounting and all that comes after it is reported. -/
theorem reported_chronicle (hnone : b.latest = none) (part : Part) (tab : Tab)
    (steps : List Step) :
    let start := b.mount part tab false
    Reported b (start.run steps) (start.chronicle steps) (start.toastHistory steps) := by
  intro start
  have hrun := reported_run start steps
  unfold chronicle
  rcases reported_mount b part tab with hmount | hmount
  · have hlatest : start.latest = none := hmount.latest.trans hnone
    rw [hlatest]
    exact Reported.trans hmount hrun
  · have hlatest : start.latest = some 1 := hmount.latest
    rw [hlatest]
    exact hmount.trans hrun

theorem numbered_chronicle (hnone : b.latest = none) (part : Part) (tab : Tab)
    (steps : List Step) : Happening.Numbered ((b.mount part tab false).chronicle steps) := by
  induction steps using List.reverseRecOn with
  | nil =>
    unfold chronicle
    rcases reported_mount b part tab with hmount | hmount
    · have hlatest : (b.mount part tab false).latest = none := hmount.latest.trans hnone
      rw [hlatest]
      exact ⟨rfl, fun _ hmem => nomatch hmem⟩
    · have hlatest : (b.mount part tab false).latest = some 1 := hmount.latest
      rw [hlatest]
      exact ⟨rfl, fun _ hmem => (Option.some.inj hmem).symm⟩
  | append_singleton steps step ih =>
    rw [chronicle_concat]
    have hlatest := (reported_chronicle hnone part tab steps).latest
    rw [hnone] at hlatest
    cases hstep : ((b.mount part tab false).run steps).happening? step with
    | none =>
      rw [show Option.toList none = [] from rfl, List.append_nil]
      exact ih
    | some last =>
      refine ih.concat fun generation hbegan => ?_
      obtain ⟨previous, hprevious, hnext⟩ := next_of_began (hbegan ▸ hstep)
      exact ⟨previous, hlatest ▸ hprevious, hnext⟩

/-! ## The law -/

/-- **What is reported of the metadata browser** in the course of some steps, when `start` is the
board `b` with a part mounted on it. -/
structure ReportLaw (b start : Board) (steps : List Step) : Prop where
  /-- The loads are numbered as they begin, -/
  numbered : Happening.Numbered (start.chronicle steps)
  /-- so that they are told apart, -/
  distinct : (Happening.begun (start.chronicle steps)).length < UInt64.size →
    (Happening.begun (start.chronicle steps)).Nodup
  /-- and the browser knows the latest one until it is unmounted. -/
  latest : (start.run steps).latest = Happening.latestAfter none (start.chronicle steps)
  /-- Every load starts two fetches, and each of them ends once or is still under way. -/
  fetches : (Happening.finished (start.chronicle steps) ++ (start.run steps).underWay).Perm
    (Happening.started (start.chronicle steps))
  /-- There is one warning for each failure that counts, in the order in which the fetches have
  ended. -/
  warned : Effect.documentWarnings (start.run steps).effects =
    Effect.documentWarnings b.effects ++
      (Happening.counted none (start.chronicle steps)).map fun failed => failed.1.warning failed.2
  /-- All that has been done to the toast is known, -/
  toast : (start.run steps).toast = (start.toastHistory steps).foldl Toast.Op.act b.toast
  /-- and among it is one message for each failure that counts, in the same order. -/
  shown : (start.toastHistory steps).filterMap Toast.Op.documentMessage? =
    (Happening.counted none (start.chronicle steps)).map fun failed => failed.1.message failed.2
  /-- A fetch of another load than the latest one, or one that ends after unmounting, leaves the
  browser, the log and the toast alone. -/
  unnoticed : ∀ before step half generation failure?, before ++ [step] <+: steps →
    (start.run before).happening? step = some (.ended half generation failure?) →
    Happening.latestAfter none (start.chronicle before) ≠ some generation →
      (start.run (before ++ [step])).browser = (start.run before).browser ∧
      (start.run (before ++ [step])).toast = (start.run before).toast ∧
      Effect.documentWarnings (start.run (before ++ [step])).effects =
        Effect.documentWarnings (start.run before).effects

/-- Only the end of a fetch is the end of a fetch. -/
theorem settle_of_ended {step : Step} {half : Half} {generation : UInt64}
    {failure? : Option Failure}
    (h : b.happening? step = some (.ended half generation failure?)) :
    ∃ index, step = .settle index := by
  cases step with
  | settle index => exact ⟨index, rfl⟩
  | retry index =>
    simp only [happening?] at h
    split at h
    · obtain ⟨browser, -, hbegan⟩ := Option.map_eq_some_iff.mp h
      cases hbegan
    · cases h
  | unmount => cases h
  | _ => cases h

/-- **Failures of the metadata documents are reported exactly if they count.** Any part is mounted
on a board, and anything may happen to it. -/
theorem report_law {b : Board} (hfresh : b.Fresh) (hnone : b.browser = none) (part : Part)
    (tab : Tab) (steps : List Step) : ReportLaw b (b.mount part tab false) steps := by
  have hlatest : b.latest = none := by
    unfold latest
    rw [hnone]
    rfl
  have hunderWay : b.underWay = [] := by
    unfold underWay
    rw [hfresh.waiting]
    rfl
  have hreported := reported_chronicle hlatest part tab
  obtain ⟨hcurrent, hfetches, hwarned, htoast, hshown⟩ := hreported steps
  rw [hlatest] at hcurrent hwarned hshown
  rw [hunderWay] at hfetches
  have hnumbered := numbered_chronicle hlatest part tab steps
  refine ⟨hnumbered, hnumbered.nodup, hcurrent, hfetches, hwarned, htoast, hshown, ?_⟩
  intro before step half generation failure? _ hended hother
  obtain ⟨index, rfl⟩ := settle_of_ended hended
  have hbefore := (hreported before).latest
  rw [hlatest] at hbefore
  rw [← hbefore] at hother
  rw [run_append]
  obtain ⟨hbrowser, htoast⟩ := settle_unnoticed hended hother
  refine ⟨hbrowser, htoast, ?_⟩
  have hwarned := (reported_step ((b.mount part tab false).run before) (.settle index)).warned
  rw [hended, Option.toList_some, Happening.counted_singleton, counted?_of_other hother] at hwarned
  exact hwarned.trans (List.append_nil _)

/-- A server that has none of the documents. -/
def refusing : Server := { answers := fun _ _ => .response 404 "Not Found" "" }

theorem get_refusing (s : Settings) (resource : Resource) (count : Nat) :
    (Fetch.get s resource fun i => refusing.answers resource (count + i)).result =
      .error (.status 404 "Not Found") := by
  unfold Fetch.get
  rw [attempts]
  rfl

theorem failure?_refusing (h : b.server.answers = refusing.answers) (half : Half) :
    b.failure? half = some (.status 404 "Not Found") := by
  cases half with
  | options =>
    unfold failure? fetchOptions Run.decode Server.ahead
    rw [h, get_refusing]
    rfl
  | model =>
    unfold failure? fetchModel Run.decode Server.ahead
    rw [h, get_refusing]
    rfl

/-- The documents are loaded again while the first load is under way. The options documents of both
loads cannot be fetched. -/
theorem report_law_overlapping :
    let missing : Failure := .status 404 "Not Found"
    let start := (empty .default refusing).mount .dashboard .model false
    let steps : List Step := [.retry 0, .settle 0, .settle 2]
    ReportLaw (empty .default refusing) start steps ∧
      start.chronicle steps = [.began 1, .began 2, .ended .options 1 (some missing),
        .ended .options 2 (some missing)] ∧
      Happening.counted none (start.chronicle steps) = [(.options, missing)] := by
  intro missing start steps
  have hchronicle : start.chronicle steps = [.began 1, .began 2,
      .ended .options 1 ((start.run [.retry 0]).failure? .options),
      .ended .options 2 ((start.run [.retry 0, .settle 0]).failure? .options)] := rfl
  rw [failure?_refusing rfl, failure?_refusing rfl] at hchronicle
  refine ⟨report_law ⟨⟨rfl, rfl⟩, rfl, rfl⟩ rfl .dashboard .model steps, hchronicle, ?_⟩
  rw [hchronicle]
  rfl

end Board

end ResultsBoard
