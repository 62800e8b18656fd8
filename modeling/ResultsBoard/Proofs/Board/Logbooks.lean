import ResultsBoard.Proofs.Board.Flights

/-!
# Logbooks along a run

Widgets come and go while fetches are under way, their own and those of others. Along every run the
logbook of each mounted widget stays right, as long as it is loaded again only after a failure.

* `Elder`, `Young`: mounting and unmounting leave alone the widgets that stay, and start one fetch
  for each that comes (`turnover_elder`, `turnover_young`).
* `logbook_step`: a step keeps the logbook of a widget right.
* `Tracked`: the logbooks of all mounted widgets are right. `Fresh.tracked`: they are after every
  run.
-/

namespace ResultsBoard.Board

open Metadata

variable {b b' : Board} {p : Plots} {w : Widget} {token : Nat}

/-- The dataset of a widget is loaded again only after a failure, whose notice has the button for
it. -/
def Patient (start : Board) (token : Nat) (steps : List Step) : Prop :=
  ∀ before index, before ++ [.retry index] <+: steps →
    (start.run before).loads[index]? = some (.plot token) →
      ∀ w ∈ (start.run before).widgets, w.token = token → ∃ failure, w.dataset = .failed failure

/-! ## Mounting and unmounting -/

/-- **A widget with an old token is left alone** as long as it stays. -/
def Elder (token : Nat) (b b' : Board) : Prop :=
  token < b.hub.nextToken → token < b'.hub.nextToken ∧ b'.inFlight token = b.inFlight token ∧
    ∀ w ∈ b'.widgets, w.token = token → w ∈ b.widgets

/-- **A widget with a new token is loading**: one fetch is under way for it, and none if it is not
there yet. -/
structure Young (b : Board) (token : Nat) : Prop where
  unborn : b.hub.nextToken ≤ token → b.inFlight token = 0
  born : ∀ w ∈ b.widgets, w.token = token →
    token < b.hub.nextToken ∧ w.dataset = .loading ∧ b.inFlight token = 1

theorem inFlight_mountWidget (b : Board) (entry : PlotEntry) (token : Nat) :
    (b.mountWidget entry).inFlight token =
      b.inFlight token + if b.hub.nextToken = token then 1 else 0 := by
  show (b.waiting ++ [Task.dataset b.hub.nextToken entry.id]).countP _ = _
  rw [List.countP_append, List.countP_singleton]
  simp only [Task.isFor, decide_eq_true_eq]
  rfl

theorem elder_mountWidget (b : Board) (entry : PlotEntry) :
    Elder token b (b.mountWidget entry) := by
  intro hold
  refine ⟨Nat.lt_succ_of_lt hold, ?_, fun w hw htoken => ?_⟩
  · rw [inFlight_mountWidget, if_neg (Nat.ne_of_gt hold), Nat.add_zero]
  · rcases mem_mountWidget hw with hmem | rfl
    · exact hmem
    · exact absurd htoken (Nat.ne_of_gt hold)

/-- **Old widgets are left alone**, whatever is mounted or unmounted. -/
theorem turnover_elder (token : Nat) : Turnover (Elder token) where
  refl _ hold := ⟨hold, rfl, fun _ hw _ => hw⟩
  trans h h' hold := by
    obtain ⟨hmiddle, hcount, hstays⟩ := h hold
    obtain ⟨hlast, hcount', hstays'⟩ := h' hmiddle
    exact ⟨hlast, hcount'.trans hcount, fun w hw htoken => hstays w (hstays' w hw htoken) htoken⟩
  mount := elder_mountWidget
  unmount _ _ hold := ⟨hold, rfl, fun _ hw _ => List.mem_of_mem_filter hw⟩
  emit _ _ _ hold := ⟨hold, rfl, fun _ hw _ => hw⟩
  update _ _ _ hold := ⟨hold, rfl, fun _ hw _ => hw⟩
  clear _ hold := ⟨hold, rfl, fun _ hw _ => hw⟩

theorem Young.mountWidget (h : b.Young token) (entry : PlotEntry) :
    (b.mountWidget entry).Young token where
  unborn hnew := by
    have hlt : b.hub.nextToken < token := hnew
    rw [inFlight_mountWidget, if_neg (Nat.ne_of_lt hlt), h.unborn (Nat.le_of_lt hlt)]
  born w hw htoken := by
    rw [inFlight_mountWidget]
    rcases mem_mountWidget hw with hmem | rfl
    · obtain ⟨hlt, hloading, hone⟩ := h.born w hmem htoken
      rw [if_neg (Nat.ne_of_gt hlt)]
      exact ⟨Nat.lt_succ_of_lt hlt, hloading, hone⟩
    · subst htoken
      rw [if_pos rfl, h.unborn (Nat.le_refl _)]
      exact ⟨Nat.lt_succ_self _, rfl, rfl⟩

/-- A change elsewhere. -/
theorem Young.of_eq (h : b.Young token) (hhub : b'.hub = b.hub) (hwidgets : b'.widgets = b.widgets)
    (hinFlight : b'.inFlight token = b.inFlight token) : b'.Young token where
  unborn := by
    rw [hhub, hinFlight]
    exact h.unborn
  born := by
    rw [hhub, hwidgets, hinFlight]
    exact h.born

/-- **New widgets are loading.** -/
theorem turnover_young (token : Nat) : Turnover fun b b' => b.Young token → b'.Young token where
  refl _ h := h
  trans h h' hb := h' (h hb)
  mount _ entry h := h.mountWidget entry
  unmount _ _ h := ⟨h.unborn, fun v hv => h.born v (List.mem_of_mem_filter hv)⟩
  emit _ _ _ h := h.of_eq rfl rfl rfl
  update _ _ _ h := h.of_eq rfl rfl rfl
  clear _ h := h.of_eq rfl rfl rfl

theorem Young.setPlots (h : b.Young token) (p : Plots) : (b.setPlots p).Young token :=
  (turnover_young token).setPlots b p h

/-! ## Runs -/

theorem turnover_later : Turnover fun b b' => b.hub.Later b'.hub where
  refl _ := .refl _
  trans := .trans
  mount b entry := (moved_mountWidget b entry).hub
  unmount b w := (moved_unmountWidget b w).hub
  emit _ _ _ := .refl _
  update _ _ _ := .refl _
  clear _ := .refl _

/-- Tokens that are no longer in use do not come back. -/
theorem later_step (b : Board) (step : Step) : b.hub.Later (b.step step).1.hub := by
  cases hmoves : step.moves with
  | false =>
    rw [(still_step b hmoves).hub]
    exact .refl _
  | true => exact turnover_later.step b hmoves

theorem later_run (b : Board) (steps : List Step) : b.hub.Later (b.run steps).hub :=
  foldl_rel (R := fun b b' : Board => b.hub.Later b'.hub) (fun b => .refl b.hub) .trans later_step
    steps b

theorem turnover_synced : Turnover fun b b' => b.Synced → b'.Synced where
  toTraffic := traffic_synced
  emit _ _ _ h := ⟨h.ordered, h.subscribers⟩
  update _ _ _ h := ⟨h.ordered, h.subscribers⟩
  clear _ h := ⟨h.ordered, h.subscribers⟩

/-- Every step keeps widgets and subscriptions in line. -/
theorem Synced.step (h : b.Synced) (step : Step) : (b.step step).1.Synced := by
  cases hmoves : step.moves with
  | false => exact h.of_still (still_step b hmoves)
  | true => exact turnover_synced.step b hmoves h

/-- Whatever mounts or unmounts is a flight of the widgets that come. -/
theorem flight?_of_moves {step : Step} (hmoves : step.moves = true) : b.flight? token step =
    if (b.widget? token).isNone ∧ ((b.step step).1.widget? token).isSome then some .mounted
    else none := by
  cases step with
  | addPlot => rfl
  | removePlot id => rfl
  | unmount => rfl
  | _ => cases hmoves

/-- Only to load a dataset again is to load it again. -/
theorem retry_of_retried {step : Step} (h : b.flight? token step = some .retried) :
    ∃ index, step = .retry index ∧ b.loads[index]? = some (.plot token) := by
  cases step with
  | settle index =>
    simp only [flight?] at h
    split at h <;> cases h
  | retry index =>
    simp only [flight?] at h
    split at h
    · rename_i hload
      exact ⟨index, rfl, hload.1⟩
    · cases h
  | _ =>
    simp only [flight?] at h
    split at h <;> cases h

theorem Synced.young (h : b.Synced) (hnew : b.hub.nextToken ≤ token)
    (hnone : b.inFlight token = 0) : b.Young token := by
  refine ⟨fun _ => hnone, fun w hw htoken => ?_⟩
  have hlt := h.lt_nextToken hw
  omega

/-- **Nothing happens to a widget that is not there yet.** -/
theorem Synced.unborn_step (h : b.Synced) (hnone : b.inFlight token = 0) {step : Step}
    (hnew : (b.step step).1.hub.nextToken ≤ token) :
    (b.step step).1.inFlight token = 0 ∧ b.flight? token step = none := by
  have hafter := (h.step step).widget?_eq_none hnew
  cases hmoves : step.moves with
  | false =>
    have hflown := flown_step b token hmoves
    generalize b.flight? token step = flight? at hflown
    cases hflown with
    | aside hcalm => exact ⟨hcalm.inFlight.trans hnone, rfl⟩
    | ended result _ hinFlight => omega
    | retried hdataset _ =>
      unfold dataset? at hdataset
      rw [hafter] at hdataset
      cases hdataset
  | true =>
    have hyoung := h.young (Nat.le_trans (later_step b step).counter hnew) hnone
    refine ⟨((turnover_young token).step b hmoves hyoung).unborn hnew, ?_⟩
    rw [flight?_of_moves hmoves, hafter, if_neg (fun hsome => Bool.false_ne_true hsome.2)]

/-- **A widget that comes with a step** is loading. -/
theorem Synced.newborn_step (h : b.Synced) {step : Step} (hw : w ∈ (b.step step).1.widgets)
    (hnew : b.hub.nextToken ≤ w.token) (hnone : b.inFlight w.token = 0) :
    b.flight? w.token step = some .mounted ∧ w.dataset = .loading ∧
      (b.step step).1.inFlight w.token = 1 := by
  have hbefore := h.widget?_eq_none hnew
  have hafter := (h.step step).widget?_eq hw
  cases hmoves : step.moves with
  | false =>
    have hlt := (h.step step).lt_nextToken hw
    rw [(still_step b hmoves).hub] at hlt
    omega
  | true =>
    have hyoung := h.young hnew hnone
    obtain ⟨-, hloading, hone⟩ := ((turnover_young w.token).step b hmoves hyoung).born w hw rfl
    refine ⟨?_, hloading, hone⟩
    rw [flight?_of_moves hmoves, hbefore, hafter]
    rfl

/-- **A step keeps the logbook of a widget right**, if the dataset is loaded again only after a
failure. -/
theorem logbook_step {v : Widget} {history : List Flight} {step : Step} (hb : b.Synced)
    (hv : v ∈ b.widgets) (h : Logbook history v.dataset (b.inFlight v.token))
    (hw : w ∈ (b.step step).1.widgets) (hsame : w.token = v.token)
    (hpatient : ∀ index, step = .retry index → b.loads[index]? = some (.plot v.token) →
      ∃ failure, v.dataset = .failed failure) :
    Logbook (history ++ (b.flight? v.token step).toList) w.dataset
      ((b.step step).1.inFlight v.token) := by
  have hbefore := hb.dataset?_eq hv
  have hafter := (hb.step step).dataset?_eq hw
  rw [hsame] at hafter
  cases hmoves : step.moves with
  | false =>
    have hflown := flown_step b v.token hmoves
    generalize hflight : b.flight? v.token step = flight? at hflown ⊢
    cases hflown with
    | aside hcalm =>
      have hdataset : w.dataset = v.dataset :=
        Option.some.inj (hafter.symm.trans (hcalm.dataset.trans hbefore))
      rw [hdataset, hcalm.inFlight]
      exact (List.append_nil history).symm ▸ h
    | ended result hdataset hinFlight =>
      -- A task was there to be taken off the list, so the logbook has one fetch under way.
      rw [hbefore] at hdataset
      rw [Option.some.inj (hafter.symm.trans hdataset)]
      rw [hinFlight] at h
      exact h.ended result
    | retried hdataset hinFlight =>
      obtain ⟨index, hretry, hload⟩ := retry_of_retried hflight
      obtain ⟨failure, hfailed⟩ := hpatient index hretry hload
      rw [hfailed] at h
      rw [Option.some.inj (hafter.symm.trans hdataset), hinFlight]
      exact h.retried
  | true =>
    obtain ⟨-, hinFlight, hstays⟩ := (turnover_elder v.token).step b hmoves (hb.lt_nextToken hv)
    obtain rfl : w = v := List.inj_on_of_nodup_map hb.nodup (hstays w hw hsame) hv hsame
    have hnone : b.flight? w.token step = none := by
      rw [flight?_of_moves hmoves, hb.widget?_eq hv, if_neg (fun hnew => Bool.false_ne_true hnew.1)]
    rw [hnone, hinFlight]
    exact (List.append_nil history).symm ▸ h

/-- **The logbooks of all widgets are right** after some steps. -/
structure Tracked (start : Board) (steps : List Step) : Prop where
  synced : (start.run steps).Synced
  unborn : ∀ token, (start.run steps).hub.nextToken ≤ token →
    (start.run steps).inFlight token = 0 ∧ start.flights token steps = []
  mounted : ∀ w ∈ (start.run steps).widgets, start.Patient w.token steps →
    Logbook (start.flights w.token steps) w.dataset ((start.run steps).inFlight w.token)

theorem Patient.of_append {start : Board} {first second : List Step}
    (h : start.Patient token (first ++ second)) : start.Patient token first :=
  fun before index hbegins => h before index (hbegins.trans (List.prefix_append first second))

theorem Tracked.concat {start : Board} {steps : List Step} (h : Tracked start steps)
    (step : Step) : Tracked start (steps ++ [step]) := by
  have hrun : start.run (steps ++ [step]) = ((start.run steps).step step).1 := run_append _ _ _
  have hlater := later_step (start.run steps) step
  refine ⟨?_, fun token hnew => ?_, fun w hw hpatient => ?_⟩
  · rw [hrun]
    exact h.synced.step step
  · rw [hrun] at hnew ⊢
    obtain ⟨hnone, hempty⟩ := h.unborn token (Nat.le_trans hlater.counter hnew)
    obtain ⟨hafter, hflight⟩ := h.synced.unborn_step hnone hnew
    rw [flights_concat, hempty, hflight]
    exact ⟨hafter, rfl⟩
  · rw [hrun] at hw ⊢
    rw [flights_concat]
    have htoken : w.token ∈ ((start.run steps).step step).1.hub.tokens := by
      rw [(h.synced.step step).tokens_eq]
      exact List.mem_map_of_mem hw
    -- Its token was in use before the step, or it has been handed out by the step.
    rcases hlater.tokens _ htoken with hold | hnew
    · rw [h.synced.tokens_eq] at hold
      obtain ⟨v, hv, hsame⟩ := List.mem_map.mp hold
      rw [← hsame] at hpatient ⊢
      refine logbook_step h.synced hv (h.mounted v hv hpatient.of_append) hw hsame.symm ?_
      rintro index rfl hload
      exact hpatient steps index (List.prefix_refl _) hload v hv rfl
    · obtain ⟨hnone, hempty⟩ := h.unborn w.token hnew
      obtain ⟨hflight, hloading, hone⟩ := h.synced.newborn_step hw hnew hnone
      rw [hempty, hflight, hloading, hone]
      exact .mounted

/-! ## Mounting a part -/

theorem Fresh.young (h : b.Fresh) (token : Nat) : b.Young token where
  unborn _ := by
    unfold inFlight
    rw [h.waiting]
    rfl
  born := by
    rw [h.widgets]
    exact List.forall_mem_nil _

theorem Young.mountBrowser (h : b.Young token) (tab : Tab) : (b.mountBrowser tab).Young token := by
  refine h.of_eq rfl rfl ?_
  show ((b.waiting ++ [Task.options _]) ++ [Task.model _]).countP (Task.isFor token) = _
  rw [List.countP_append, List.countP_append]
  rfl

theorem Young.mountDashboard (h : b.Young token) (tab : Tab) :
    (b.mountDashboard tab false).Young token :=
  (Young.mountBrowser (b := b.listen) (h.of_eq rfl rfl rfl) tab).setPlots .initial

/-- The widgets of a part that has just been mounted are loading. -/
theorem Fresh.young_mount (h : b.Fresh) (part : Part) (tab : Tab) (token : Nat) :
    (b.mount part tab false).Young token := by
  have hyoung := h.young token
  cases part with
  | browser => exact hyoung.mountBrowser tab
  | widget id canRemove => exact hyoung.mountWidget (.ofId id)
  | plots => exact hyoung.setPlots .initial
  | dashboard => exact hyoung.mountDashboard tab
  | page path =>
    have hlog : (b.log ⟨.info, "dashboard starting against " ++ b.settings.apiBase⟩).Young token :=
      hyoung.of_eq rfl rfl rfl
    unfold Board.mount
    dsimp only
    split
    · exact hlog.mountDashboard tab
    · exact hlog
  | _ => exact hyoung

/-- **The logbooks of all widgets are right after every run.** -/
theorem Fresh.tracked (h : b.Fresh) (part : Part) (tab : Tab) (steps : List Step) :
    Tracked (b.mount part tab false) steps := by
  induction steps using List.reverseRecOn with
  | nil =>
    have hsynced := (h.mount part tab false).synced
    have hyoung := h.young_mount part tab
    refine ⟨hsynced, fun token hnew => ⟨(hyoung token).unborn hnew, ?_⟩, fun w hw _ => ?_⟩
    · unfold flights
      rw [hsynced.widget?_eq_none hnew]
      rfl
    · obtain ⟨-, hloading, hone⟩ := (hyoung w.token).born w hw rfl
      unfold flights
      rw [hsynced.widget?_eq hw]
      change Logbook [.mounted] w.dataset ((b.mount part tab false).inFlight w.token)
      rw [hloading, hone]
      exact .mounted
  | append_singleton steps step ih => exact ih.concat step

end ResultsBoard.Board
