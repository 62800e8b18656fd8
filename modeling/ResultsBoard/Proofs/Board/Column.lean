import ResultsBoard.Proofs.Board.Still
import ResultsBoard.Proofs.Plots.Order
import ResultsBoard.Proofs.Resize.Pass
import ResultsBoard.Proofs.Resize.Tokens

/-!
# The column of plots and the resize hub

The plots, the mounted widgets and the subscriptions to the resize hub (`ResizeHub`) are kept in
three places. `Synced` and `Aligned` say that they agree; mounting the column
(`PlotCollectionPanel`) brings this about, and whatever happens until it is unmounted keeps it.

* `entries_arrange`: after an update of the plots the mounted widgets are those that stay and then
  the new ones.
* `Aligned.run`: the invariant along every run.
* `broadcast_spec`: a notification fits the widget of every token. `refitEach_of_split`: what comes
  of that, and of nothing else.
* `ColumnLaw`, `column_law`: after every run there is one subscriber for each plot, in display
  order, and every notification reaches all of them and no one else.
-/

namespace ResultsBoard

open Resize

namespace Board

variable {b b' : Board} {p : Plots}

/-! ## Widgets and subscriptions -/

/-- Each mounted widget has one subscription, and there is no other. -/
structure Synced (b : Board) : Prop where
  ordered : b.hub.Ordered
  subscribers : b.hub.subscribers.map (fun s => (s.token, s.plot)) =
    b.widgets.map fun w => (w.token, w.plot)

theorem Synced.tokens_eq (h : b.Synced) : b.hub.tokens = b.widgetTokens := by
  have := congrArg (List.map Prod.fst) h.subscribers
  rwa [List.map_map, List.map_map] at this

theorem Synced.nodup (h : b.Synced) : b.widgetTokens.Nodup := by
  rw [← h.tokens_eq]
  exact h.ordered.nodup

theorem Synced.of_still (h : b.Synced) (hs : Still b b') : b'.Synced where
  ordered := by
    rw [hs.hub]
    exact h.ordered
  subscribers := by
    have hlabels := congrArg (List.map fun l : Nat × PlotEntry => (l.1, l.2.id)) (hs.labels h.nodup)
    rw [List.map_map, List.map_map] at hlabels
    rw [hs.hub]
    exact h.subscribers.trans hlabels.symm

theorem Synced.mountWidget (h : b.Synced) (entry : PlotEntry) : (b.mountWidget entry).Synced where
  ordered := h.ordered.subscribe entry.id ()
  subscribers := by
    have hhub : (b.mountWidget entry).hub.subscribers =
        b.hub.subscribers ++ [⟨b.hub.nextToken, entry.id, ()⟩] := rfl
    have hwidgets : (b.mountWidget entry).widgets =
        b.widgets ++ [{ token := b.hub.nextToken, entry }] := rfl
    rw [hhub, hwidgets, List.map_append, List.map_append, h.subscribers]
    rfl

theorem Synced.unmountWidget (h : b.Synced) (w : Widget) : (b.unmountWidget w).Synced where
  ordered := h.ordered.remove w.token
  subscribers := by
    have hfilter := congrArg (List.filter fun l : Nat × PlotId => l.1 ≠ w.token) h.subscribers
    rw [List.filter_map, List.filter_map] at hfilter
    exact hfilter

theorem traffic_synced : Traffic fun b b' => b.Synced → b'.Synced where
  refl _ h := h
  trans h h' hb := h' (h hb)
  mount _ entry h := h.mountWidget entry
  unmount _ w h := h.unmountWidget w

theorem Synced.arrange (h : b.Synced) (entries : List PlotEntry) : (b.arrange entries).Synced :=
  traffic_synced.arrange b entries h

theorem entries_mountAll (fresh : List PlotEntry) (b : Board) :
    (fresh.foldl mountWidget b).widgets.map Widget.entry = b.widgets.map Widget.entry ++ fresh := by
  induction fresh generalizing b with
  | nil => exact (List.append_nil _).symm
  | cons entry rest ih =>
    have hwidgets : (b.mountWidget entry).widgets =
        b.widgets ++ [{ token := b.hub.nextToken, entry }] := rfl
    rw [List.foldl_cons, ih, hwidgets, List.map_append, List.append_assoc]
    rfl

theorem widgets_unmountAll (gone : List Widget) (b : Board) :
    (gone.foldl unmountWidget b).widgets =
      b.widgets.filter fun v => v.token ∉ gone.map Widget.token := by
  induction gone generalizing b with
  | nil => simp
  | cons w rest ih =>
    have hwidgets : (b.unmountWidget w).widgets = b.widgets.filter fun v => v.token ≠ w.token :=
      rfl
    rw [List.foldl_cons, ih, hwidgets, List.filter_filter]
    refine List.filter_congr fun v _ => ?_
    rw [← Bool.decide_and, decide_eq_decide, List.map_cons, List.mem_cons, not_or]
    exact and_comm

/-- **The widgets after an update of the plots**: those whose plot stays, and then the new ones. -/
theorem entries_arrange (h : b.Synced) (entries : List PlotEntry) :
    (b.arrange entries).widgets.map Widget.entry =
      Plots.keyed (b.widgets.map Widget.entry) entries := by
  have hstay : (b.widgets.filter fun v => v.token ∉
      (b.widgets.filter fun w => w.plot ∉ entries.map PlotEntry.id).map Widget.token) =
      b.widgets.filter fun v => v.plot ∈ entries.map PlotEntry.id := by
    refine List.filter_congr fun v hv => ?_
    rw [decide_eq_decide]
    constructor
    · intro hkept
      by_contra hgone
      exact hkept (List.mem_map_of_mem (List.mem_filter.mpr ⟨hv, decide_eq_true hgone⟩))
    · intro hstays hgone
      obtain ⟨w, hw, heq⟩ := List.mem_map.mp hgone
      obtain ⟨hwmem, hwgone⟩ := List.mem_filter.mp hw
      rw [List.inj_on_of_nodup_map h.nodup hwmem hv heq] at hwgone
      exact of_decide_eq_true hwgone hstays
  unfold arrange Plots.keyed
  rw [entries_mountAll, widgets_unmountAll, hstay, List.filter_map, List.map_map]
  rfl

/-- What arranging the widgets does not touch. -/
theorem arrange_keeps {γ : Type} (field : Board → γ)
    (hmount : ∀ b entry, field (b.mountWidget entry) = field b)
    (hunmount : ∀ b w, field (b.unmountWidget w) = field b) (b : Board)
    (entries : List PlotEntry) : field (b.arrange entries) = field b := by
  have hkeeps : Traffic fun b b' => field b' = field b :=
    ⟨fun _ => rfl, fun h h' => h'.trans h, hmount, hunmount⟩
  exact hkeeps.arrange b entries

/-! ## The column -/

/-- **Plots, widgets and subscriptions agree**: there is a widget for each entry, in display order,
and a subscription for each widget. -/
structure Aligned (b : Board) (p : Plots) : Prop where
  plots : b.plots = some p
  ordered : p.Ordered
  synced : b.Synced
  entries : b.widgets.map Widget.entry = p.entries

theorem Aligned.of_still (h : b.Aligned p) (hs : Still b b') : b'.Aligned p where
  plots := hs.plots.trans h.plots
  ordered := h.ordered
  synced := h.synced.of_still hs
  entries := by
    have hlabels := congrArg (List.map Prod.snd) (hs.labels h.synced.nodup)
    rw [List.map_map, List.map_map] at hlabels
    exact hlabels.trans h.entries

/-- An update of the plots brings widgets and subscriptions along. -/
theorem Synced.setPlots (h : b.Synced) (hp : p.Ordered)
    (hkeyed : Plots.keyed (b.widgets.map Widget.entry) p.entries = p.entries) :
    (b.setPlots p).Aligned p := by
  have hupdated : Board.Synced
      { b with plots := some p, frames := b.frames ++ [Frame.mk p.size] } :=
    ⟨h.ordered, h.subscribers⟩
  refine ⟨?_, hp, hupdated.arrange p.entries, ?_⟩
  · exact arrange_keeps Board.plots (fun _ _ => rfl) (fun _ _ => rfl) _ _
  · exact (entries_arrange hupdated p.entries).trans hkeyed

/-- Every update requests a frame. -/
theorem frames_setPlots (b : Board) (p : Plots) : (b.setPlots p).frames ≠ [] := by
  have hframes : (b.setPlots p).frames = b.frames ++ [Frame.mk p.size] :=
    arrange_keeps Board.frames (fun _ _ => rfl) (fun _ _ => rfl) _ _
  rw [hframes]
  exact List.append_ne_nil_of_right_ne_nil _ (List.cons_ne_nil _ _)

/-- What a step does to the plots. -/
def Step.onPlots (p : Plots) : Step → Plots
  | .addPlot => p.add.1
  | .removePlot id => (p.remove id).1
  | _ => p

/-- Whether a step adds a plot. -/
def Step.adds : Step → Bool
  | .addPlot => true
  | _ => false

theorem Step.ordered_onPlots {step : Step} (h : p.Ordered) (hroom : step.adds = true → p.Room) :
    (step.onPlots p).Ordered := by
  cases step with
  | addPlot => exact h.add (hroom rfl)
  | removePlot id => exact h.remove id
  | _ => exact h

theorem Step.keyed_onPlots (step : Step) (h : p.Ordered) :
    Plots.keyed p.entries (step.onPlots p).entries = (step.onPlots p).entries := by
  cases step with
  | addPlot => exact Plots.keyed_add h
  | removePlot id => exact Plots.keyed_remove p id
  | _ =>
    have hall := Plots.keyed_filter p.entries fun _ => true
    rwa [List.filter_true] at hall

/-- Write lines for following the program. -/
def narrate (b : Board) (messages : List String) : Board :=
  b.emit (messages.map fun message => .logged (.debug message))

theorem narrate_nil (b : Board) : b.narrate [] = b := by
  unfold narrate emit
  rw [List.map_nil, List.append_nil]

/-- An update of the plots by a step is logged first. -/
theorem update_narrated (h : b.plots = some p) {step : Step}
    (hstep : step = .addPlot ∨ ∃ id, step = .removePlot id) :
    ∃ messages, (b.step step).1 = (b.narrate messages).setPlots (step.onPlots p) := by
  rcases hstep with rfl | ⟨id, rfl⟩
  · simp only [step, addPlot, h]
    exact ⟨[_], rfl⟩
  · simp only [step, removePlot, h]
    cases (p.remove id).2 with
    | true => exact ⟨[_], rfl⟩
    | false => exact ⟨[], by rw [narrate_nil]; rfl⟩

theorem Aligned.update (h : b.Aligned p) {step : Step}
    (hstep : step = .addPlot ∨ ∃ id, step = .removePlot id) (hroom : step.adds = true → p.Room) :
    (b.step step).1.Aligned (step.onPlots p) := by
  obtain ⟨messages, heq⟩ := update_narrated h.plots hstep
  have hnarrated : (b.narrate messages).Aligned p := h.of_still (.of_eq rfl rfl rfl rfl)
  rw [heq]
  refine hnarrated.synced.setPlots (Step.ordered_onPlots h.ordered hroom) ?_
  rw [hnarrated.entries]
  exact step.keyed_onPlots h.ordered

/-- **Every step keeps the column aligned**, except to unmount it. -/
theorem Aligned.step (h : b.Aligned p) {step : Step} (hmounted : step ≠ .unmount)
    (hroom : step.adds = true → p.Room) : (b.step step).1.Aligned (step.onPlots p) := by
  by_cases hmoves : step.moves = true
  · cases step with
    | addPlot => exact h.update (.inl rfl) hroom
    | removePlot id => exact h.update (.inr ⟨id, rfl⟩) hroom
    | unmount => exact absurd rfl hmounted
    | _ => cases hmoves
  · have hsame : step.onPlots p = p := by
      cases step with
      | addPlot => exact absurd rfl hmoves
      | removePlot id => exact absurd rfl hmoves
      | _ => rfl
    rw [hsame]
    exact h.of_still (still_step b (by simpa using hmoves))

theorem Step.later_onPlots {step : Step} (hroom : step.adds = true → p.Room) :
    p.Later (step.onPlots p) := by
  cases step with
  | addPlot => exact Plots.later_add (hroom rfl)
  | removePlot id => exact Plots.later_remove p id
  | _ => exact .refl p

/-! ## Runs -/

/-- The plots after some steps. -/
def plotsAfter (p : Plots) (steps : List Step) : Plots := steps.foldl Step.onPlots p

/-- A run that does not unmount anything, and for whose new plots there are ids. -/
structure Fits (p : Plots) (steps : List Step) : Prop where
  mounted : .unmount ∉ steps
  room : p.nextId.toNat + steps.countP Step.adds < 2 ^ 32

theorem Fits.head {step : Step} {rest : List Step} (h : Fits p (step :: rest)) :
    step ≠ .unmount ∧ (step.adds = true → p.Room) := by
  refine ⟨fun heq => h.mounted (heq ▸ List.mem_cons_self), fun hadds => ?_⟩
  have := h.room
  rw [List.countP_cons_of_pos hadds] at this
  unfold Plots.Room
  omega

theorem Fits.tail {step : Step} {rest : List Step} (h : Fits p (step :: rest)) :
    Fits (step.onPlots p) rest := by
  refine ⟨fun hmem => h.mounted (List.mem_cons_of_mem _ hmem), ?_⟩
  have hroom := h.room
  cases step with
  | addPlot =>
    have hadd : p.add.1.nextId.toNat = p.nextId.toNat + 1 := Plots.nextId_add (h.head.2 rfl)
    rw [List.countP_cons_of_pos rfl] at hroom
    show p.add.1.nextId.toNat + _ < _
    omega
  | removePlot id =>
    rw [List.countP_cons_of_neg Bool.false_ne_true] at hroom
    show (p.remove id).1.nextId.toNat + _ < _
    rw [Plots.nextId_remove]
    exact hroom
  | _ =>
    rw [List.countP_cons_of_neg Bool.false_ne_true] at hroom
    exact hroom

/-- **The column stays aligned along a run**, and no id comes back. -/
theorem Aligned.run (h : b.Aligned p) {steps : List Step} (hfits : Fits p steps) :
    (b.run steps).Aligned (plotsAfter p steps) ∧ p.Later (plotsAfter p steps) := by
  induction steps generalizing b p with
  | nil => exact ⟨h, .refl p⟩
  | cons step rest ih =>
    obtain ⟨hmounted, hroom⟩ := hfits.head
    obtain ⟨haligned, hlater⟩ := ih (h.step hmounted hroom) hfits.tail
    exact ⟨haligned, (Step.later_onPlots hroom).trans hlater⟩

theorem run_append (b : Board) (first second : List Step) :
    b.run (first ++ second) = (b.run first).run second :=
  List.foldl_append

theorem plotsAfter_append (p : Plots) (first second : List Step) :
    plotsAfter p (first ++ second) = plotsAfter (plotsAfter p first) second :=
  List.foldl_append

theorem Fits.append {first second : List Step} (h : Fits p (first ++ second)) :
    Fits p first ∧ Fits (plotsAfter p first) second := by
  induction first generalizing p with
  | nil => exact ⟨⟨List.not_mem_nil, Nat.lt_of_le_of_lt (Nat.le_add_right _ _) h.room⟩, h⟩
  | cons step rest ih =>
    refine ⟨⟨fun hmem => h.mounted (List.mem_append_left second hmem), ?_⟩, (ih h.tail).2⟩
    have hroom := h.room
    rw [List.countP_append] at hroom
    omega

/-! ## Mounting -/

/-- No widget is mounted. -/
structure Bare (b : Board) : Prop where
  subscribers : b.hub.subscribers = []
  widgets : b.widgets = []

theorem Bare.of_still (h : b.Bare) (hs : Still b b') : b'.Bare where
  subscribers := by
    rw [hs.hub]
    exact h.subscribers
  widgets := by
    have hnodup : b.widgetTokens.Nodup := by
      unfold widgetTokens
      rw [h.widgets]
      exact List.nodup_nil
    have hlabels := hs.labels hnodup
    rw [h.widgets] at hlabels
    exact List.map_eq_nil_iff.mp hlabels

theorem Bare.mountPlots (h : b.Bare) : b.mountPlots.Aligned .initial := by
  have hsynced : b.Synced := by
    refine ⟨Registry.ordered_of_no_subscribers h.subscribers, ?_⟩
    rw [h.subscribers, h.widgets]
    rfl
  refine hsynced.setPlots Plots.ordered_initial ?_
  rw [h.widgets]
  exact Plots.keyed_nil _

theorem Bare.mountDashboard (h : b.Bare) (tab : Metadata.Tab) (promptly : Bool) :
    (b.mountDashboard tab promptly).Aligned .initial := by
  have hbrowser : (b.listen.mountBrowser tab).Bare := ⟨h.subscribers, h.widgets⟩
  exact (hbrowser.of_still (still_pause _ promptly)).mountPlots.of_still (still_pause _ promptly)

end Board

/-- Whether the column of plots belongs to a part. -/
def Part.showsPlots : Part → Bool
  | .plots | .dashboard => true
  | .page path => path = rootPath
  | _ => false

namespace Board

variable {b b' : Board} {p : Plots}

theorem Bare.mount (h : b.Bare) {part : Part} (hpart : part.showsPlots = true)
    (tab : Metadata.Tab) (promptly : Bool) : (b.mount part tab promptly).Aligned .initial := by
  cases part with
  | plots => exact h.mountPlots.of_still (still_pause _ promptly)
  | dashboard => exact h.mountDashboard tab promptly
  | page path =>
    have hroot : path = rootPath := by simpa [Part.showsPlots] using hpart
    unfold Board.mount
    dsimp only
    rw [if_pos hroot]
    refine Bare.mountDashboard ?_ tab promptly
    exact h.of_still (.of_eq rfl rfl rfl rfl)
  | _ => cases hpart

/-! ## Notifications -/

/-- Fit the widgets with these tokens, one after another. -/
def refitEach (tokens : List Nat) (b : Board) : Board :=
  tokens.foldl (fun b token => refit token b) b

/-- To fit a widget changes no subscription, so a notification invokes everyone and fits each widget
in turn. -/
theorem broadcast_spec (b : Board) :
    invoked (fun b token => b.hub.contains token) refit b.hub.tokens b = b.hub.tokens ∧
      b.broadcast = (refitEach b.hub.tokens b, b.hub.tokens.length) := by
  have hkeep : ∀ token (b : Board) other,
      (refit token b).hub.contains other = b.hub.contains other := fun token b other => by
    rw [(upkeep_still.refit token b).hub]
  obtain ⟨hpass, hinvoked⟩ := pass_of_registered (fun b token => b.hub.contains token) refit hkeep
    b.hub.tokens b fun token hmem => (b.hub.contains_iff token).mpr hmem
  exact ⟨hinvoked, hpass⟩

theorem container_refit (token : Nat) (b : Board) : (refit token b).container = b.container := by
  unfold refit modify
  split <;> rfl

/-- What it comes to that the widget with a token is fitted, where all tokens are different. -/
theorem refit_of_split {before after : List Widget} {w : Widget}
    (hsplit : b.widgets = before ++ w :: after) (hnodup : b.widgetTokens.Nodup) :
    refit w.token b =
      { b with
        widgets := before ++ (w.refit b.container).1 :: after
        effects := b.effects ++ (w.refit b.container).2.map .drew } := by
  unfold widgetTokens at hnodup
  rw [hsplit, List.map_append, List.map_cons] at hnodup
  obtain ⟨-, hafter, hbefore⟩ := List.nodup_append.mp hnodup
  have hother : ∀ v ∈ before ++ after, v.token ≠ w.token := by
    intro v hv heq
    rcases List.mem_append.mp hv with hv | hv
    · exact hbefore v.token (List.mem_map_of_mem hv) w.token List.mem_cons_self heq
    · exact (List.nodup_cons.mp hafter).1 (heq ▸ List.mem_map_of_mem hv)
  have hleft : ∀ v ∈ before, v.token ≠ w.token := fun v hv =>
    hother v (List.mem_append_left after hv)
  have hright : ∀ v ∈ after, v.token ≠ w.token := fun v hv =>
    hother v (List.mem_append_right before hv)
  have hfind : b.widget? w.token = some w := by
    unfold widget?
    rw [hsplit, List.find?_append, List.find?_eq_none.mpr fun v hv => by simpa using hleft v hv]
    simp
  have hmap : ∀ fitted : Widget, (b.widgets.map fun v => if v.token = w.token then fitted else v) =
      before ++ fitted :: after := by
    intro fitted
    have hsame : ∀ vs : List Widget, (∀ v ∈ vs, v.token ≠ w.token) →
        (vs.map fun v => if v.token = w.token then fitted else v) = vs := fun vs hvs =>
      (List.map_congr_left fun v hv => if_neg (hvs v hv)).trans (List.map_id vs)
    rw [hsplit, List.map_append, List.map_cons, hsame before hleft, hsame after hright, if_pos rfl]
  unfold refit modify
  rw [hfind]
  dsimp only
  rw [hmap]
  rfl

/-- Fitting the last widgets of a board in display order puts the fitted ones in their places, and
records the drawings in this order. -/
theorem refitEach_of_split {before after : List Widget} (hsplit : b.widgets = before ++ after)
    (hnodup : b.widgetTokens.Nodup) :
    refitEach (after.map Widget.token) b =
      { b with
        widgets := before ++ after.map fun w => (w.refit b.container).1
        effects := b.effects ++ (after.flatMap fun w => (w.refit b.container).2).map .drew } := by
  induction after generalizing b before with
  | nil =>
    rw [List.map_nil, List.flatMap_nil, List.map_nil, List.map_nil, ← hsplit, List.append_nil]
    rfl
  | cons w rest ih =>
    have hfirst := refit_of_split hsplit hnodup
    have hnext : (refit w.token b).widgets = (before ++ [(w.refit b.container).1]) ++ rest := by
      rw [hfirst, List.append_assoc]
      rfl
    have htokens : (refit w.token b).widgetTokens = b.widgetTokens :=
      (upkeep_still.refit w.token b).widgetTokens hnodup
    have hrest := ih hnext (htokens ▸ hnodup)
    rw [container_refit] at hrest
    rw [List.map_cons]
    show refitEach (rest.map Widget.token) (refit w.token b) = _
    rw [hrest, hfirst, List.append_assoc, List.append_assoc, ← List.map_append]
    rfl

/-- **A notification reaches the widget of every plot once**, in display order, and counts them. -/
theorem Aligned.broadcast (h : b.Aligned p) :
    b.broadcast = (refitEach b.widgetTokens b, p.size) := by
  have hcount : b.widgetTokens.length = p.size := by
    unfold widgetTokens Plots.size
    rw [List.length_map, ← h.entries, List.length_map]
  rw [(broadcast_spec b).2, h.synced.tokens_eq, hcount]

/-- The callbacks invoked by a notification fit all widgets, and nothing else changes. -/
theorem Synced.refitEach_eq (h : b.Synced) :
    refitEach b.widgetTokens b =
      { b with
        widgets := b.widgets.map fun w => (w.refit b.container).1
        effects := b.effects ++ (b.widgets.flatMap fun w => (w.refit b.container).2).map .drew } :=
  refitEach_of_split (List.nil_append b.widgets).symm h.nodup

/-- The notification of a requested frame. -/
theorem Aligned.runFrame (h : b.Aligned p) (frame : Frame) :
    b.runFrame frame = (refitEach b.widgetTokens b).log (.debug
      (toString frame.plots ++ " plots on screen; " ++ toString p.size ++ " refitted")) := by
  unfold Board.runFrame
  rw [h.broadcast]

/-- Requested frames notify the same widgets one after another. -/
theorem Aligned.runFrames (h : b.Aligned p) {tokens : List Nat} (htokens : b.widgetTokens = tokens)
    (frames : List Frame) :
    frames.foldl Board.runFrame b =
      frames.foldl (fun b frame => (refitEach tokens b).log (.debug
        (toString frame.plots ++ " plots on screen; " ++ toString p.size ++ " refitted"))) b := by
  induction frames generalizing b with
  | nil => rfl
  | cons frame rest ih =>
    have hstill := upkeep_still.runFrame b frame
    rw [List.foldl_cons, List.foldl_cons, ← htokens, ← h.runFrame frame, htokens]
    exact ih (h.of_still hstill) ((hstill.widgetTokens h.synced.nodup).trans htokens)

/-! ## The window -/

/-- Only unmounting everything ends listening to the window. -/
theorem listening_step (b : Board) {step : Step} (h : step ≠ .unmount) :
    (b.step step).1.listening = b.listening := by
  have hsetPlots : ∀ (b : Board) (p : Plots), (b.setPlots p).listening = b.listening :=
    fun b p => arrange_keeps Board.listening (fun _ _ => rfl) (fun _ _ => rfl) _ p.entries
  cases step with
  | addPlot =>
    simp only [step, addPlot]
    split
    · rfl
    · exact hsetPlots _ _
  | removePlot id =>
    simp only [step, removePlot]
    split
    · exact (hsetPlots _ _).trans (by split <;> rfl)
    · split <;> rfl
  | unmount => exact absurd rfl h
  | _ => exact (still_step b rfl).listening

theorem listening_run (b : Board) {steps : List Step} (h : .unmount ∉ steps) :
    (b.run steps).listening = b.listening := by
  induction steps generalizing b with
  | nil => rfl
  | cons step rest ih =>
    rw [List.mem_cons, not_or] at h
    exact (ih (b.step step).1 h.2).trans (listening_step b (Ne.symm h.1))

theorem listening_mountDashboard (b : Board) (tab : Metadata.Tab) (promptly : Bool) :
    (b.mountDashboard tab promptly).listening = true := by
  have hpaused := (still_pause (b.listen.mountBrowser tab) promptly).listening
  have hplots : ((b.listen.mountBrowser tab).pause promptly).mountPlots.listening = true :=
    (arrange_keeps Board.listening (fun _ _ => rfl) (fun _ _ => rfl) _ _).trans hpaused
  exact (still_pause _ promptly).listening.trans hplots

/-- The parts with the column of plots listen to the window, except for the column on its own. -/
theorem listening_mount (b : Board) {part : Part} (hpart : part.showsPlots = true)
    (hother : part ≠ .plots) (tab : Metadata.Tab) (promptly : Bool) :
    (b.mount part tab promptly).listening = true := by
  cases part with
  | plots => exact absurd rfl hother
  | dashboard => exact listening_mountDashboard b tab promptly
  | page path =>
    have hroot : path = rootPath := by simpa [Part.showsPlots] using hpart
    unfold Board.mount
    dsimp only
    rw [if_pos hroot]
    exact listening_mountDashboard _ tab promptly
  | _ => cases hpart

/-! ## The law -/

/-- **What holds of the column** after a run from its mounting, when its plots are then `p`. -/
structure ColumnLaw (start : Board) (steps : List Step) (p : Plots) : Prop where
  plots : (start.run steps).plots = some p
  /-- There is one widget for each entry, in display order. -/
  widgets : (start.run steps).widgets.map Widget.entry = p.entries
  /-- There is one subscription for each widget, in the same order, and no other. -/
  subscribers : (start.run steps).hub.subscribers.map (fun s => (s.token, s.plot)) =
    (start.run steps).widgets.map fun w => (w.token, w.plot)
  /-- No plot has two. -/
  distinct : p.ids.Nodup
  /-- Whenever the containers get another size, the callbacks of exactly these widgets are invoked,
  each once and in display order, and counted. -/
  notified : ∀ container, (start.run steps).resizeContainers container =
    (refitEach ((start.run steps).widgets.map Widget.token) { start.run steps with container },
      p.size)
  /-- That is, every widget is fitted, what they draw is recorded in display order, and nothing else
  has changed. -/
  fitted : ∀ container, ((start.run steps).resizeContainers container).1 =
    { start.run steps with
      container
      widgets := (start.run steps).widgets.map fun w => (w.refit container).1
      effects := (start.run steps).effects ++
        ((start.run steps).widgets.flatMap fun w => (w.refit container).2).map .drew }
  /-- The board listens to the window as it did when the column was mounted. -/
  listening : (start.run steps).listening = start.listening
  /-- Another size of the window is such a notification if the board listens to it, and reaches no
  one if it does not. -/
  window : ∀ container, (start.run steps).resizeWindow container =
    if start.listening then
      (((start.run steps).resizeContainers container).1.log
        (.debug ("viewport resized; " ++ toString p.size ++ " plots notified")), 1)
    else ({ start.run steps with container }, 0)
  /-- Every requested frame, when it runs, invokes the callbacks of the same widgets, each once and
  in display order, and counts them. -/
  frames : (start.run steps).runFrames =
    ((start.run steps).frames.foldl
      (fun b frame => (refitEach ((start.run steps).widgets.map Widget.token) b).log (.debug
        (toString frame.plots ++ " plots on screen; " ++ toString p.size ++ " refitted")))
      { start.run steps with frames := [] },
    (start.run steps).frames.length)
  /-- After every update of the plots some frame is requested. -/
  pending : ∀ before last, steps = before ++ [last] →
    (last = .addPlot ∨ ∃ id, last = .removePlot id) → (start.run steps).frames ≠ []
  /-- A plot that was there and is no longer does not come back. -/
  gone : ∀ before between after, steps = before ++ between ++ after → ∀ q q',
    (start.run before).plots = some q → (start.run (before ++ between)).plots = some q' →
      ∀ id ∈ q.ids, id ∉ q'.ids → id ∉ p.ids

/-- An update of aligned plots requests a frame. -/
theorem Aligned.frames_step (h : b.Aligned p) {step : Step}
    (hstep : step = .addPlot ∨ ∃ id, step = .removePlot id) : (b.step step).1.frames ≠ [] := by
  obtain ⟨messages, heq⟩ := update_narrated h.plots hstep
  rw [heq]
  exact frames_setPlots _ _

/-- Another size of the window is a notification, if the board listens to it. -/
theorem Aligned.resizeWindow (h : b.Aligned p) (container : Int × Int) :
    b.resizeWindow container =
      if b.listening then
        ((b.resizeContainers container).1.log
          (.debug ("viewport resized; " ++ toString p.size ++ " plots notified")), 1)
      else ({ b with container }, 0) := by
  have hresized : Board.Aligned { b with container } p := h.of_still (.of_eq rfl rfl rfl rfl)
  have hcount : (b.resizeContainers container).2 = p.size := congrArg Prod.snd hresized.broadcast
  unfold Board.resizeWindow
  split
  · dsimp only
    rw [hcount]
  · rfl

/-- A plot that has gone between two moments of a run does not come back. -/
theorem Aligned.gone (h : b.Aligned p) {before between after : List Step}
    (hfits : Fits p (before ++ between ++ after)) {q q' : Plots}
    (hq : (b.run before).plots = some q) (hq' : (b.run (before ++ between)).plots = some q')
    {id : PlotId} (hmem : id ∈ q.ids) (hgone : id ∉ q'.ids) :
    id ∉ (plotsAfter p (before ++ between ++ after)).ids := by
  obtain ⟨hbetween, hafter⟩ := hfits.append
  obtain ⟨hfirst, hsecond⟩ := hbetween.append
  obtain ⟨haligned₁, -⟩ := h.run hfirst
  obtain ⟨haligned₂, hlater₂⟩ := haligned₁.run hsecond
  rw [← run_append, ← plotsAfter_append] at haligned₂
  rw [← plotsAfter_append] at hlater₂
  obtain ⟨-, hlater₃⟩ := haligned₂.run hafter
  rw [← plotsAfter_append] at hlater₃
  obtain rfl := Option.some.inj (haligned₁.plots.symm.trans hq)
  obtain rfl := Option.some.inj (haligned₂.plots.symm.trans hq')
  have hold := UInt32.lt_of_lt_of_le (haligned₁.ordered.below id hmem) hlater₂.counter
  exact hlater₃.not_mem hold hgone

/-- **Membership and subscriptions never drift apart.** A board on which no widget is mounted mounts
a part with the column of plots, and then anything may happen but unmounting, with fewer new plots
than there are ids. After all of it the law of the column holds. Every such part but the column on
its own listens to the window. -/
theorem column_law {b : Board} {part : Part} {steps : List Step} (tab : Metadata.Tab)
    (promptly : Bool) (hbare : b.Bare) (hpart : part.showsPlots = true)
    (hmounted : .unmount ∉ steps) (hadds : steps.countP Step.adds < 2 ^ 32 - 2) :
    ColumnLaw (b.mount part tab promptly) steps (plotsAfter .initial steps) ∧
      (part ≠ .plots → (b.mount part tab promptly).listening = true) := by
  have hstart := hbare.mount hpart tab promptly
  have hfits : Fits .initial steps := by
    refine ⟨hmounted, ?_⟩
    have htwo : Plots.initial.nextId.toNat = 2 := rfl
    omega
  obtain ⟨haligned, -⟩ := hstart.run hfits
  have hlistening := listening_run (b.mount part tab promptly) hmounted
  have hresized : ∀ container, Board.Aligned
      { (b.mount part tab promptly).run steps with container } (plotsAfter .initial steps) :=
    fun container => haligned.of_still (.of_eq rfl rfl rfl rfl)
  refine ⟨⟨haligned.plots, haligned.entries, haligned.synced.subscribers, haligned.ordered.nodup,
    fun container => (hresized container).broadcast, fun container => ?_, hlistening,
    fun container => ?_, ?_, fun before last hsplit hlast => ?_,
    fun before between after hsplit q q' hq hq' id => ?_⟩,
    fun hother => listening_mount b hpart hother tab promptly⟩
  · have hbroadcast := congrArg Prod.fst (hresized container).broadcast
    exact hbroadcast.trans (hresized container).synced.refitEach_eq
  · rw [← hlistening]
    exact haligned.resizeWindow container
  · have hclear : Board.Aligned { (b.mount part tab promptly).run steps with frames := [] }
        (plotsAfter .initial steps) := haligned.of_still (.of_eq rfl rfl rfl rfl)
    exact congrArg (Prod.mk · _) (hclear.runFrames rfl _)
  · subst hsplit
    rw [run_append]
    exact (hstart.run hfits.append.1).1.frames_step hlast
  · subst hsplit
    exact hstart.gone hfits hq hq'

/-- A plot comes, the first one goes, and the second one may not. -/
def comeAndGo : List Step :=
  [.addPlot, .runFrames, .removePlot ⟨1⟩, .removePlot ⟨2⟩, .resizeWindow (800, 600)]

/-- A server that cannot be reached. -/
def unreachable : Server := { answers := fun _ _ => .unreachable "" }

theorem column_law_comeAndGo :
    (plotsAfter .initial comeAndGo).ids = [⟨2⟩] ∧
      (((empty .default unreachable).mount .dashboard .model false).run comeAndGo).widgets.map
        Widget.token = [1] ∧
      (((empty .default unreachable).mount .dashboard .model false).run comeAndGo).frames.map
        Frame.plots = [1, 1] ∧
      ColumnLaw ((empty .default unreachable).mount .dashboard .model false) comeAndGo
        (plotsAfter .initial comeAndGo) := by
  refine ⟨by decide, by decide, by decide,
    (column_law .model false ⟨rfl, rfl⟩ rfl ?_ (by decide)).1⟩
  simp [comeAndGo]

end Board

end ResultsBoard
