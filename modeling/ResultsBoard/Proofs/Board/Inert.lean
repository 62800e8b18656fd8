import ResultsBoard.Proofs.Board.Sound

/-!
# Unmounted widgets

A widget (`PlotWidget`) may be unmounted between any two steps, while a fetch of its dataset is
under way, before or after others have ended. From then on nothing is heard of it: it is not
notified, nothing is drawn on its element, the toast does not speak of it, and the end of its fetch
is only a line that its dataset has been discarded.

* `Spares`: from one board to another, whatever has left the board was not about a plot.
  `Change.spares`, `Moved.spares`: so it is if no mounted widget shows the plot.
* `Gone`: the widget is not on the board and neither is its plot. Every step keeps this, and
  `Whole.gone` says that it holds as soon as a step unmounts the widget.
* `Inert`, `inert_law`: what holds of a widget from the step on that unmounts it.
-/

namespace ResultsBoard

open Fetch Metadata Resize

variable {plot : PlotId}

/-! ## What is about a plot -/

/-- An effect is a drawing on the element of a plot, or the warning that its dataset could not be
fetched. -/
def Effect.Concerns (plot : PlotId) : Effect → Prop
  | drew d => d.target = plot.renderTarget
  | logged line => line.level = .warn ∧
      ("plot " ++ plot.text ++ ": dataset fetch failed").toList <+: line.message.toList
  | requested _ | waited _ | retryAsked | removalAsked _ => False

/-- The toast changes without speaking of a plot: time passes, or another message is displayed. -/
inductive Toast.Aside (plot : PlotId) : Toast → Toast → Prop where
  | advance (t : Toast) (milliseconds : Nat) : Aside plot t (t.advance milliseconds)
  | display (t : Toast) {message : String}
      (hother : ¬ ("Plot " ++ plot.text ++ ": ").toList <+: message.toList) :
      Aside plot t (t.display message)

namespace Board

variable {b b' b'' : Board} {p : Plots} {w : Widget}

/-- **Whatever has left the board was not about a plot**: no effect concerns it, and the toast does
not speak of it. -/
structure Spares (plot : PlotId) (b b' : Board) : Prop where
  effects : ∃ effects, b'.effects = b.effects ++ effects ∧ ∀ e ∈ effects, ¬ e.Concerns plot
  toast : Relation.ReflTransGen (Toast.Aside plot) b.toast b'.toast

theorem Spares.refl (plot : PlotId) (b : Board) : Spares plot b b :=
  ⟨⟨[], (List.append_nil _).symm, List.forall_mem_nil _⟩, .refl⟩

theorem Spares.trans (h : Spares plot b b') (h' : Spares plot b' b'') : Spares plot b b'' where
  effects := by
    obtain ⟨effects, heq, hnone⟩ := h.effects
    obtain ⟨more, heq', hnone'⟩ := h'.effects
    refine ⟨effects ++ more, by rw [heq', heq, List.append_assoc], fun e he => ?_⟩
    rcases List.mem_append.mp he with he | he
    · exact hnone e he
    · exact hnone' e he
  toast := h.toast.trans h'.toast

/-- The element of the plot keeps what is on it. -/
theorem Spares.onScreen (h : Spares plot b b') :
    b'.onScreen plot.renderTarget = b.onScreen plot.renderTarget := by
  obtain ⟨effects, heq, hnone⟩ := h.effects
  refine onScreen_of_effects heq fun e he d hd => ?_
  cases e with
  | drew drawing =>
    cases hd
    exact hnone _ he
  | _ => cases hd

/-! ## Texts -/

theorem eq_of_datasetWarning {other : PlotId} {failure : Failure}
    (h : ("plot " ++ plot.text ++ ": dataset fetch failed").toList <+:
      (datasetWarning other failure).toList) : plot = other := by
  unfold datasetWarning at h
  simp only [String.toList_append, List.append_assoc] at h
  exact PlotId.eq_of_text_colon h

theorem eq_of_datasetMessage {other : PlotId} {failure : Failure}
    (h : ("Plot " ++ plot.text ++ ": ").toList <+: (datasetMessage other failure).toList) :
    plot = other := by
  unfold datasetMessage at h
  simp only [String.toList_append, List.append_assoc] at h
  exact PlotId.eq_of_text_colon h

/-- Reports of documents and warnings of requests begin otherwise. -/
theorem not_prefix_of_head_ne {c d : Char} (hne : c ≠ d) {xs ys : List Char} :
    ¬ c :: xs <+: d :: ys := fun h => hne (List.cons_prefix_cons.mp h).1

theorem not_concerns_of_plain {e : Effect} (h : e.Plain) (plot : PlotId) : ¬ e.Concerns plot := by
  intro hconcerns
  cases e with
  | drew d => exact h
  | logged line =>
    obtain ⟨hlevel, hwarning⟩ := hconcerns
    obtain ⟨resource, hpath⟩ := h hlevel
    obtain ⟨rest, hrest⟩ := hpath
    rw [← hrest] at hwarning
    simp only [String.toList_append, List.append_assoc] at hwarning
    cases resource <;> exact not_prefix_of_head_ne (by decide) hwarning
  | _ => exact hconcerns

theorem not_concerns_reportDocument {name : String} (hname : name = "options" ∨ name = "model")
    (failure : Failure) (plot : PlotId) :
    ¬ (Effect.logged (.warn (name ++ " document fetch failed: " ++ failure.message))).Concerns
      plot := by
  rintro ⟨-, hwarning⟩
  simp only [LogLine.warn, String.toList_append, List.append_assoc] at hwarning
  rcases hname with rfl | rfl <;> exact not_prefix_of_head_ne (by decide) hwarning

theorem aside_reportDocument (t : Toast) (name : String) (failure : Failure) (plot : PlotId) :
    Toast.Aside plot t (t.display ("Metadata (" ++ name ++ "): " ++ failure.message)) := by
  refine .display t fun hmessage => ?_
  simp only [String.toList_append, List.append_assoc] at hmessage
  exact not_prefix_of_head_ne (by decide) hmessage

/-! ## Changes -/

/-- Effects that do not concern a plot spare it, while the toast stays. -/
theorem Spares.of_effects (effects : List Effect) (heffects : b'.effects = b.effects ++ effects)
    (hnone : ∀ e ∈ effects, ¬ e.Concerns plot) (htoast : b'.toast = b.toast) :
    Spares plot b b' := by
  refine ⟨⟨effects, heffects, hnone⟩, ?_⟩
  rw [htoast]

/-- **A change spares every plot that no widget shows.** -/
theorem Change.spares (hc : Change b b') (hnamed : ∀ w ∈ b.widgets, w.entry = .ofId w.plot)
    (hother : ∀ w ∈ b.widgets, w.plot ≠ plot) : Spares plot b b' := by
  cases hc with
  | paint token hf =>
    unfold modify
    split
    · exact .refl plot b
    · rename_i w hw
      obtain ⟨hmem, -⟩ := mem_of_widget? hw
      refine .of_effects _ rfl (fun e he hconcerns => ?_) rfl
      obtain ⟨d, hd, rfl⟩ := List.mem_map.mp he
      have htarget := (hf w).target d hd
      rw [hnamed w hmem] at htarget
      exact hother w hmem (PlotId.renderTarget_injective (htarget.symm.trans hconcerns))
  | emit heffects =>
    exact .of_effects _ rfl (fun e he => not_concerns_of_plain (heffects e he) plot) rfl
  | report hw failure =>
    refine ⟨⟨[_], rfl, fun e he hconcerns => ?_⟩, .single (.display _ fun hmessage => ?_)⟩
    · rw [List.mem_singleton.mp he] at hconcerns
      exact hother _ hw (eq_of_datasetWarning hconcerns.2).symm
    · exact hother _ hw (eq_of_datasetMessage hmessage).symm
  | reportDocument hname failure =>
    refine ⟨⟨[_], rfl, fun e he => ?_⟩, .single (aside_reportDocument _ _ failure plot)⟩
    rw [List.mem_singleton.mp he]
    exact not_concerns_reportDocument hname failure plot
  | advance milliseconds =>
    exact ⟨⟨[], (List.append_nil _).symm, List.forall_mem_nil _⟩, .single (.advance _ _)⟩
  | elsewhere _ _ _ _ htoast _ heffects =>
    refine .of_effects [] ?_ (List.forall_mem_nil _) htoast
    rw [heffects, List.append_nil]
  | _ => exact .of_effects [] (List.append_nil _).symm (List.forall_mem_nil _) rfl

/-- To mount and to unmount widgets spares every plot. -/
theorem Moved.spares (h : Moved b b') (plot : PlotId) : Spares plot b b' := by
  obtain ⟨messages, heffects⟩ := h.effects
  refine .of_effects _ heffects (fun e he => ?_) h.toast
  obtain ⟨message, -, rfl⟩ := List.mem_map.mp he
  exact not_concerns_of_plain (Effect.plain_debug message) plot

/-! ## Widgets that are gone -/

/-- **A widget is gone**: its token has been in use and is no longer, no widget shows its plot, and
the plot does not come again. -/
structure Gone (b : Board) (w : Widget) : Prop where
  old : w.token < b.hub.nextToken
  token : w.token ∉ b.hub.tokens
  plot : ∀ v ∈ b.widgets, v.plot ≠ w.plot
  plots : ∀ p, b.plots = some p → w.plot.value < p.nextId

theorem Gone.of_still (h : b.Gone w) (hs : Still b b') (hnodup : b.widgetTokens.Nodup) :
    b'.Gone w where
  old := by
    rw [hs.hub]
    exact h.old
  token := by
    rw [hs.hub]
    exact h.token
  plot v hv := by
    have hplot : v.plot ∈ b'.widgets.map Widget.plot := List.mem_map_of_mem hv
    rw [hs.widgetPlots hnodup] at hplot
    obtain ⟨u, hu, heq⟩ := List.mem_map.mp hplot
    rw [← heq]
    exact h.plot u hu
  plots p hp := h.plots p (hs.plots ▸ hp)

/-- A course of changes spares the plot of a widget that is gone. -/
theorem Course.spares (hc : Course b b') (hb : b.Whole) (h : b.Gone w) :
    Spares w.plot b b' := by
  induction hc with
  | refl => exact .refl _ b
  | tail hcourse hlast ih =>
    have hgone := h.of_still (Course.still hcourse) hb.synced.nodup
    exact ih.trans (hlast.spares (hb.of_course hcourse).named hgone.plot)

/-- An update of the plots brings back nothing that is gone. -/
theorem Gone.setPlots {q : Plots} (h : b.Gone w) (haligned : b.Aligned p)
    (hafter : (b.setPlots q).Whole) (hlater : p.Later q) : (b.setPlots q).Gone w := by
  have hmoved := (moved_setPlots b q).hub
  have hplots := plots_setPlots b q
  have hold := h.plots p haligned.plots
  have hids : w.plot ∉ p.ids := by
    rw [← haligned.plots_eq]
    intro hmem
    obtain ⟨v, hv, heq⟩ := List.mem_map.mp hmem
    exact h.plot v hv heq
  refine ⟨Nat.lt_of_lt_of_le h.old hmoved.counter, fun hback => ?_, fun v hv heq => ?_,
    fun p' hp' => ?_⟩
  · rcases hmoved.tokens _ hback with hmem | hnew
    · exact h.token hmem
    · exact absurd h.old (Nat.not_lt.mpr hnew)
  · refine hlater.not_mem hold hids ?_
    rw [← (hafter.aligned q hplots).plots_eq, ← heq]
    exact List.mem_map_of_mem hv
  · obtain rfl := Option.some.inj (hplots.symm.trans hp')
    exact UInt32.lt_of_lt_of_le hold hlater.counter

/-- Where nothing is mounted, every widget of before is gone. -/
theorem gone_unmount (hold : w.token < b.hub.nextToken) (hb : b.Whole) : b.unmount.Gone w where
  old := Nat.lt_of_lt_of_le hold (moved_unmount b).hub.counter
  token := by
    rw [hb.unmount.synced.tokens_eq]
    unfold widgetTokens
    rw [widgets_unmount]
    exact List.not_mem_nil
  plot := by
    rw [widgets_unmount]
    exact List.forall_mem_nil _
  plots p hp := nomatch hp

/-- **A step brings back nothing that is gone, and spares its plot.** -/
theorem Gone.step (h : b.Gone w) (hb : b.Whole) {step : Step}
    (hroom : ∀ p, b.plots = some p → step.adds = true → p.Room) :
    (b.step step).1.Gone w ∧ Spares w.plot b (b.step step).1 := by
  rcases step_cases hb.labeled hb.synced.nodup step with hcourse | ⟨p, messages, hp, heq⟩ | rfl
  · exact ⟨h.of_still hcourse.still hb.synced.nodup, hcourse.spares hb h⟩
  · have hnarrated := course_narrate b messages
    have hgone := h.of_still hnarrated.still hb.synced.nodup
    have haligned := (hb.of_course hnarrated).aligned p hp
    have hmoved := (moved_narrate b messages).trans (moved_setPlots _ (step.onPlots p))
    rw [heq]
    refine ⟨hgone.setPlots haligned ?_ (Step.later_onPlots (hroom p hp)), hmoved.spares w.plot⟩
    exact hb.update hp (hroom p hp) messages
  · exact ⟨gone_unmount h.old hb, (moved_unmount b).spares w.plot⟩

/-- **Nothing that is gone is ever heard of again.** -/
theorem Gone.run (h : b.Gone w) (hb : b.Whole) {steps : List Step} (hroomy : b.Roomy steps) :
    (b.run steps).Gone w ∧ Spares w.plot b (b.run steps) := by
  induction steps generalizing b with
  | nil => exact ⟨h, .refl _ b⟩
  | cons step rest ih =>
    obtain ⟨hgone, hspares⟩ := h.step hb hroomy.head
    obtain ⟨hlast, hrest⟩ := ih hgone (hb.step hroomy.head) (hroomy.tail hb)
    exact ⟨hlast, hspares.trans hrest⟩

/-! ## To go -/

theorem mem_mountAll (hw : w ∈ b.widgets) (fresh : List PlotEntry) :
    w ∈ (fresh.foldl mountWidget b).widgets := by
  induction fresh generalizing b with
  | nil => exact hw
  | cons entry rest ih => exact ih (List.mem_append_left _ hw)

/-- A widget whose plot stays is not unmounted. -/
theorem Synced.mem_arrange (h : b.Synced) (hw : w ∈ b.widgets) {entries : List PlotEntry}
    (hstays : w.plot ∈ entries.map PlotEntry.id) : w ∈ (b.arrange entries).widgets := by
  unfold Board.arrange
  refine mem_mountAll ?_ _
  rw [widgets_unmountAll]
  refine List.mem_filter.mpr ⟨hw, decide_eq_true fun hgone => ?_⟩
  obtain ⟨v, hv, heq⟩ := List.mem_map.mp hgone
  obtain ⟨hvmem, hvgone⟩ := List.mem_filter.mp hv
  rw [List.inj_on_of_nodup_map h.nodup hvmem hw heq] at hvgone
  exact of_decide_eq_true hvgone hstays

theorem Synced.mem_setPlots (h : b.Synced) (hw : w ∈ b.widgets) (hstays : w.plot ∈ p.ids) :
    w ∈ (b.setPlots p).widgets := by
  have hupdated : Board.Synced
      { b with plots := some p, frames := b.frames ++ [Frame.mk p.size] } :=
    ⟨h.ordered, h.subscribers⟩
  exact hupdated.mem_arrange hw hstays

/-- Only an update of the plots unmounts one widget, and only to unmount everything unmounts all
of them. -/
theorem Whole.leaves (hb : b.Whole) (hw : w ∈ b.widgets) {step : Step}
    (hleft : w.token ∉ (b.step step).1.widgetTokens) :
    (∃ p messages, b.plots = some p ∧
      (b.step step).1 = (b.narrate messages).setPlots (step.onPlots p)) ∨ step = .unmount := by
  rcases step_cases hb.labeled hb.synced.nodup step with hcourse | hothers
  · rw [hcourse.still.widgetTokens hb.synced.nodup] at hleft
    exact absurd (List.mem_map_of_mem hw) hleft
  · exact hothers

/-- A step that unmounts a widget draws nothing. -/
theorem Whole.moved_of_left (hb : b.Whole) (hw : w ∈ b.widgets) {step : Step}
    (hleft : w.token ∉ (b.step step).1.widgetTokens) : Moved b (b.step step).1 := by
  rcases hb.leaves hw hleft with ⟨p, messages, -, heq⟩ | rfl
  · rw [heq]
    exact (moved_narrate b messages).trans (moved_setPlots _ _)
  · exact moved_unmount b

/-- **A widget that a step unmounts is gone.** -/
theorem Whole.gone (hb : b.Whole) (hw : w ∈ b.widgets) {step : Step}
    (hroom : ∀ p, b.plots = some p → step.adds = true → p.Room)
    (hleft : w.token ∉ (b.step step).1.widgetTokens) : (b.step step).1.Gone w := by
  have hmoved := hb.moved_of_left hw hleft
  have hold := Nat.lt_of_lt_of_le (hb.synced.lt_nextToken hw) hmoved.hub.counter
  have htoken : w.token ∉ (b.step step).1.hub.tokens := by
    rw [(hb.step hroom).synced.tokens_eq]
    exact hleft
  rcases hb.leaves hw hleft with ⟨p, messages, hp, heq⟩ | rfl
  · have hnarrated := hb.of_course (course_narrate b messages)
    have hafter := hb.update hp (hroom p hp) messages
    rw [heq] at hold htoken hleft ⊢
    have hplots := plots_setPlots (b.narrate messages) (step.onPlots p)
    -- Were its plot among those that stay, the widget would be there still.
    have hids : w.plot ∉ (step.onPlots p).ids := fun hstays =>
      hleft (List.mem_map_of_mem (hnarrated.synced.mem_setPlots hw hstays))
    refine ⟨hold, htoken, fun v hv hsame => hids ?_, fun q hq => ?_⟩
    · rw [← (hafter.aligned _ hplots).plots_eq, ← hsame]
      exact List.mem_map_of_mem hv
    · obtain rfl := Option.some.inj (hplots.symm.trans hq)
      have haligned := hb.aligned p hp
      have hmem : w.plot ∈ p.ids := by
        rw [← haligned.plots_eq]
        exact List.mem_map_of_mem hw
      exact UInt32.lt_of_lt_of_le (haligned.ordered.below _ hmem)
        (Step.later_onPlots (hroom p hp)).counter
  · exact gone_unmount (hb.synced.lt_nextToken hw) hb

/-! ## The law -/

/-- The line about a dataset that nobody waits for. -/
def discardedLine (plot : PlotId) : LogLine :=
  .debug ("plot " ++ plot.text ++ " unmounted before its dataset arrived; discarded")

/-- The board after the fetch at an index of those under way has ended and its dataset has been
discarded: the fetch is off the list, its answers are used, and after its own events there is one
line more. -/
def discard (b : Board) (index : Nat) (plot : PlotId) : Board :=
  let run := Series.fetchDataset b.settings (b.server.ahead .data)
  { b with
    waiting := b.waiting.eraseIdx index
    server := b.server.spend .data run.used
    effects := b.effects ++ run.events.map .ofEvent ++ [.logged (discardedLine plot)] }

theorem deliverDataset_of_unmounted {token : Nat} (hnone : b.widget? token = none) (plot : PlotId)
    (result : Except Failure Series.Dataset) :
    b.deliverDataset token plot result = b.log (discardedLine plot) := by
  unfold deliverDataset
  rw [hnone]
  rfl

/-- A dataset that nobody waits for is discarded. -/
theorem settle_of_unmounted {token index : Nat} (hnone : b.widget? token = none)
    (htask : b.waiting[index]? = some (.dataset token plot)) :
    b.settle index = (b.discard index plot, true) := by
  unfold settle
  rw [htask]
  dsimp only [complete, carryOut]
  rw [deliverDataset_of_unmounted]
  · rfl
  · exact hnone

theorem retry_of_unmounted {token : Nat} (hnone : b.widget? token = none) :
    b.retry (.plot token) = (b, false) := by
  unfold retry
  dsimp only
  rw [hnone]

/-- **What is still heard of a widget**, at a later time, when the board just after its unmounting
was `gone`. -/
structure Inert (gone b : Board) (w : Widget) : Prop where
  /-- It does not come back. -/
  unmounted : b.widget? w.token = none
  /-- No notification invokes its callback. What a notification invokes can be written down while it
  runs, and to fit the widgets with these tokens is all that it does. -/
  unheard : ∀ b', b'.hub = b.hub → ∃ heard,
    pass (fun s token => s.1.hub.contains token) (noted refit) b'.hub.tokens (b', []) =
        ((b'.broadcast.1, heard), b'.broadcast.2) ∧
      b'.broadcast = (refitEach heard b', heard.length) ∧ w.token ∉ heard
  /-- Nothing is drawn on its element, no warning is logged about its dataset, and the toast does
  not speak of it. -/
  spared : Spares w.plot gone b
  /-- On its element is what it has drawn last, at the size that its canvas had. -/
  screen : ∀ d, w.picture = some d → b.onScreen w.entry.renderTarget = some d
  /-- It cannot be loaded again. -/
  retried : b.retry (.plot w.token) = (b, false)
  /-- A fetch of its dataset that is still under way ends with its own events and one line. -/
  discarded : ∀ index plot, b.waiting[index]? = some (.dataset w.token plot) →
    b.settle index = (b.discard index plot, true)

theorem Gone.widget? (h : b.Gone w) (hb : b.Whole) : b.widget? w.token = none := by
  refine List.find?_eq_none.mpr fun v hv hsame => h.token ?_
  rw [hb.synced.tokens_eq, ← of_decide_eq_true hsame]
  exact List.mem_map_of_mem hv

theorem Whole.inert (hb : b.Whole) (hw : w ∈ b.widgets) {leave : Step} {after : List Step}
    (hroomy : b.Roomy (leave :: after)) (hleft : w.token ∉ (b.step leave).1.widgetTokens) :
    Inert (b.step leave).1 ((b.step leave).1.run after) w := by
  have hroom := hroomy.tail hb
  have hwhole := hb.step hroomy.head
  obtain ⟨hgone, hspares⟩ := (hb.gone hw hroomy.head hleft).run hwhole hroom
  have hlast := hwhole.whole_run hroom
  have hnone := hgone.widget? hlast
  refine ⟨hnone, fun b' hhub => ?_, hspares, fun d hd => ?_, retry_of_unmounted hnone,
    fun index plot htask => settle_of_unmounted hnone htask⟩
  · have hnoted := pass_noted (fun b token => b.hub.contains token) refit b'.hub.tokens b' []
    rw [(broadcast_spec b').1] at hnoted
    refine ⟨b'.hub.tokens, hnoted, (broadcast_spec b').2, ?_⟩
    rw [hhub]
    exact hgone.token
  · have hcurrent := hb.current w hw d hd
    rw [hb.named w hw] at hcurrent ⊢
    change onScreen _ w.plot.renderTarget = _
    rw [hspares.onScreen, (hb.moved_of_left hw hleft).onScreen]
    exact hcurrent

/-- **An unmounted widget is inert.** Anything may happen to a board with a part mounted on it, as
long as there are ids for new plots; some step unmounts a widget, and again anything may happen. -/
theorem inert_law {b : Board} {w : Widget} (part : Part) (tab : Tab) (promptly : Bool)
    (before : List Step) (leave : Step) (after : List Step) (hfresh : b.Fresh)
    (hroomy : (b.mount part tab promptly).Roomy (before ++ leave :: after))
    (hmounted : w ∈ ((b.mount part tab promptly).run before).widgets)
    (hleft : w.token ∉ ((b.mount part tab promptly).run (before ++ [leave])).widgetTokens) :
    Inert ((b.mount part tab promptly).run (before ++ [leave]))
      ((b.mount part tab promptly).run (before ++ leave :: after)) w := by
  obtain ⟨hwhole, hroom⟩ := (hfresh.mount part tab promptly).run hroomy
  have hstep : (b.mount part tab promptly).run (before ++ [leave]) =
      (((b.mount part tab promptly).run before).step leave).1 := run_append _ _ _
  have hafter : (b.mount part tab promptly).run (before ++ leave :: after) =
      (((b.mount part tab promptly).run before).step leave).1.run after := run_append _ _ _
  rw [hstep] at hleft ⊢
  rw [hafter]
  exact hwhole.inert hmounted hroom hleft

/-- A second plot comes, both canvases enter the page, and the first plot goes while its dataset is
under way; then the fetch ends and the window gets another size. -/
theorem inert_law_removed :
    ((empty .default unreachable).mount .dashboard .model false).waiting[2]? =
        some (.dataset 0 ⟨1⟩) ∧
      Inert (((empty .default unreachable).mount .dashboard .model false).run
          [.addPlot, .place, .removePlot ⟨1⟩])
        (((empty .default unreachable).mount .dashboard .model false).run
          [.addPlot, .place, .removePlot ⟨1⟩, .settle 2, .resizeWindow (800, 600)])
        { token := 0, entry := .ofId ⟨1⟩, canvas := some ⟨200, 150⟩ } := by
  refine ⟨rfl, inert_law .dashboard .model false [.addPlot, .place] (.removePlot ⟨1⟩)
    [.settle 2, .resizeWindow (800, 600)] ⟨⟨rfl, rfl⟩, rfl, rfl⟩ ?_ ?_ ?_⟩
  · intro p hp
    obtain rfl := Option.some.inj hp
    decide
  · exact List.mem_cons_self
  · decide

end Board

end ResultsBoard
