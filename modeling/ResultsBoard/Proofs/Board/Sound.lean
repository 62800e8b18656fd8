import ResultsBoard.Proofs.Board.Change
import ResultsBoard.Proofs.Plots.Text

/-!
# Sound boards

What is known of a board at any moment after a part has been mounted on it, whatever has happened
since.

* `Moved`: to mount and to unmount widgets draws nothing, reports nothing, and hands out only new
  tokens.
* `Sound`: the widgets agree with the subscriptions and with the fetches under way, their traces are
  up to date, and what was last drawn on an element is the picture of the widget that shows there.
  A widget that is mounted or unmounted keeps this.
* `KeepsUp`: from one board to another, a widget whose picture has changed has been drawn again.
  `Whole.keepsUp_of_change`: so it is with every change.
* `Whole`: a sound board whose plots are distinct and agree with their column. Every change keeps
  this, every step does, and `Fresh.mount` brings it about for every part.
-/

namespace ResultsBoard

open Metadata Resize

/-! ## The screen -/

/-- The last drawing on an element among some effects. -/
def Effect.lastOn (effects : List Effect) (target : String) : Option Drawing :=
  ((effects.filterMap drawing?).filter fun d => d.target = target).getLast?

theorem Effect.lastOn_drew (d : Drawing) : lastOn [drew d] d.target = some d := by
  simp [lastOn, drawing?]

theorem Effect.lastOn_append (effects more : List Effect) (target : String) :
    lastOn (effects ++ more) target = (lastOn more target).or (lastOn effects target) := by
  unfold lastOn
  rw [List.filterMap_append, List.filter_append, List.getLast?_append]

theorem Effect.lastOn_eq_none {effects : List Effect} {target : String}
    (h : ∀ e ∈ effects, ∀ d, e.drawing? = some d → d.target ≠ target) :
    lastOn effects target = none := by
  unfold lastOn
  rw [List.getLast?_eq_none_iff, List.filter_eq_nil_iff]
  intro d hd
  obtain ⟨e, he, hdrawn⟩ := List.mem_filterMap.mp hd
  simpa using h e he d hdrawn

theorem Effect.drawing?_of_plain {e : Effect} (h : e.Plain) : e.drawing? = none := by
  cases e with
  | drew d => exact absurd h id
  | _ => rfl

namespace Board

variable {b b' b'' : Board} {p : Plots}

/-- What is on the element of a plot: the last drawing on it. -/
def onScreen (b : Board) (target : String) : Option Drawing := Effect.lastOn b.effects target

/-- Drawings elsewhere leave an element as it is. -/
theorem onScreen_of_effects {effects : List Effect} {target : String}
    (heffects : b'.effects = b.effects ++ effects)
    (h : ∀ e ∈ effects, ∀ d, e.drawing? = some d → d.target ≠ target) :
    b'.onScreen target = b.onScreen target := by
  unfold onScreen
  rw [heffects, Effect.lastOn_append, Effect.lastOn_eq_none h, Option.none_or]

/-! ## Mounting and unmounting -/

/-- **Widgets have come and gone**: only new tokens are in use that were not before, the toast is as
it was, and there are only lines for following the program. -/
structure Moved (b b' : Board) : Prop where
  hub : b.hub.Later b'.hub
  toast : b'.toast = b.toast
  effects : ∃ messages, b'.effects = (b.narrate messages).effects

theorem Moved.refl (b : Board) : Moved b b := ⟨.refl _, rfl, [], (List.append_nil _).symm⟩

theorem Moved.trans (h : Moved b b') (h' : Moved b' b'') : Moved b b'' where
  hub := h.hub.trans h'.hub
  toast := h'.toast.trans h.toast
  effects := by
    obtain ⟨messages, heffects⟩ := h.effects
    obtain ⟨more, heffects'⟩ := h'.effects
    refine ⟨messages ++ more, ?_⟩
    rw [heffects']
    unfold narrate emit at heffects ⊢
    rw [heffects, List.map_append, List.append_assoc]

theorem moved_narrate (b : Board) (messages : List String) : Moved b (b.narrate messages) :=
  ⟨.refl _, rfl, messages, rfl⟩

theorem moved_mountWidget (b : Board) (entry : PlotEntry) : Moved b (b.mountWidget entry) where
  hub := Registry.later_subscribe b.hub entry.id ()
  toast := rfl
  effects := ⟨[_, _], List.append_assoc b.effects [_] [_]⟩

theorem moved_unmountWidget (b : Board) (w : Widget) : Moved b (b.unmountWidget w) where
  hub := Registry.later_remove b.hub w.token
  toast := rfl
  effects := ⟨[_, _], List.append_assoc b.effects [_] [_]⟩

theorem mem_mountWidget {w : Widget} {entry : PlotEntry} (hw : w ∈ (b.mountWidget entry).widgets) :
    w ∈ b.widgets ∨ w = { token := b.hub.nextToken, entry } := by
  rcases List.mem_append.mp hw with hold | hnew
  · exact .inl hold
  · exact .inr (List.mem_singleton.mp hnew)

theorem traffic_moved : Traffic Moved where
  refl := .refl
  trans := .trans
  mount := moved_mountWidget
  unmount := moved_unmountWidget

theorem moved_setPlots (b : Board) (p : Plots) : Moved b (b.setPlots p) :=
  traffic_moved.setPlots ⟨.refl _, rfl, [], (List.append_nil _).symm⟩

theorem moved_unmount (b : Board) : Moved b b.unmount := by
  obtain ⟨hhub, htoast, heffects⟩ := traffic_moved.unmountAll b b.widgets
  exact ⟨hhub, htoast, heffects⟩

/-- Nothing is drawn. -/
theorem Moved.onScreen (h : Moved b b') (target : String) :
    b'.onScreen target = b.onScreen target := by
  obtain ⟨messages, heffects⟩ := h.effects
  refine onScreen_of_effects heffects fun e he d hdrawn => ?_
  obtain ⟨message, -, rfl⟩ := List.mem_map.mp he
  cases hdrawn

/-! ## Sound boards -/

/-- **Widgets, subscriptions, fetches and the screen agree.** -/
structure Sound (b : Board) : Prop where
  synced : b.Synced
  labeled : ∀ task ∈ b.waiting, b.Labeled task
  /-- Each widget draws into the element named after its plot. -/
  named : ∀ w ∈ b.widgets, w.entry = .ofId w.plot
  /-- Its element shows its traces at the size of its canvas. -/
  current : ∀ w ∈ b.widgets, ∀ d, w.picture = some d → b.onScreen w.entry.renderTarget = some d
  /-- Its traces are those of its dataset, or count as equal to them. -/
  upToDate : ∀ w ∈ b.widgets, w.UpToDate

theorem Synced.lt_nextToken (h : b.Synced) {w : Widget} (hw : w ∈ b.widgets) :
    w.token < b.hub.nextToken := by
  refine h.ordered.below w.token ?_
  rw [h.tokens_eq]
  exact List.mem_map_of_mem hw

theorem Sound.mountWidget (h : b.Sound) {entry : PlotEntry} (hnamed : entry = .ofId entry.id) :
    (b.mountWidget entry).Sound := by
  refine ⟨h.synced.mountWidget entry, ?_, ?_, ?_, ?_⟩
  · intro task htask token plot heq
    rcases List.mem_append.mp htask with hold | hnew
    · obtain ⟨hlt, hplots⟩ := h.labeled task hold token plot heq
      refine ⟨Nat.lt_succ_of_lt hlt, fun w hw htoken => ?_⟩
      rcases mem_mountWidget hw with hw | rfl
      · exact hplots w hw htoken
      · exact absurd htoken (Nat.ne_of_gt hlt)
    · obtain ⟨rfl, rfl⟩ : token = b.hub.nextToken ∧ plot = entry.id := by
        rw [List.mem_singleton.mp hnew] at heq
        cases heq
        exact ⟨rfl, rfl⟩
      refine ⟨Nat.lt_succ_self _, fun w hw htoken => ?_⟩
      rcases mem_mountWidget hw with hw | rfl
      · exact absurd htoken (Nat.ne_of_lt (h.synced.lt_nextToken hw))
      · rfl
  · intro w hw
    rcases mem_mountWidget hw with hw | rfl
    · exact h.named w hw
    · exact hnamed
  · intro w hw d hd
    rw [(moved_mountWidget b entry).onScreen]
    rcases mem_mountWidget hw with hw | rfl
    · exact h.current w hw d hd
    · cases hd
  · intro w hw
    rcases mem_mountWidget hw with hw | rfl
    · exact h.upToDate w hw
    · exact .inl rfl

theorem Sound.unmountWidget (h : b.Sound) (w : Widget) : (b.unmountWidget w).Sound := by
  have hwidgets : ∀ v ∈ (b.unmountWidget w).widgets, v ∈ b.widgets := fun v hv =>
    List.mem_of_mem_filter hv
  refine ⟨h.synced.unmountWidget w, ?_, fun v hv => h.named v (hwidgets v hv), ?_,
    fun v hv => h.upToDate v (hwidgets v hv)⟩
  · intro task htask token plot heq
    obtain ⟨hlt, hplots⟩ := h.labeled task htask token plot heq
    exact ⟨hlt, fun v hv => hplots v (hwidgets v hv)⟩
  · intro v hv d hd
    rw [(moved_unmountWidget b w).onScreen]
    exact h.current v (hwidgets v hv) d hd

theorem Sound.unmountAll (h : b.Sound) (gone : List Widget) :
    (gone.foldl Board.unmountWidget b).Sound := by
  induction gone generalizing b with
  | nil => exact h
  | cons w rest ih => exact ih (h.unmountWidget w)

theorem Sound.mountAll (h : b.Sound) {fresh : List PlotEntry}
    (hnamed : ∀ entry ∈ fresh, entry = .ofId entry.id) :
    (fresh.foldl Board.mountWidget b).Sound := by
  induction fresh generalizing b with
  | nil => exact h
  | cons entry rest ih =>
    obtain ⟨hfirst, hrest⟩ := List.forall_mem_cons.mp hnamed
    exact ih (h.mountWidget hfirst) hrest

theorem Sound.arrange (h : b.Sound) {entries : List PlotEntry}
    (hnamed : ∀ entry ∈ entries, entry = .ofId entry.id) : (b.arrange entries).Sound := by
  refine (h.unmountAll _).mountAll fun entry hentry => ?_
  exact hnamed entry (List.mem_of_mem_filter hentry)

/-! ## Whole boards -/

/-- **A sound board whose plots are distinct**, and in line with their column if there is one. -/
structure Whole (b : Board) : Prop extends Sound b where
  distinct : (b.widgets.map Widget.plot).Nodup
  aligned : ∀ p, b.plots = some p → b.Aligned p

theorem Aligned.plots_eq (h : b.Aligned p) : b.widgets.map Widget.plot = p.ids := by
  unfold Plots.ids
  rw [← h.entries, List.map_map]
  rfl

theorem Whole.of_aligned (h : b.Sound) (haligned : b.Aligned p) : b.Whole := by
  refine ⟨h, ?_, fun q hq => ?_⟩
  · rw [haligned.plots_eq]
    exact haligned.ordered.nodup
  · obtain rfl := Option.some.inj (haligned.plots.symm.trans hq)
    exact haligned

theorem Still.widgetPlots (h : Still b b') (hnodup : b.widgetTokens.Nodup) :
    b'.widgets.map Widget.plot = b.widgets.map Widget.plot := by
  have hlabels := congrArg (List.map fun l : Nat × PlotEntry => l.2.id) (h.labels hnodup)
  rw [List.map_map, List.map_map] at hlabels
  exact hlabels

theorem Whole.named_of_still (h : b.Whole) (hs : Still b b') :
    ∀ w ∈ b'.widgets, w.entry = .ofId w.plot := by
  intro w hw
  obtain ⟨v, hv, hlabel⟩ := hs.exists_before h.synced.nodup hw
  have hentry : v.entry = w.entry := congrArg Prod.snd hlabel
  have hnamed := h.named v hv
  unfold Widget.plot at hnamed ⊢
  rwa [← hentry]

/-! ## Changes -/

/-- Widgets with different tokens show different plots, so they draw into different elements. -/
theorem Whole.target_ne (h : b.Whole) {v w : Widget} (hv : v ∈ b.widgets) (hw : w ∈ b.widgets)
    (hne : v.token ≠ w.token) : w.entry.renderTarget ≠ v.entry.renderTarget := by
  rw [h.named v hv, h.named w hw]
  intro hsame
  have hplots : w.plot = v.plot := PlotId.renderTarget_injective hsame
  exact hne (congrArg Widget.token (List.inj_on_of_nodup_map h.distinct hw hv hplots)).symm

/-- **The screen keeps up with the widgets**: on the element of each widget its picture has been
drawn last, or nothing has been drawn there and the widget has had this picture before. -/
def KeepsUp (b b' : Board) : Prop :=
  ∃ effects, b'.effects = b.effects ++ effects ∧ ∀ w ∈ b'.widgets, ∀ d, w.picture = some d →
    Effect.lastOn effects w.entry.renderTarget = some d ∨
      Effect.lastOn effects w.entry.renderTarget = none ∧
        ∃ v ∈ b.widgets, v.token = w.token ∧ v.picture = some d

/-- A picture is for the element of its widget. -/
theorem target_of_picture {w : Widget} {d : Drawing} (h : w.picture = some d) :
    d.target = w.entry.renderTarget := by
  obtain ⟨canvas, -, rfl⟩ := Option.map_eq_some_iff.mp h
  rfl

/-- So what is on the screen stays the picture of its widget. -/
theorem KeepsUp.current (h : KeepsUp b b')
    (hcurrent : ∀ w ∈ b.widgets, ∀ d, w.picture = some d →
      b.onScreen w.entry.renderTarget = some d) :
    ∀ w ∈ b'.widgets, ∀ d, w.picture = some d → b'.onScreen w.entry.renderTarget = some d := by
  obtain ⟨effects, heffects, hdrawn⟩ := h
  intro w hw d hd
  unfold onScreen at hcurrent ⊢
  rw [heffects, Effect.lastOn_append]
  rcases hdrawn w hw d hd with hlast | ⟨hnone, v, hv, -, hpicture⟩
  · rw [hlast, Option.some_or]
  · have htarget : v.entry.renderTarget = w.entry.renderTarget :=
      (target_of_picture hpicture).symm.trans (target_of_picture hd)
    rw [hnone, Option.none_or, ← htarget]
    exact hcurrent v hv d hpicture

/-- Where nothing is drawn, each picture must have been there before. -/
theorem KeepsUp.of_silent (effects : List Effect) (heffects : b'.effects = b.effects ++ effects)
    (hsilent : ∀ e ∈ effects, e.drawing? = none)
    (hwidgets : ∀ w ∈ b'.widgets, w.picture = none ∨ w ∈ b.widgets) : KeepsUp b b' := by
  refine ⟨effects, heffects, fun w hw d hd => .inr ⟨?_, w, ?_, rfl, hd⟩⟩
  · refine Effect.lastOn_eq_none fun e he d' hdrawn => ?_
    rw [hsilent e he] at hdrawn
    cases hdrawn
  · rcases hwidgets w hw with hnone | hmem
    · rw [hnone] at hd
      cases hd
    · exact hmem

theorem KeepsUp.refl (b : Board) : KeepsUp b b :=
  .of_silent [] (List.append_nil _).symm (List.forall_mem_nil _) fun _ hw => .inr hw

/-- A widget that is painted shows its picture, and the others keep theirs. -/
theorem Whole.keepsUp_modify (h : b.Whole) (token : Nat) {f : Widget → Widget × List Drawing}
    (hf : ∀ w : Widget, w.Paints (f w)) : KeepsUp b (b.modify token f) := by
  unfold modify
  split
  · exact .refl b
  · rename_i w hw
    obtain ⟨hmem, htoken⟩ := mem_of_widget? hw
    refine ⟨(f w).2.map Effect.drew, rfl, fun after hafter d hd => ?_⟩
    obtain ⟨v, hv, rfl⟩ := List.mem_map.mp hafter
    by_cases hsame : v.token = token
    · rw [if_pos hsame] at hd ⊢
      rcases (hf w).drawn with ⟨hpicture, hnone⟩ | hall
      · refine .inr ⟨?_, w, hmem, (congrArg Prod.fst (hf w).label).symm, hpicture ▸ hd⟩
        rw [hnone]
        rfl
      · rw [hall, hd, ← target_of_picture hd]
        exact .inl (Effect.lastOn_drew d)
    · rw [if_neg hsame] at hd ⊢
      have hne : v.token ≠ w.token := fun heq => hsame (heq.trans htoken)
      refine .inr ⟨Effect.lastOn_eq_none fun e he d' hd' => ?_, v, hv, rfl, hd⟩
      obtain ⟨drawing, hdrawing, rfl⟩ := List.mem_map.mp he
      cases hd'
      rw [(hf w).target d' hdrawing]
      exact h.target_ne hv hmem hne

/-- **With every change the screen keeps up.** -/
theorem Whole.keepsUp_of_change (h : b.Whole) (hc : Change b b') : KeepsUp b b' := by
  cases hc with
  | paint token hf => exact h.keepsUp_modify token hf
  | emit heffects =>
    exact .of_silent _ rfl (fun e he => Effect.drawing?_of_plain (heffects e he)) fun _ => .inr
  | report => exact .of_silent [_] rfl (by simp [Effect.drawing?]) fun _ => .inr
  | reportDocument => exact .of_silent [_] rfl (by simp [Effect.drawing?]) fun _ => .inr
  | elsewhere _ _ _ hwidgets _ _ heffects =>
    refine .of_silent [] ?_ (List.forall_mem_nil _) fun w hw => .inr (hwidgets ▸ hw)
    rw [heffects, List.append_nil]
  | _ => exact .of_silent [] (List.append_nil _).symm (List.forall_mem_nil _) fun _ => .inr

theorem waiting_modify (b : Board) (token : Nat) (f : Widget → Widget × List Drawing) :
    (b.modify token f).waiting = b.waiting := by
  unfold modify
  split <;> rfl

/-- A task that is started is for a mounted widget. -/
theorem Sound.labeled_of_change (h : b.Sound) (hc : Change b b') :
    ∀ task ∈ b'.waiting, b'.Labeled task := by
  have hstays : b'.waiting ⊆ b.waiting → ∀ task ∈ b'.waiting, b'.Labeled task :=
    fun hsubset task htask =>
      (h.labeled task (hsubset htask)).of_still hc.still h.synced.nodup
  cases hc with
  | paint token hf =>
    refine hstays ?_
    rw [waiting_modify]
    exact List.Subset.refl _
  | spawn htask =>
    intro task hmem
    rcases List.mem_append.mp hmem with hold | hnew
    · exact h.labeled task hold
    · rw [List.mem_singleton.mp hnew]
      intro token plot heq
      obtain ⟨w, hw, rfl, rfl⟩ := htask token plot heq
      refine ⟨h.synced.lt_nextToken hw, fun v hv htoken => ?_⟩
      rw [List.inj_on_of_nodup_map h.synced.nodup hv hw htoken]
  | take hwaiting => exact hstays hwaiting
  | elsewhere _ _ _ _ _ hwaiting _ => exact hstays (hwaiting ▸ List.Subset.refl _)
  | _ => exact h.labeled

/-- The widgets after one of them has been painted. -/
theorem mem_modify {token : Nat} {f : Widget → Widget × List Drawing} {after : Widget}
    (h : after ∈ (b.modify token f).widgets) :
    (∃ w ∈ b.widgets, after = (f w).1) ∨ after ∈ b.widgets ∧ after.token ≠ token := by
  unfold modify at h
  split at h
  · rename_i hnone
    exact .inr ⟨h, by simpa using List.find?_eq_none.mp hnone after h⟩
  · rename_i w hw
    obtain ⟨v, hv, rfl⟩ := List.mem_map.mp h
    split
    · exact .inl ⟨w, (mem_of_widget? hw).1, rfl⟩
    · rename_i hother
      exact .inr ⟨hv, hother⟩

theorem Sound.upToDate_of_change (h : b.Sound) (hc : Change b b') :
    ∀ w ∈ b'.widgets, w.UpToDate := by
  cases hc with
  | paint token hf =>
    intro w hw
    rcases mem_modify hw with ⟨v, hv, rfl⟩ | ⟨hmem, -⟩
    · exact (hf v).upToDate (h.upToDate v hv)
    · exact h.upToDate w hmem
  | elsewhere _ _ _ hwidgets _ _ _ => exact fun w hw => h.upToDate w (hwidgets ▸ hw)
  | _ => exact h.upToDate

/-- **Every change keeps a board whole.** -/
theorem Whole.of_change (h : b.Whole) (hc : Change b b') : b'.Whole where
  synced := h.synced.of_still hc.still
  labeled := h.labeled_of_change hc
  named := h.named_of_still hc.still
  current := (h.keepsUp_of_change hc).current h.current
  upToDate := h.upToDate_of_change hc
  distinct := by
    rw [hc.still.widgetPlots h.synced.nodup]
    exact h.distinct
  aligned p hp := (h.aligned p (hc.still.plots ▸ hp)).of_still hc.still

theorem Whole.of_course (h : b.Whole) (hc : Course b b') : b'.Whole := by
  induction hc with
  | refl => exact h
  | tail _ hlast ih => exact ih.of_change hlast

/-! ## Steps -/

theorem plots_setPlots (b : Board) (p : Plots) : (b.setPlots p).plots = some p :=
  arrange_keeps Board.plots (fun _ _ => rfl) (fun _ _ => rfl) _ _

/-- The entries of aligned plots are named after their ids. -/
theorem Whole.named_entries (h : b.Whole) (hp : b.plots = some p) :
    ∀ entry ∈ p.entries, entry = .ofId entry.id := by
  intro entry hentry
  rw [← (h.aligned p hp).entries] at hentry
  obtain ⟨w, hw, rfl⟩ := List.mem_map.mp hentry
  exact h.named w hw

theorem Sound.setPlots (h : b.Sound) (hnamed : ∀ entry ∈ p.entries, entry = .ofId entry.id)
    (hp : p.Ordered)
    (hkeyed : Plots.keyed (b.widgets.map Widget.entry) p.entries = p.entries) :
    (b.setPlots p).Whole := by
  have hupdated : Sound { b with plots := some p, frames := b.frames ++ [Frame.mk p.size] } :=
    ⟨⟨h.synced.ordered, h.synced.subscribers⟩, h.labeled, h.named, h.current, h.upToDate⟩
  exact .of_aligned (hupdated.arrange hnamed) (h.synced.setPlots hp hkeyed)

/-- The entries after a step were there before or are named after their ids. -/
theorem Step.named_onPlots (step : Step) (h : ∀ entry ∈ p.entries, entry = .ofId entry.id) :
    ∀ entry ∈ (step.onPlots p).entries, entry = .ofId entry.id := by
  cases step with
  | addPlot =>
    intro entry hentry
    rcases List.mem_append.mp hentry with hold | hnew
    · exact h entry hold
    · rw [List.mem_singleton.mp hnew]
      rfl
  | removePlot id =>
    intro entry hentry
    refine h entry ?_
    change entry ∈ (p.remove id).1.entries at hentry
    unfold Plots.remove at hentry
    split at hentry
    · exact List.mem_of_mem_filter hentry
    · exact hentry
  | _ => exact h

/-- An update of the plots by a step keeps a board whole. -/
theorem Whole.update (h : b.Whole) (hp : b.plots = some p) {step : Step}
    (hroom : step.adds = true → p.Room) (messages : List String) :
    ((b.narrate messages).setPlots (step.onPlots p)).Whole := by
  have hnarrated := h.of_course (course_narrate b messages)
  have haligned := hnarrated.aligned p hp
  refine hnarrated.toSound.setPlots (step.named_onPlots (h.named_entries hp))
    (Step.ordered_onPlots haligned.ordered hroom) ?_
  rw [haligned.entries]
  exact step.keyed_onPlots haligned.ordered

theorem widgets_unmount (b : Board) : b.unmount.widgets = [] := by
  show (b.widgets.foldl unmountWidget b).widgets = []
  rw [widgets_unmountAll, List.filter_eq_nil_iff]
  intro w hw
  simpa using ⟨w, hw, rfl⟩

theorem Whole.unmount (h : b.Whole) : b.unmount.Whole := by
  have hsound := h.toSound.unmountAll b.widgets
  refine ⟨⟨⟨hsound.synced.ordered, hsound.synced.subscribers⟩, hsound.labeled, hsound.named,
    hsound.current, hsound.upToDate⟩, ?_, fun p hp => ?_⟩
  · rw [widgets_unmount]
    exact List.nodup_nil
  · cases hp

/-- **Every step keeps a board whole**, as long as there are ids for new plots. -/
theorem Whole.step (h : b.Whole) {step : Step}
    (hroom : ∀ p, b.plots = some p → step.adds = true → p.Room) : (b.step step).1.Whole := by
  rcases step_cases h.labeled h.synced.nodup step with hcourse | ⟨p, messages, hp, heq⟩ | rfl
  · exact h.of_course hcourse
  · rw [heq]
    exact h.update hp (hroom p hp) messages
  · exact h.unmount

/-! ## Runs -/

/-- There are ids for all plots that some steps add. -/
def Roomy (b : Board) (steps : List Step) : Prop :=
  ∀ p, b.plots = some p → p.nextId.toNat + steps.countP Step.adds < 2 ^ 32

theorem Roomy.head {step : Step} {rest : List Step} (h : b.Roomy (step :: rest)) :
    ∀ p, b.plots = some p → step.adds = true → p.Room := by
  intro p hp hadds
  have hroom := h p hp
  rw [List.countP_cons_of_pos hadds] at hroom
  unfold Plots.Room
  omega

/-- The plots after a step are those of before, with what the step does to them, or there is no
column any more. -/
theorem Whole.plots_step (h : b.Whole) (step : Step) :
    (b.step step).1.plots = none ∨
      ∃ p, b.plots = some p ∧
        ((b.step step).1.plots = some p ∨ (b.step step).1.plots = some (step.onPlots p)) := by
  rcases step_cases h.labeled h.synced.nodup step with hcourse | ⟨p, messages, hp, heq⟩ | rfl
  · rw [hcourse.still.plots]
    cases hp : b.plots with
    | none => exact .inl rfl
    | some p => exact .inr ⟨p, rfl, .inl rfl⟩
  · refine .inr ⟨p, hp, .inr ?_⟩
    rw [heq]
    exact plots_setPlots _ _
  · exact .inl rfl

theorem Step.counter_onPlots {step : Step} (hroom : step.adds = true → p.Room) :
    (step.onPlots p).nextId.toNat = p.nextId.toNat + [step].countP Step.adds := by
  cases step with
  | addPlot => exact Plots.nextId_add (hroom rfl)
  | removePlot id => exact congrArg UInt32.toNat (Plots.nextId_remove p id)
  | _ => rfl

theorem Roomy.tail (hb : b.Whole) {step : Step} {rest : List Step} (h : b.Roomy (step :: rest)) :
    (b.step step).1.Roomy rest := by
  intro q hq
  rcases hb.plots_step step with hnone | ⟨p, hp, hsame | hstep⟩
  · rw [hnone] at hq
    cases hq
  · obtain rfl := Option.some.inj (hsame.symm.trans hq)
    have hroom := h p hp
    rw [List.countP_cons] at hroom
    omega
  · obtain rfl := Option.some.inj (hstep.symm.trans hq)
    have hroom := h p hp
    rw [Step.counter_onPlots (h.head p hp)]
    rw [← List.singleton_append, List.countP_append] at hroom
    omega

/-- **A board stays whole along a run**, and there is room for what is still to come. -/
theorem Whole.run (h : b.Whole) {first second : List Step} (hroomy : b.Roomy (first ++ second)) :
    (b.run first).Whole ∧ (b.run first).Roomy second := by
  induction first generalizing b with
  | nil => exact ⟨h, hroomy⟩
  | cons step rest ih => exact ih (h.step hroomy.head) (hroomy.tail h)

theorem Whole.whole_run (h : b.Whole) {steps : List Step} (hroomy : b.Roomy steps) :
    (b.run steps).Whole := by
  rw [← List.append_nil steps] at hroomy
  exact (h.run hroomy).1

/-! ## Mounting -/

/-- A board on which nothing is mounted and no fetch is under way. -/
structure Fresh (b : Board) : Prop extends Bare b where
  plots : b.plots = none
  waiting : b.waiting = []

theorem Whole.pause (h : b.Whole) (promptly : Bool) : (b.pause promptly).Whole :=
  h.of_course (course_pause h.labeled h.synced.nodup promptly)

theorem Fresh.whole (h : b.Fresh) : b.Whole := by
  have hsynced : b.Synced := by
    refine ⟨Registry.ordered_of_no_subscribers h.subscribers, ?_⟩
    rw [h.subscribers, h.widgets]
    rfl
  refine ⟨⟨hsynced, ?_, ?_, ?_, ?_⟩, ?_, ?_⟩
  · rw [h.waiting]
    exact List.forall_mem_nil _
  · rw [h.widgets]
    exact List.forall_mem_nil _
  · rw [h.widgets]
    exact List.forall_mem_nil _
  · rw [h.widgets]
    exact List.forall_mem_nil _
  · rw [h.widgets]
    exact List.nodup_nil
  · rw [h.plots]
    exact fun _ hp => nomatch hp

theorem Whole.mountPlots (h : b.Whole) (hwidgets : b.widgets = []) : b.mountPlots.Whole := by
  refine h.toSound.setPlots (fun entry hentry => ?_) Plots.ordered_initial ?_
  · rw [List.mem_singleton.mp hentry]
    rfl
  · rw [hwidgets]
    exact Plots.keyed_nil _

theorem Fresh.mountWidget (h : b.Fresh) (id : PlotId) : (b.mountWidget (.ofId id)).Whole := by
  refine ⟨h.whole.toSound.mountWidget rfl, ?_, fun p hp => ?_⟩
  · show ((b.widgets ++ [_]).map Widget.plot).Nodup
    rw [h.widgets]
    exact List.nodup_singleton _
  · change b.plots = some p at hp
    rw [h.plots] at hp
    cases hp

theorem Fresh.mountDashboard (h : b.Fresh) (tab : Tab) (promptly : Bool) :
    (b.mountDashboard tab promptly).Whole := by
  have hlisten : b.listen.Fresh := ⟨⟨h.subscribers, h.widgets⟩, h.plots, h.waiting⟩
  have hbrowser := course_mountBrowser b.listen tab
  have hwhole := hlisten.whole.of_course hbrowser
  have hpause := course_pause hwhole.labeled hwhole.synced.nodup promptly
  refine ((hwhole.of_course hpause).mountPlots ?_).pause promptly
  exact (hlisten.toBare.of_still (hbrowser.trans hpause).still).widgets

/-- **Every part is mounted whole.** -/
theorem Fresh.mount (h : b.Fresh) (part : Part) (tab : Tab) (promptly : Bool) :
    (b.mount part tab promptly).Whole := by
  cases part with
  | browser => exact (h.whole.of_course (course_mountBrowser b tab)).pause promptly
  | widget id canRemove => exact (h.mountWidget id).pause promptly
  | plots => exact (h.whole.mountPlots h.widgets).pause promptly
  | dashboard => exact h.mountDashboard tab promptly
  | page path =>
    have hlog : (b.log ⟨.info, "dashboard starting against " ++ b.settings.apiBase⟩).Fresh :=
      ⟨⟨h.subscribers, h.widgets⟩, h.plots, h.waiting⟩
    unfold Board.mount
    dsimp only
    split
    · exact hlog.mountDashboard tab promptly
    · exact hlog.whole
  | _ => exact h.whole

end Board

end ResultsBoard
