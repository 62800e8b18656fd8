import Mathlib.Data.List.Chain
import ResultsBoard.Proofs.Board.Inert
import ResultsBoard.Proofs.Board.Reports

/-!
# The fetches of a widget

A widget (`PlotWidget`) fetches its dataset when it is mounted and whenever it is loaded again, and
it takes every result for the latest one. So it is as long as it is loaded again only after a
failure: then one fetch has ended before the next one is started.

* `Flight`: a widget is mounted, it is loaded again, or a fetch ends. `Board.flight?` reads off a
  step what it is for the widget with a token, and `Board.flights` does for a run.
* `Logbook`: what the flights of a widget tell of its dataset and of the fetches under way.
* `Calm`: nothing has happened to the dataset of a widget. `upkeep_calm`, `calm_*`: so it is with
  canvases, documents and other widgets.
* `flown_step`: every step that mounts nothing does to the dataset and to the fetches under way what
  its flight says.
-/

namespace ResultsBoard

open Fetch Metadata

/-! ## Flights -/

/-- What happens to the dataset of a widget. -/
inductive Flight where
  /-- The widget is mounted, which starts a fetch. -/
  | mounted
  /-- The dataset is loaded again, which starts another fetch. -/
  | retried
  /-- A fetch ends. -/
  | ended (result : Except Failure Series.Dataset)

namespace Flight

/-- The state of the dataset afterwards. -/
def state : Flight → State Series.Dataset
  | mounted | retried => .loading
  | ended result => .ofResult result

/-- The failure that a fetch ends in. -/
def failure? : Flight → Option Failure
  | mounted | retried => none
  | ended result => (State.ofResult result).failure?

/-- Whether a fetch ends. -/
def isEnd : Flight → Bool
  | ended _ => true
  | mounted | retried => false

/-- Whether the dataset is loaded again. -/
def isRetry : Flight → Bool
  | retried => true
  | mounted | ended _ => false

/-- **What may follow**: a fetch that has been started ends, and after a failure the dataset is
loaded again. -/
inductive Next : Flight → Flight → Prop where
  | ended {flight : Flight} (hstarted : flight.state = .loading)
      (result : Except Failure Series.Dataset) : Next flight (.ended result)
  | retried (failure : Failure) : Next (.ended (.error failure)) .retried

theorem eq_of_state_failed {flight : Flight} {failure : Failure}
    (h : flight.state = .failed failure) : flight = .ended (.error failure) := by
  rcases flight with _ | _ | _ | _ <;> cases h
  rfl

theorem eq_of_state_ready {flight : Flight} {data : Series.Dataset}
    (h : flight.state = .ready data) : flight = .ended (.ok data) := by
  rcases flight with _ | _ | _ | _ <;> cases h
  rfl

/-- Nothing follows a dataset that has arrived. -/
theorem not_next_ok (data : Series.Dataset) (flight : Flight) :
    ¬ Next (.ended (.ok data)) flight := by
  intro h
  cases h with
  | ended hstarted => cases hstarted

end Flight

open Flight in
/-- **What the flights of a widget tell**, when its dataset is in a state and there are so many
fetches under way for it. -/
structure Logbook (history : List Flight) (dataset : State Series.Dataset) (inFlight : Nat) :
    Prop where
  /-- The first fetch is started by mounting. -/
  first : history.head? = some mounted
  /-- A fetch ends before the next one is started, and that is after a failure. -/
  alternating : history.IsChain Next
  /-- The dataset is in the state that the last flight has left. -/
  last : ∃ flight ∈ history.getLast?, flight.state = dataset
  /-- One fetch is under way as long as the dataset is loading, and none otherwise. -/
  single : inFlight = if dataset.isLoading then 1 else 0
  /-- The fetches that have ended and those under way have been started by mounting and by loading
  again, one each time. -/
  loads : history.countP isEnd + inFlight = 1 + history.countP isRetry

namespace Logbook

variable {history more : List Flight} {dataset dataset' : State Series.Dataset} {n n' : Nat}

theorem mounted : Logbook [.mounted] .loading 1 where
  first := rfl
  alternating := List.isChain_singleton _
  last := ⟨.mounted, rfl, rfl⟩
  single := rfl
  loads := rfl

/-- A flight is added that may follow the last one. -/
theorem concat (h : Logbook history dataset n) {next : Flight}
    (hnext : ∀ flight : Flight, flight.state = dataset → flight.Next next)
    (hsingle : n' = if next.state.isLoading then 1 else 0)
    (hloads : [next].countP Flight.isEnd + n' = n + [next].countP Flight.isRetry) :
    Logbook (history ++ [next]) next.state n' where
  first := by rw [List.head?_append, h.first, Option.some_or]
  alternating := by
    refine h.alternating.append (List.isChain_singleton _) fun last hlast flight hflight => ?_
    obtain ⟨last', hlast', hstate⟩ := h.last
    obtain rfl := Option.mem_unique hlast' hlast
    obtain rfl : next = flight := Option.some.inj hflight
    exact hnext last' hstate
  last := ⟨next, List.getLast?_concat, rfl⟩
  single := hsingle
  loads := by
    have := h.loads
    rw [List.countP_append, List.countP_append]
    omega

/-- **A fetch ends**: it is the one that was under way. -/
theorem ended (h : Logbook history dataset (n + 1)) (result : Except Failure Series.Dataset) :
    Logbook (history ++ [.ended result]) (.ofResult result) n := by
  obtain ⟨rfl, rfl⟩ : dataset = .loading ∧ n = 0 := by
    have hsingle := h.single
    cases dataset with
    | loading => exact ⟨rfl, Nat.succ.inj hsingle⟩
    | ready data => cases hsingle
    | failed failure => cases hsingle
  exact h.concat (fun flight hstate => .ended hstate result) (by cases result <;> rfl) rfl

/-- **After a failure the dataset is loaded again**: nothing was under way. -/
theorem retried {failure : Failure} (h : Logbook history (.failed failure) n) :
    Logbook (history ++ [.retried]) .loading (n + 1) := by
  obtain rfl : n = 0 := h.single
  refine h.concat (fun flight hstate => ?_) rfl rfl
  rw [Flight.eq_of_state_failed hstate]
  exact .retried failure

theorem le_one (h : Logbook history dataset n) : n ≤ 1 := by
  rw [h.single]
  split <;> decide

theorem loading_iff (h : Logbook history dataset n) : dataset = .loading ↔ n = 1 := by
  rw [h.single]
  cases dataset <;> simp [State.isLoading]

/-- **A dataset that has arrived stays.** -/
theorem ready_stays {data : Series.Dataset} (h : Logbook history (.ready data) n)
    (h' : Logbook (history ++ more) dataset' n') : dataset' = .ready data := by
  obtain ⟨last, hlast, hstate⟩ := h.last
  cases more with
  | nil =>
    obtain ⟨last', hlast', hstate'⟩ := h'.last
    rw [List.append_nil] at hlast'
    rw [← hstate', ← hstate, Option.mem_unique hlast' hlast]
  | cons next rest =>
    obtain ⟨-, -, hnext⟩ := List.isChain_append.mp h'.alternating
    have hnone := hnext last hlast next rfl
    rw [Flight.eq_of_state_ready hstate] at hnone
    exact absurd hnone (Flight.not_next_ok data next)

end Logbook

/-- Whether a task fetches the dataset of the widget with a token. -/
def Task.isFor (token : Nat) : Task → Bool
  | dataset t _ => t = token
  | options _ | model _ => false

namespace Widget

theorem dataset_redraw (w : Widget) (container : Int × Int) :
    (w.redraw container).1.dataset = w.dataset := by
  unfold redraw
  split <;> rfl

theorem dataset_setDataset (w : Widget) (container : Int × Int)
    (dataset : State Series.Dataset) : (w.setDataset container dataset).1.dataset = dataset := by
  unfold setDataset
  dsimp only
  split
  · rfl
  · exact dataset_redraw _ container

theorem dataset_place (w : Widget) (container : Int × Int) :
    (w.place container).1.dataset = w.dataset := by
  unfold place
  split
  · exact dataset_redraw _ container
  · rfl

theorem dataset_refit (w : Widget) (container : Int × Int) :
    (w.refit container).1.dataset = w.dataset := by
  unfold refit
  split
  · rfl
  · dsimp only
    split <;> rfl

end Widget

namespace Board

variable {b b' b'' : Board} {p : Plots} {w : Widget} {token : Nat}

/-- How many fetches are under way for the widget with a token. -/
def inFlight (b : Board) (token : Nat) : Nat := b.waiting.countP (Task.isFor token)

/-- The dataset of the widget with a token, if it is mounted. -/
def dataset? (b : Board) (token : Nat) : Option (State Series.Dataset) :=
  (b.widget? token).map Widget.dataset

/-- What a fetch of the dataset ends in, with the next answers of the server. -/
def outcome (b : Board) : Except Failure Series.Dataset :=
  (Series.fetchDataset b.settings (b.server.ahead .data)).result

/-- What a step is for the widget with a token. -/
def flight? (b : Board) (token : Nat) : Step → Option Flight
  | .settle index =>
    if b.waiting[index]?.any (Task.isFor token) then some (.ended b.outcome) else none
  | .retry index =>
    if b.loads[index]? = some (.plot token) ∧ (b.widget? token).isSome then some .retried else none
  | step =>
    if (b.widget? token).isNone ∧ ((b.step step).1.widget? token).isSome then some .mounted
    else none

/-- What some steps are, one after another. -/
def record {α : Type} (what : Board → Step → List α) (b : Board) : List Step → List α
  | [] => []
  | step :: rest => what b step ++ (b.step step).1.record what rest

theorem record_append {α : Type} (what : Board → Step → List α) (b : Board)
    (first second : List Step) :
    b.record what (first ++ second) = b.record what first ++ (b.run first).record what second := by
  induction first generalizing b with
  | nil => rfl
  | cons step rest ih =>
    rw [List.cons_append, record, record, ih, List.append_assoc]
    rfl

/-- What has happened to the dataset of the widget with a token, with its mounting. -/
def flights (start : Board) (token : Nat) (steps : List Step) : List Flight :=
  (if (start.widget? token).isSome then [.mounted] else []) ++
    start.record (fun b step => (b.flight? token step).toList) steps

theorem flights_append (start : Board) (token : Nat) (first second : List Step) :
    start.flights token (first ++ second) = start.flights token first ++
      (start.run first).record (fun b step => (b.flight? token step).toList) second := by
  unfold flights
  rw [record_append, List.append_assoc]

theorem flights_concat (start : Board) (token : Nat) (steps : List Step) (step : Step) :
    start.flights token (steps ++ [step]) =
      start.flights token steps ++ ((start.run steps).flight? token step).toList := by
  rw [flights_append, record, record, List.append_nil]

/-! ## Widgets and their tokens -/

theorem Synced.widget?_eq (h : b.Synced) (hw : w ∈ b.widgets) : b.widget? w.token = some w := by
  obtain ⟨v, hv⟩ : ∃ v, b.widget? w.token = some v :=
    Option.isSome_iff_exists.mp (List.find?_isSome.mpr ⟨w, hw, decide_eq_true rfl⟩)
  obtain ⟨hmem, htoken⟩ := mem_of_widget? hv
  rw [hv, List.inj_on_of_nodup_map h.nodup hmem hw htoken]

theorem Synced.dataset?_eq (h : b.Synced) (hw : w ∈ b.widgets) :
    b.dataset? w.token = some w.dataset := by
  unfold dataset?
  rw [h.widget?_eq hw]
  rfl

theorem Synced.widget?_eq_none (h : b.Synced) (hnew : b.hub.nextToken ≤ token) :
    b.widget? token = none := by
  refine List.find?_eq_none.mpr fun w hw htoken => ?_
  have hlt := h.lt_nextToken hw
  rw [of_decide_eq_true htoken] at hlt
  omega

theorem widget?_modify (b : Board) (token t : Nat) {f : Widget → Widget × List Drawing}
    (hf : ∀ w, (f w).1.token = w.token) : (b.modify t f).widget? token =
      if token = t then (b.widget? token).map fun w => (f w).1 else b.widget? token := by
  unfold modify
  cases hw : b.widget? t with
  | none =>
    by_cases heq : token = t
    · rw [if_pos heq, heq, hw]
      rfl
    · rw [if_neg heq]
  | some w =>
    obtain ⟨-, htoken⟩ := mem_of_widget? hw
    -- The search does not see the change, because tokens stay.
    let g : Widget → Widget := fun v => if v.token = t then (f w).1 else v
    have hg : ∀ v, (g v).token = v.token := by
      intro v
      simp only [g]
      split
      · rename_i heq
        rw [hf, htoken, heq]
      · rfl
    have hfind : (b.widgets.map g).find? (fun v => v.token = token) =
        (b.widget? token).map g := by
      rw [List.find?_map]
      simp only [Function.comp_def, hg]
      rfl
    show (b.widgets.map g).find? (fun v => v.token = token) = _
    rw [hfind]
    by_cases heq : token = t
    · rw [if_pos heq, heq, hw]
      exact congrArg some (if_pos htoken)
    · rw [if_neg heq]
      cases hv : b.widget? token with
      | none => rfl
      | some v => exact congrArg some (if_neg (by rw [(mem_of_widget? hv).2]; exact heq))

theorem dataset?_modify_self (b : Board) (token : Nat) {f : Widget → Widget × List Drawing}
    {dataset : State Series.Dataset} (htoken : ∀ w, (f w).1.token = w.token)
    (hdataset : ∀ w, (f w).1.dataset = dataset) :
    (b.modify token f).dataset? token = (b.dataset? token).map fun _ => dataset := by
  unfold dataset?
  rw [widget?_modify b token token htoken, if_pos rfl, Option.map_map, Option.map_map]
  exact congrArg (fun g => (b.widget? token).map g) (funext hdataset)

/-! ## What leaves a dataset alone -/

/-- Nothing has happened to the dataset of the widget with a token. -/
structure Calm (token : Nat) (b b' : Board) : Prop where
  dataset : b'.dataset? token = b.dataset? token
  inFlight : b'.inFlight token = b.inFlight token

theorem Calm.refl (token : Nat) (b : Board) : Calm token b b := ⟨rfl, rfl⟩

theorem Calm.trans (h : Calm token b b') (h' : Calm token b' b'') : Calm token b b'' :=
  ⟨h'.dataset.trans h.dataset, h'.inFlight.trans h.inFlight⟩

/-- A change elsewhere. -/
theorem Calm.of_eq (hwidgets : b'.widgets = b.widgets) (hwaiting : b'.waiting = b.waiting) :
    Calm token b b' where
  dataset := by
    unfold dataset? widget?
    rw [hwidgets]
  inFlight := by
    unfold Board.inFlight
    rw [hwaiting]

/-- An operation on a widget leaves all datasets alone, its own included. -/
theorem calm_modify (b : Board) (token t : Nat) {f : Widget → Widget × List Drawing}
    (hlabel : ∀ w, (f w).1.label = w.label) (hdataset : ∀ w, (f w).1.dataset = w.dataset) :
    Calm token b (b.modify t f) where
  dataset := by
    unfold dataset?
    rw [widget?_modify b token t fun w => congrArg Prod.fst (hlabel w)]
    split
    · rw [Option.map_map]
      exact congrArg (fun g => (b.widget? token).map g) (funext hdataset)
    · rfl
  inFlight := by
    unfold inFlight
    rw [waiting_modify]

/-- An operation on another widget. -/
theorem calm_modify_of_ne (b : Board) {token t : Nat} (hne : token ≠ t)
    {f : Widget → Widget × List Drawing} (hlabel : ∀ w, (f w).1.label = w.label) :
    Calm token b (b.modify t f) where
  dataset := by
    unfold dataset?
    rw [widget?_modify b token t fun w => congrArg Prod.fst (hlabel w), if_neg hne]
  inFlight := by
    unfold inFlight
    rw [waiting_modify]

theorem upkeep_calm (token : Nat) : Upkeep (Calm token) where
  refl := .refl token
  trans := .trans
  place b t := calm_modify b token t (fun w => w.label_place b.container)
    fun w => w.dataset_place b.container
  refit t b := calm_modify b token t (fun w => w.label_refit b.container)
    fun w => w.dataset_refit b.container
  debug _ _ := .of_eq rfl rfl
  frames _ _ := .of_eq rfl rfl
  container _ _ := .of_eq rfl rfl

/-- A task for another widget or for a document is started. -/
theorem calm_spawn (b : Board) {task : Task} (hother : task.isFor token = false) :
    Calm token b (b.spawn task) where
  dataset := rfl
  inFlight := by
    show (b.waiting ++ [task]).countP (Task.isFor token) = b.inFlight token
    rw [List.countP_append, List.countP_cons_of_neg (by rw [hother]; exact Bool.false_ne_true)]
    rfl

theorem calm_deliverDocument {α : Type} (b : Board) (token : Nat) (name : String)
    (result : Except Failure α) (apply : Browser → Except Failure α → Browser × Bool) :
    Calm token b (b.deliverDocument name result apply) := by
  unfold deliverDocument
  split
  · exact .refl token b
  · dsimp only
    split <;> exact .of_eq rfl rfl

/-! ## Fetches -/

/-- **A flight has happened** to the dataset of the widget with a token, or none has. -/
inductive Flown (token : Nat) (b b' : Board) : Option Flight → Prop where
  | aside (h : Calm token b b') : Flown token b b' none
  | ended (result : Except Failure Series.Dataset)
      (hdataset : b'.dataset? token = (b.dataset? token).map fun _ => .ofResult result)
      (hinFlight : b.inFlight token = b'.inFlight token + 1) :
      Flown token b b' (some (.ended result))
  | retried (hdataset : b'.dataset? token = some .loading)
      (hinFlight : b'.inFlight token = b.inFlight token + 1) : Flown token b b' (some .retried)

theorem waiting_deliverDataset (b : Board) (t : Nat) (plot : PlotId)
    (result : Except Failure Series.Dataset) :
    (b.deliverDataset t plot result).waiting = b.waiting := by
  unfold deliverDataset
  split
  · rfl
  · dsimp only
    split
    · exact waiting_modify _ _ _
    · exact waiting_modify _ _ _

/-- A result that is delivered to another widget. -/
theorem calm_deliverDataset_of_ne (b : Board) {token t : Nat} (hne : token ≠ t) (plot : PlotId)
    (result : Except Failure Series.Dataset) : Calm token b (b.deliverDataset t plot result) := by
  unfold deliverDataset
  split
  · exact .of_eq rfl rfl
  · have hset : Calm token b (b.modify t fun w => w.setDataset b.container (.ofResult result)) :=
      calm_modify_of_ne b hne fun w => w.label_setDataset _ _
    dsimp only
    split
    · exact hset
    · exact hset.trans (.of_eq rfl rfl)

/-- **A result that is delivered is the state of the dataset.** -/
theorem dataset?_deliverDataset (b : Board) (token : Nat) (plot : PlotId)
    (result : Except Failure Series.Dataset) :
    (b.deliverDataset token plot result).dataset? token =
      (b.dataset? token).map fun _ => .ofResult result := by
  have hset := dataset?_modify_self b token
    (fun w => congrArg Prod.fst (w.label_setDataset b.container (.ofResult result)))
    (fun w => w.dataset_setDataset b.container (.ofResult result))
  unfold deliverDataset
  cases hw : b.widget? token with
  | none =>
    show (b.widget? token).map _ = _
    unfold dataset?
    rw [hw]
    rfl
  | some w => cases result <;> exact hset

/-- A task that is taken off the list is one less for its widget. -/
theorem inFlight_erase {index : Nat} {task : Task} (h : b.waiting[index]? = some task)
    (token : Nat) : b.inFlight token =
      { b with waiting := b.waiting.eraseIdx index }.inFlight token +
        [task].countP (Task.isFor token) := by
  obtain ⟨hlt, rfl⟩ := List.getElem?_eq_some_iff.mp h
  have hperm := (List.getElem_cons_eraseIdx_perm hlt).countP_eq (Task.isFor token)
  unfold inFlight
  rw [← hperm, ← List.singleton_append, List.countP_append, Nat.add_comm]

theorem calm_carryOut {α : Type} (b : Board) (resource : Resource)
    (fetch : (Nat → Answer) → Run α) {deliver : Board → Except Failure α → Board}
    (hdeliver : ∀ b result, Calm token b (deliver b result)) :
    Calm token b (b.carryOut resource fetch deliver) := by
  unfold carryOut
  refine Calm.trans ?_ (hdeliver _ _)
  exact .of_eq rfl rfl

/-- A fetch for another widget or of a document ends. -/
theorem calm_complete (b : Board) {task : Task} (hother : task.isFor token = false) :
    Calm token b (b.complete task) := by
  cases task with
  | dataset t plot =>
    have hne : token ≠ t := fun heq => of_decide_eq_false hother heq.symm
    exact calm_carryOut b _ _ fun b result => calm_deliverDataset_of_ne b hne plot result
  | options generation =>
    exact calm_carryOut b _ _ fun b result =>
      calm_deliverDocument b token "options" result fun browser => browser.applyOptions generation
  | model generation =>
    exact calm_carryOut b _ _ fun b result =>
      calm_deliverDocument b token "model" result fun browser => browser.applyModel generation

/-- **The end of a fetch**: its result is delivered to its widget, and the others are left alone. -/
theorem flown_settle (b : Board) (token index : Nat) :
    Flown token b (b.settle index).1 (b.flight? token (.settle index)) := by
  unfold settle
  simp only [flight?]
  cases htask : b.waiting[index]? with
  | none => exact .aside (.refl token b)
  | some task =>
    have herase := inFlight_erase htask token
    let taken : Board := { b with waiting := b.waiting.eraseIdx index }
    rw [Option.any_some]
    cases hfor : task.isFor token with
    | false =>
      rw [List.countP_cons_of_neg (by rw [hfor]; exact Bool.false_ne_true)] at herase
      have htaken : Calm token b taken := ⟨rfl, herase.symm⟩
      exact .aside (htaken.trans (calm_complete taken hfor))
    | true =>
      rw [List.countP_cons_of_pos hfor] at herase
      cases task with
      | dataset t plot =>
        obtain rfl := of_decide_eq_true hfor
        refine .ended _ (dataset?_deliverDataset _ t plot _) ?_
        unfold inFlight at herase ⊢
        exact herase.trans (congrArg (fun tasks => tasks.countP (Task.isFor t) + 1)
          (waiting_deliverDataset (taken.fetched .data _) t plot _).symm)
      | options generation => cases hfor
      | model generation => cases hfor

/-- Something else is loaded again. -/
theorem calm_retry (b : Board) {load : Load} (hother : load ≠ .plot token) :
    Calm token b (b.retry load).1 := by
  cases load with
  | metadata =>
    unfold retry
    dsimp only
    split
    · exact .refl token b
    · refine Calm.trans ?_ (calm_spawn _ rfl)
      refine Calm.trans ?_ (calm_spawn _ rfl)
      exact .of_eq rfl rfl
  | plot t =>
    have hne : t ≠ token := fun heq => hother (congrArg Load.plot heq)
    unfold retry
    dsimp only
    split
    · exact .refl token b
    · exact (calm_modify_of_ne b hne.symm fun w => w.label_setDataset _ _).trans
        (calm_spawn _ (decide_eq_false hne))

/-- **To load the dataset of a mounted widget again is to start one more fetch.** -/
theorem flown_retry_plot (hmounted : (b.widget? token).isSome) :
    Flown token b (b.retry (.plot token)).1 (some .retried) := by
  obtain ⟨w, hw⟩ := Option.isSome_iff_exists.mp hmounted
  have hfor : (Task.dataset token w.plot).isFor token = true := decide_eq_true rfl
  have hset := dataset?_modify_self b token
    (fun w => congrArg Prod.fst (w.label_setDataset b.container .loading))
    (fun w => w.dataset_setDataset b.container .loading)
  have hbefore : b.dataset? token = some w.dataset := congrArg (Option.map Widget.dataset) hw
  rw [hbefore] at hset
  unfold retry
  dsimp only
  rw [hw]
  refine .retried hset ?_
  show ((b.modify token _).waiting ++ [_]).countP _ = _
  rw [waiting_modify, List.countP_append, List.countP_cons_of_pos hfor]
  rfl

theorem flown_retry (b : Board) (token index : Nat) :
    Flown token b (b.step (.retry index)).1 (b.flight? token (.retry index)) := by
  simp only [step, flight?]
  cases hload : b.loads[index]? with
  | none => exact .aside (.refl token b)
  | some load =>
    by_cases heq : load = .plot token
    · subst heq
      cases hw : b.widget? token with
      | none =>
        rw [if_neg (fun hmounted => Bool.false_ne_true hmounted.2)]
        dsimp only
        rw [retry_of_unmounted hw]
        exact .aside (.refl token b)
      | some w =>
        rw [if_pos ⟨rfl, rfl⟩]
        exact flown_retry_plot (by rw [hw]; rfl)
    · rw [if_neg (fun hload => heq (Option.some.inj hload.1))]
      exact .aside (calm_retry b heq)

/-! ## Steps -/

/-- Only mounting is a flight of a step that ends no fetch and loads nothing again. -/
theorem Calm.flown {step : Step} (h : Calm token b (b.step step).1)
    (hflight : b.flight? token step =
      if (b.widget? token).isNone ∧ ((b.step step).1.widget? token).isSome then some .mounted
      else none) : Flown token b (b.step step).1 (b.flight? token step) := by
  have hsame := congrArg Option.isSome h.dataset
  unfold dataset? at hsame
  rw [Option.isSome_map, Option.isSome_map] at hsame
  rw [hflight, hsame, if_neg]
  · exact .aside h
  · rintro ⟨hnone, hsome⟩
    rw [Option.isNone_iff_eq_none.mp hnone] at hsome
    cases hsome

/-- **Every step that mounts nothing does what its flight says.** -/
theorem flown_step (b : Board) (token : Nat) {step : Step} (hstep : step.moves = false) :
    Flown token b (b.step step).1 (b.flight? token step) := by
  cases step with
  | settle index => exact flown_settle b token index
  | advance milliseconds => exact Calm.flown (.of_eq rfl rfl) rfl
  | retry index => exact flown_retry b token index
  | selectTab index =>
    refine Calm.flown ?_ rfl
    simp only [Board.step, selectTab]
    split
    · exact .refl token b
    · dsimp only [Reply.ofFlag]
      split <;> exact .of_eq rfl rfl
  | addPlot => cases hstep
  | removePlot id => cases hstep
  | unmount => cases hstep
  | _ => exact Calm.flown ((upkeep_calm token).step b rfl) rfl

end Board

end ResultsBoard
