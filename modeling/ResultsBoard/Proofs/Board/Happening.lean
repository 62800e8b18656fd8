import ResultsBoard.Proofs.Board.Sound
import ResultsBoard.Proofs.Metadata.History
import ResultsBoard.Proofs.Toast.Countdown

/-!
# What happens to the loads of the metadata browser

Loads of the metadata browser (`MetadataBrowser`) overlap, their fetches end in any order, and the
browser may be unmounted in between. A failure counts if its load is the latest one when the fetch
ends and the browser is still mounted.

* `Happening`: a load begins, a fetch of a document ends, the browser is unmounted.
  `Happening.counted` says which failures of a history count, and `Board.happenings` reads the
  history off the steps that are carried out.
* `Reported`: from one board to another, the warnings about documents and the messages about them in
  the toast are those of the failures that count. One stretch may follow another
  (`Reported.trans`).
* `Aside`: nothing has happened to the loads. `upkeep_aside`, `aside_*`: so it is with canvases,
  notifications, plots and tabs.
-/

namespace ResultsBoard

open Fetch Metadata
open Metadata.Browser (Half)

/-! ## Texts -/

namespace Metadata.Browser.Half

/-- How reports call a document. -/
def name : Half → String
  | .options => "options"
  | .model => "model"

/-- What the warning about a document begins with. -/
def heading (half : Half) : String := half.name ++ " document fetch failed"

/-- The warning that a document could not be fetched. -/
def warning (half : Half) (failure : Failure) : String :=
  half.name ++ " document fetch failed: " ++ failure.message

/-- The message about it in the toast. -/
def message (half : Half) (failure : Failure) : String :=
  "Metadata (" ++ half.name ++ "): " ++ failure.message

end Metadata.Browser.Half

/-- The text of an effect that is a warning about a document. -/
def Effect.documentWarning? : Effect → Option String
  | logged line =>
    if line.level = .warn ∧ (Half.options.heading.toList <+: line.message.toList ∨
        Half.model.heading.toList <+: line.message.toList) then some line.message
    else none
  | drew _ | requested _ | waited _ | retryAsked | removalAsked _ => none

/-- The warnings about documents among some effects. -/
def Effect.documentWarnings (effects : List Effect) : List String :=
  effects.filterMap documentWarning?

/-- The text of a toast operation that displays a message about a document. -/
def Toast.Op.documentMessage? : Toast.Op → Option String
  | display _ message => if "Metadata (".toList <+: message.toList then some message else none
  | clear _ | share _ | advance _ => none

/-! ## What happens to the loads -/

/-- What happens to the loads of the metadata browser. -/
inductive Happening where
  /-- A load begins. -/
  | began (generation : UInt64)
  /-- A fetch of a load ends, in a failure or not. -/
  | ended (half : Half) (generation : UInt64) (failure? : Option Failure)
  /-- The browser is unmounted. -/
  | unmounted
  deriving DecidableEq, Repr

namespace Happening

/-- The latest load, as long as the browser is mounted. -/
def latest (before : Option UInt64) : Happening → Option UInt64
  | began generation => some generation
  | ended _ _ _ => before
  | unmounted => none

/-- The failure that counts, if there is one: a fetch of the latest load has failed. -/
def counted? (latest : Option UInt64) : Happening → Option (Half × Failure)
  | ended half generation (some failure) =>
    if latest = some generation then some (half, failure) else none
  | ended _ _ none | began _ | unmounted => none

/-- The generation of a load that begins. -/
def generation? : Happening → Option UInt64
  | began generation => some generation
  | ended _ _ _ | unmounted => none

/-- The fetch that ends. -/
def fetch? : Happening → Option (Half × UInt64)
  | ended half generation _ => some (half, generation)
  | began _ | unmounted => none

/-- The latest load after a history. -/
def latestAfter (before : Option UInt64) (history : List Happening) : Option UInt64 :=
  history.foldl latest before

/-- **The failures that count**, in the order in which the fetches have ended. -/
def counted (before : Option UInt64) : List Happening → List (Half × Failure)
  | [] => []
  | h :: rest => (h.counted? before).toList ++ counted (h.latest before) rest

/-- The generations of the loads that have begun. -/
def begun (history : List Happening) : List UInt64 := history.filterMap generation?

/-- The fetches that have ended. -/
def finished (history : List Happening) : List (Half × UInt64) := history.filterMap fetch?

/-- The fetches that have been started: both of every load. -/
def started (history : List Happening) : List (Half × UInt64) :=
  (begun history).flatMap fun generation => [(.options, generation), (.model, generation)]

/-- **The loads of a history are numbered** in the order of their beginning. -/
structure Numbered (history : List Happening) : Prop where
  begun : begun history = (List.range (begun history).length).map fun i => UInt64.ofNat (i + 1)
  latest : ∀ generation ∈ latestAfter none history,
    generation = UInt64.ofNat (Happening.begun history).length

theorem counted_append (before : Option UInt64) (first second : List Happening) :
    counted before (first ++ second) =
      counted before first ++ counted (latestAfter before first) second := by
  induction first generalizing before with
  | nil => rfl
  | cons h rest ih =>
    simp only [List.cons_append, counted, latestAfter, List.foldl_cons, List.append_assoc]
    rw [ih]
    rfl

theorem latestAfter_append (before : Option UInt64) (first second : List Happening) :
    latestAfter before (first ++ second) = latestAfter (latestAfter before first) second := by
  unfold latestAfter
  rw [List.foldl_append]

theorem counted_singleton (before : Option UInt64) (h : Happening) :
    counted before [h] = (h.counted? before).toList := List.append_nil _

/-- A load that begins gets the number after that of the latest one. -/
theorem Numbered.concat {history : List Happening} (h : Numbered history) {last : Happening}
    (hnext : ∀ generation, last = began generation →
      ∃ previous ∈ latestAfter none history, generation = previous + 1) :
    Numbered (history ++ [last]) := by
  have hlatest : latestAfter none (history ++ [last]) =
      last.latest (latestAfter none history) := latestAfter_append none history [last]
  have hbegun : Happening.begun (history ++ [last]) =
      Happening.begun history ++ last.generation?.toList := by
    unfold Happening.begun
    rw [List.filterMap_append]
    cases last <;> rfl
  cases last with
  | began generation =>
    obtain ⟨previous, hprevious, rfl⟩ := hnext generation rfl
    have hnumber : previous + 1 = UInt64.ofNat ((Happening.begun history).length + 1) := by
      rw [h.latest previous hprevious, UInt64.ofNat_add]
      rfl
    rw [hnumber] at hbegun hlatest ⊢
    refine ⟨?_, fun generation hgeneration => ?_⟩
    · rw [hbegun, List.length_append, show (Option.toList _).length = 1 from rfl,
        List.range_succ, List.map_append, ← h.begun]
      rfl
    · rw [hlatest] at hgeneration
      rw [← Option.some.inj hgeneration, hbegun, List.length_append]
      rfl
  | ended half generation failure? =>
    have hsame : Happening.begun (history ++ [ended half generation failure?]) =
        Happening.begun history := hbegun.trans (List.append_nil _)
    refine ⟨hsame ▸ h.begun, fun latest hmem => ?_⟩
    rw [hlatest] at hmem
    rw [hsame]
    exact h.latest latest hmem
  | unmounted =>
    have hsame : Happening.begun (history ++ [unmounted]) = Happening.begun history :=
      hbegun.trans (List.append_nil _)
    refine ⟨hsame ▸ h.begun, fun latest hmem => ?_⟩
    rw [hlatest] at hmem
    cases hmem

/-- Fewer than `2 ^ 64` loads are told apart by their numbers. -/
theorem Numbered.nodup {history : List Happening} (h : Numbered history)
    (hfew : (Happening.begun history).length < UInt64.size) :
    (Happening.begun history).Nodup := by
  rw [h.begun]
  refine List.Nodup.map_on (fun i hi j hj heq => ?_) List.nodup_range
  have hnumbers := congrArg UInt64.toNat heq
  rw [List.mem_range] at hi hj
  rw [UInt64.toNat_ofNat_of_lt' (by omega), UInt64.toNat_ofNat_of_lt' (by omega)] at hnumbers
  omega

end Happening

/-- The fetch of a document that a task is. -/
def Task.document? : Task → Option (Half × UInt64)
  | dataset _ _ => none
  | options generation => some (.options, generation)
  | model generation => some (.model, generation)

namespace Board

variable {b b' b'' : Board}

/-- The latest load, if the metadata browser is mounted. -/
def latest (b : Board) : Option UInt64 := b.browser.map Browser.generation

/-- The fetches of documents that are under way. -/
def underWay (b : Board) : List (Half × UInt64) := b.waiting.filterMap Task.document?

/-- The failure that a fetch of a document ends in, with the next answers of the server. -/
def failure? (b : Board) : Half → Option Failure
  | .options =>
    (State.ofResult (fetchOptions b.settings (b.server.ahead .options)).result).failure?
  | .model => (State.ofResult (fetchModel b.settings (b.server.ahead .model)).result).failure?

/-- What the end of a fetch is for the loads. -/
def ending? (b : Board) (task : Task) : Option Happening :=
  task.document?.map fun fetch => .ended fetch.1 fetch.2 (b.failure? fetch.1)

/-- What a step is for the loads. -/
def happening? (b : Board) : Step → Option Happening
  | .settle index => b.waiting[index]?.bind b.ending?
  | .retry index =>
    if b.loads[index]? = some .metadata then
      b.browser.map fun browser => .began browser.beginLoading.generation
    else none
  | .unmount => some .unmounted
  | _ => none

/-- What happens to the loads in the course of some steps. -/
def happenings (b : Board) : List Step → List Happening
  | [] => []
  | step :: rest => (b.happening? step).toList ++ (b.step step).1.happenings rest

/-- What the toast says when something has happened to the loads. -/
def countedMessage? (b : Board) (h : Happening) : Option String :=
  (h.counted? b.latest).map fun failed => failed.1.message failed.2

/-- What the end of a fetch says in the toast. -/
def says? (b : Board) : Task → Option String
  | .dataset token plot =>
    if (b.widget? token).isSome then
      (State.ofResult (Series.fetchDataset b.settings (b.server.ahead .data)).result).failure?.map
        (datasetMessage plot)
    else none
  | task => (b.ending? task).bind b.countedMessage?

/-- What a step does to the toast. -/
def toastOps (b : Board) : Step → List Toast.Op
  | .settle index => ((b.waiting[index]?.bind b.says?).map (.display 0)).toList
  | .advance milliseconds => [.advance milliseconds]
  | _ => []

/-- What some steps do to the toast. -/
def toastHistory (b : Board) : List Step → List Toast.Op
  | [] => []
  | step :: rest => b.toastOps step ++ (b.step step).1.toastHistory rest

/-! ## What is not about documents -/

theorem documentWarning?_warning (half : Half) (failure : Failure) :
    (Effect.logged (.warn (half.warning failure))).documentWarning? =
      some (half.warning failure) := by
  have hheading : half.heading.toList <+: (half.warning failure).toList := by
    unfold Half.warning
    rw [String.toList_append]
    refine List.IsPrefix.trans ?_ (List.prefix_append _ _)
    cases half <;> exact ⟨[':', ' '], rfl⟩
  unfold Effect.documentWarning?
  cases half with
  | options => exact if_pos ⟨rfl, .inl hheading⟩
  | model => exact if_pos ⟨rfl, .inr hheading⟩

/-- Requests that are tried again are warned about with their paths. -/
theorem documentWarning?_of_plain {e : Effect} (h : e.Plain) : e.documentWarning? = none := by
  cases e with
  | logged line =>
    refine if_neg ?_
    rintro ⟨hlevel, hheading⟩
    obtain ⟨resource, rest, hpath⟩ := h hlevel
    rw [← hpath] at hheading
    rcases hheading with ⟨more, hmore⟩ | ⟨more, hmore⟩ <;> cases resource <;> cases hmore
  | _ => rfl

theorem documentWarnings_of_plain {effects : List Effect} (h : ∀ e ∈ effects, e.Plain) :
    Effect.documentWarnings effects = [] :=
  List.filterMap_eq_nil_iff.mpr fun e he => documentWarning?_of_plain (h e he)

theorem documentWarnings_append (effects more : List Effect) :
    Effect.documentWarnings (effects ++ more) =
      Effect.documentWarnings effects ++ Effect.documentWarnings more :=
  List.filterMap_append

theorem documentWarning?_datasetWarning (plot : PlotId) (failure : Failure) :
    (Effect.logged (.warn (datasetWarning plot failure))).documentWarning? = none := by
  refine if_neg ?_
  rintro ⟨-, hheading⟩
  simp only [LogLine.warn, datasetWarning, String.toList_append, List.append_assoc] at hheading
  rcases hheading with ⟨more, hmore⟩ | ⟨more, hmore⟩ <;> cases hmore

theorem documentMessage?_message (half : Half) (failure : Failure) :
    (Toast.Op.display 0 (half.message failure)).documentMessage? = some (half.message failure) := by
  refine if_pos ?_
  simp only [Half.message, String.toList_append, List.append_assoc]
  exact List.prefix_append _ _

theorem documentMessage?_datasetMessage (plot : PlotId) (failure : Failure) :
    (Toast.Op.display 0 (datasetMessage plot failure)).documentMessage? = none := by
  refine if_neg ?_
  simp only [datasetMessage, String.toList_append, List.append_assoc]
  rintro ⟨more, hmore⟩
  cases hmore

/-! ## Reports -/

/-- **What has happened between two boards has been reported**: the failures that count, and no
others. -/
structure Reported (b b' : Board) (history : List Happening) (ops : List Toast.Op) : Prop where
  latest : b'.latest = Happening.latestAfter b.latest history
  /-- A fetch ends once at most, and none ends that has not been started. -/
  fetches : (Happening.finished history ++ b'.underWay).Perm
    (b.underWay ++ Happening.started history)
  warned : Effect.documentWarnings b'.effects = Effect.documentWarnings b.effects ++
    (Happening.counted b.latest history).map fun failed => failed.1.warning failed.2
  toast : b'.toast = ops.foldl Toast.Op.act b.toast
  shown : ops.filterMap Toast.Op.documentMessage? =
    (Happening.counted b.latest history).map fun failed => failed.1.message failed.2

/-- Nothing has happened to the loads, and the toast is as it was. -/
def Aside (b b' : Board) : Prop := Reported b b' [] []

theorem Reported.trans {history later : List Happening} {ops more : List Toast.Op}
    (h : Reported b b' history ops) (h' : Reported b' b'' later more) :
    Reported b b'' (history ++ later) (ops ++ more) where
  latest := by
    rw [Happening.latestAfter_append, ← h.latest]
    exact h'.latest
  fetches := by
    have hfirst := h.fetches.append_right (Happening.started later)
    have hsecond := h'.fetches.append_left (Happening.finished history)
    simp only [Happening.finished, Happening.started, Happening.begun, List.filterMap_append,
      List.flatMap_append, List.append_assoc] at hfirst hsecond ⊢
    exact hsecond.trans hfirst
  warned := by
    rw [h'.warned, h.warned, Happening.counted_append, ← h.latest, List.map_append,
      List.append_assoc]
  toast := by
    rw [List.foldl_append, ← h.toast]
    exact h'.toast
  shown := by
    rw [List.filterMap_append, h.shown, h'.shown, Happening.counted_append, ← h.latest,
      List.map_append]

theorem Aside.trans (h : Aside b b') (h' : Aside b' b'') : Aside b b'' := Reported.trans h h'

/-- A change elsewhere, with effects that are no warnings about documents. -/
theorem Aside.of_effects (effects : List Effect) (heffects : b'.effects = b.effects ++ effects)
    (hnone : Effect.documentWarnings effects = []) (hlatest : b'.latest = b.latest)
    (hunderWay : b'.underWay = b.underWay) (htoast : b'.toast = b.toast) : Aside b b' where
  latest := hlatest
  fetches := by
    rw [hunderWay, show Happening.started [] = [] from rfl, List.append_nil]
    exact .refl _
  warned := by
    rw [heffects, documentWarnings_append, hnone]
    rfl
  toast := htoast
  shown := rfl

theorem Aside.of_eq (heffects : b'.effects = b.effects) (hlatest : b'.latest = b.latest)
    (hunderWay : b'.underWay = b.underWay) (htoast : b'.toast = b.toast) : Aside b b' :=
  .of_effects [] (by rw [heffects, List.append_nil]) rfl hlatest hunderWay htoast

theorem Aside.refl (b : Board) : Aside b b := .of_eq rfl rfl rfl rfl

theorem aside_emit (b : Board) {effects : List Effect} (h : ∀ e ∈ effects, e.Plain) :
    Aside b (b.emit effects) :=
  .of_effects effects rfl (documentWarnings_of_plain h) rfl rfl rfl

theorem aside_debug (b : Board) (message : String) : Aside b (b.log (.debug message)) := by
  refine aside_emit b fun e he => ?_
  rw [List.mem_singleton.mp he]
  exact Effect.plain_debug message

/-! ## Canvases and notifications -/

theorem aside_modify (b : Board) (token : Nat) (f : Widget → Widget × List Drawing) :
    Aside b (b.modify token f) := by
  unfold modify
  split
  · exact .refl b
  · rename_i w _
    refine .of_effects ((f w).2.map .drew) rfl ?_ rfl rfl rfl
    refine List.filterMap_eq_nil_iff.mpr fun e he => ?_
    obtain ⟨drawing, -, rfl⟩ := List.mem_map.mp he
    rfl

theorem upkeep_aside : Upkeep Aside where
  refl := .refl
  trans := .trans
  place b token := aside_modify b token _
  refit token b := aside_modify b token _
  debug := aside_debug
  frames _ _ := .of_eq rfl rfl rfl rfl
  container _ _ := .of_eq rfl rfl rfl rfl

/-! ## Plots and tabs -/

/-- A fetch of a dataset is none of a document. -/
theorem underWay_spawn_dataset (b : Board) (token : Nat) (plot : PlotId) :
    (b.spawn (.dataset token plot)).underWay = b.underWay := by
  show (b.waiting ++ [_]).filterMap Task.document? = _
  rw [List.filterMap_append]
  exact List.append_nil _

/-- To mount and to unmount widgets has nothing to do with documents. -/
theorem aside_moved (h : Moved b b') (hlatest : b'.latest = b.latest)
    (hunderWay : b'.underWay = b.underWay) : Aside b b' := by
  obtain ⟨messages, heffects⟩ := h.effects
  refine .of_effects _ heffects (documentWarnings_of_plain fun e he => ?_) hlatest hunderWay h.toast
  obtain ⟨message, -, rfl⟩ := List.mem_map.mp he
  exact Effect.plain_debug message

theorem aside_mountWidget (b : Board) (entry : PlotEntry) : Aside b (b.mountWidget entry) :=
  aside_moved (moved_mountWidget b entry) rfl (underWay_spawn_dataset b _ _)

theorem traffic_aside : Traffic Aside where
  refl := .refl
  trans := .trans
  mount := aside_mountWidget
  unmount b w := aside_moved (moved_unmountWidget b w) rfl rfl

theorem aside_setPlots (b : Board) (p : Plots) : Aside b (b.setPlots p) :=
  traffic_aside.setPlots (.of_eq rfl rfl rfl rfl)

theorem aside_addPlot (b : Board) : Aside b b.addPlot.1 := by
  unfold addPlot
  split
  · exact .refl b
  · exact (aside_debug b _).trans (aside_setPlots _ _)

theorem aside_removePlot (b : Board) (id : PlotId) : Aside b (b.removePlot id).1 := by
  unfold removePlot
  split
  · rename_i plots _
    dsimp only
    split
    · exact (aside_debug b _).trans (aside_setPlots _ _)
    · exact aside_setPlots b _
  · split
    · refine aside_emit b fun e he => ?_
      rw [List.mem_singleton.mp he]
      exact trivial
    · exact .refl b

theorem aside_selectTab (b : Board) (tab : Tab) : Aside b (b.selectTab tab).1 := by
  unfold selectTab
  split
  · exact .refl b
  · rename_i browser hbrowser
    refine .of_eq rfl ?_ rfl rfl
    unfold latest
    rw [hbrowser]
    rfl

theorem aside_retry_plot (b : Board) (token : Nat) : Aside b (b.retry (.plot token)).1 := by
  unfold retry
  dsimp only
  split
  · exact .refl b
  · refine (aside_modify b token _).trans (.of_eq rfl rfl ?_ rfl)
    exact underWay_spawn_dataset _ _ _

end Board

end ResultsBoard
