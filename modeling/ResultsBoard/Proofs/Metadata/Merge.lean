import ResultsBoard.Proofs.Metadata.Loads

/-!
# What a load shows

Between the beginning of a load and the beginning of the next one, its two results arrive in either
order or not at all, results of other loads may arrive as well, and tabs are switched. The model tab
(`MetadataBrowserState::model_properties`) follows the merge rule at every moment of it, and what it
shows only moves forward: from loading to a failure, or to the stand-in of the options document, or
to the model document.

* `During`: the operations between the beginning of a load and the next one.
* `Merged`: the merge rule, on what the two fetches have brought.
* `merged_slots`: the rule holds of the two documents of a browser.
* `LoadLaw`, `load_law`: the rule at every moment of a load, and how two moments compare.
-/

namespace ResultsBoard.Metadata.Browser

open Fetch

/-- Operations between the beginning of the load with a generation and the next load: neither of
its two fetches reports twice. Results with other generations may arrive at any time. -/
structure During (generation : UInt64) (ops : List Op) : Prop where
  same : Op.beginLoading ∉ ops
  once : ∀ half, (ops.filterMap Op.report?).count (half, generation) ≤ 1

/-- **The merge rule**: what the model tab shows when these results have arrived. -/
structure Merged (options : Option (Except Failure Document))
    (model : Option (Except Failure Properties)) (shown : State Properties) : Prop where
  /-- The model document wins. -/
  document : ∀ properties, model = some (.ok properties) → shown = .ready properties
  /-- As long as there is none, the model entry of the options document stands in for it. -/
  standIn : (∀ properties, model ≠ some (.ok properties)) →
    ∀ document, options = some (.ok document) → shown = .ready document.model
  /-- The tab has failed exactly if both fetches have, and shows the failure of the model. -/
  failed : ∀ failure, shown = .failed failure ↔
    model = some (.error failure) ∧ ∃ other, options = some (.error other)
  /-- Otherwise it is loading: there is no document, and one of the results is still to come. -/
  loading : shown = .loading ↔ (∀ properties, model ≠ some (.ok properties)) ∧
    (∀ document, options ≠ some (.ok document)) ∧ (model = none ∨ options = none)

/-! ## One moment -/

/-- The rule holds of a browser whose documents are what two fetches have brought. -/
theorem merged_slots {b : Browser} {options : Option (Except Failure Document)}
    {model : Option (Except Failure Properties)} (hoptions : b.options = slot options)
    (hmodel : b.model = slot model) : Merged options model b.modelProperties := by
  unfold modelProperties
  rw [hoptions, hmodel]
  rcases model with _ | (f | p) <;> rcases options with _ | (f' | d) <;>
    constructor <;> simp [slot, State.ofResult]

/-- The variables tab shows the options result and nothing else. -/
theorem vars_slot {b : Browser} {options : Option (Except Failure Document)}
    (hoptions : b.options = slot options) : b.vars = (slot options).map Document.vars := by
  unfold vars
  rw [hoptions]

/-! ## During a load -/

variable {generation : UInt64} {ops : List Op}

theorem During.prefix_of (h : During generation ops) {first : List Op} (hfirst : first <+: ops) :
    During generation first where
  same hmem := h.same (hfirst.subset hmem)
  once half :=
    Nat.le_trans ((hfirst.sublist.filterMap Op.report?).count_le _) (h.once half)

/-- The last result of a fetch during its load is its first one. -/
theorem During.unheard {op : Op} {half : Half} (h : During generation (ops ++ [op]))
    (hop : op.report? = some (half, generation)) :
    (half, generation) ∉ ops.filterMap Op.report? := by
  have honce := h.once half
  rw [List.filterMap_append, List.count_append] at honce
  simp only [List.filterMap_cons, hop, List.filterMap_nil, List.count_singleton_self] at honce
  exact List.count_eq_zero.mp (by omega)

/-- **The documents of a browser are what the load has brought**, at every moment of it. -/
theorem During.current {start : Browser} (hoptions : start.options = .loading)
    (hmodel : start.model = .loading) (h : During start.generation ops) :
    (start.run ops).generation = start.generation ∧ Current ops (start.run ops) := by
  induction ops using List.reverseRecOn with
  | nil => exact ⟨rfl, hoptions, hmodel⟩
  | append_singleton ops op ih =>
    obtain ⟨hsame, hcurrent⟩ := ih (h.prefix_of (List.prefix_append ops [op]))
    rw [run_concat]
    cases op with
    | beginLoading => exact absurd (List.mem_append_right ops (List.mem_singleton_self _)) h.same
    | select tab => exact ⟨hsame, hcurrent.of_silent rfl rfl ⟨rfl, rfl, rfl⟩⟩
    | toggle => exact ⟨hsame, hcurrent.of_silent rfl rfl ⟨rfl, rfl, rfl⟩⟩
    | applyOptions g result =>
      by_cases hg : g = (start.run ops).generation
      · subst hg
        have hfirst := h.unheard (congrArg (fun g => some (Half.options, g)) hsame)
        rw [← hsame] at hfirst
        refine ⟨?_, hcurrent.applyOptions hfirst⟩
        simp [perform, applyOptions, hsame]
      · rw [perform_report_of_ne rfl hg]
        exact ⟨hsame, hcurrent.of_silent (by simp [optionsOf, hg]) rfl ⟨rfl, rfl, rfl⟩⟩
    | applyModel g result =>
      by_cases hg : g = (start.run ops).generation
      · subst hg
        have hfirst := h.unheard (congrArg (fun g => some (Half.model, g)) hsame)
        rw [← hsame] at hfirst
        refine ⟨?_, hcurrent.applyModel hfirst⟩
        simp [perform, applyModel, hsame]
      · rw [perform_report_of_ne rfl hg]
        exact ⟨hsame, hcurrent.of_silent rfl (by simp [modelOf, hg]) ⟨rfl, rfl, rfl⟩⟩

theorem During.slots {start : Browser} (hoptions : start.options = .loading)
    (hmodel : start.model = .loading) (h : During start.generation ops) :
    (start.run ops).options = slot (optionsOf ops start.generation) ∧
      (start.run ops).model = slot (modelOf ops start.generation) := by
  obtain ⟨hsame, hcurrent⟩ := h.current hoptions hmodel
  unfold Current at hcurrent
  rwa [hsame] at hcurrent

/-! ## Two moments -/

theorem optionsOf_of_earlier {first : List Op} (h : first <+: ops)
    {result : Except Failure Document} (hresult : optionsOf first generation = some result) :
    optionsOf ops generation = some result := by
  obtain ⟨rest, rfl⟩ := h
  unfold optionsOf at hresult ⊢
  rw [List.findSome?_append, hresult, Option.some_or]

theorem modelOf_of_earlier {first : List Op} (h : first <+: ops)
    {result : Except Failure Properties} (hresult : modelOf first generation = some result) :
    modelOf ops generation = some result := by
  obtain ⟨rest, rfl⟩ := h
  unfold modelOf at hresult ⊢
  rw [List.findSome?_append, hresult, Option.some_or]

/-- Properties on the tab are the model document, or stand in for it. -/
theorem Merged.ready_cases {options : Option (Except Failure Document)}
    {model : Option (Except Failure Properties)} {properties : Properties}
    (h : Merged options model (.ready properties)) :
    model = some (.ok properties) ∨ ((∀ other, model ≠ some (.ok other)) ∧
      ∃ document, options = some (.ok document) ∧ properties = document.model) := by
  by_cases hmodel : ∃ other, model = some (.ok other)
  · obtain ⟨other, hother⟩ := hmodel
    obtain rfl := State.ready.inj (h.document other hother)
    exact .inl hother
  · have hnone : ∀ other, model ≠ some (.ok other) := fun other heq => hmodel ⟨other, heq⟩
    refine .inr ⟨hnone, ?_⟩
    by_cases hoptions : ∃ document, options = some (.ok document)
    · obtain ⟨document, hdocument⟩ := hoptions
      exact ⟨document, hdocument, State.ready.inj (h.standIn hnone document hdocument)⟩
    · -- Without a document the tab would have failed or be loading.
      exfalso
      rcases model with _ | (failure | other)
      · have := h.loading.mpr ⟨hnone, fun d hd => hoptions ⟨d, hd⟩, .inl rfl⟩
        cases this
      · rcases options with _ | (failure' | document)
        · have := h.loading.mpr ⟨hnone, fun d hd => hoptions ⟨d, hd⟩, .inr rfl⟩
          cases this
        · have := (h.failed failure).mpr ⟨rfl, failure', rfl⟩
          cases this
        · exact hoptions ⟨document, rfl⟩
      · exact hnone other rfl

/-- What is on the tab at a later moment, by when more results have arrived: properties have stayed,
or the model document has come for its stand-in. -/
theorem Merged.forward {options options' : Option (Except Failure Document)}
    {model model' : Option (Except Failure Properties)} {properties : Properties}
    {shown : State Properties} (h : Merged options model (.ready properties))
    (h' : Merged options' model' shown) (hoptions : ∀ result ∈ options, result ∈ options')
    (hmodel : ∀ result ∈ model, result ∈ model') :
    ∃ after, shown = .ready after ∧ (properties ≠ after → model' = some (.ok after) ∧
      ∃ document, options = some (.ok document) ∧ properties = document.model) := by
  rcases h.ready_cases with hdocument | ⟨-, document, hstandIn, rfl⟩
  · have hstays := h'.document properties (hmodel _ hdocument)
    exact ⟨properties, hstays, fun hne => absurd rfl hne⟩
  · by_cases harrived : ∃ after, model' = some (.ok after)
    · obtain ⟨after, hafter⟩ := harrived
      exact ⟨after, h'.document after hafter, fun _ => ⟨hafter, document, hstandIn, rfl⟩⟩
    · have hstays := h'.standIn (fun other heq => harrived ⟨other, heq⟩) document
        (hoptions _ hstandIn)
      exact ⟨document.model, hstays, fun hne => absurd rfl hne⟩

/-- **What holds during a load**, when `start` is the browser just after its beginning and `ops`
are the operations until some moment before the next load. -/
structure LoadLaw (start : Browser) (ops : List Op) : Prop where
  /-- The merge rule, at every moment. -/
  merged : ∀ now, now <+: ops → Merged (optionsOf now start.generation)
    (modelOf now start.generation) (start.run now).modelProperties
  /-- Properties are never taken away. They change only from the model entry of the options document
  to the model document. -/
  forward : ∀ first second, first <+: second → second <+: ops → ∀ properties,
    (start.run first).modelProperties = .ready properties →
      ∃ after, (start.run second).modelProperties = .ready after ∧
        (properties ≠ after → modelOf second start.generation = some (.ok after) ∧
          ∃ document, optionsOf first start.generation = some (.ok document) ∧
            properties = document.model)
  /-- They change at most once. -/
  once : ∀ first second third, first <+: second → second <+: third → third <+: ops →
    ∀ p q r, (start.run first).modelProperties = .ready p →
      (start.run second).modelProperties = .ready q →
      (start.run third).modelProperties = .ready r → p ≠ q → q = r
  /-- A failure stays. -/
  failed : ∀ first second, first <+: second → second <+: ops → ∀ failure,
    (start.run first).modelProperties = .failed failure →
      (start.run second).modelProperties = .failed failure
  /-- The variables depend on the options result alone. -/
  vars : ∀ now, now <+: ops →
    (start.run now).vars = (slot (optionsOf now start.generation)).map Document.vars
  /-- They do not change when a model result arrives, whatever load it belongs to. -/
  untouched : ∀ now generation result, now ++ [.applyModel generation result] <+: ops →
    (start.run (now ++ [.applyModel generation result])).vars = (start.run now).vars

/-- **The model tab follows the merge rule and only moves forward.** A load begins on any browser;
whatever is done until the next one begins, with no result of this load twice, obeys the law. -/
theorem load_law (b : Browser) {ops : List Op} (h : During b.beginLoading.generation ops) :
    LoadLaw b.beginLoading ops := by
  have hslots : ∀ now, now <+: ops →
      (b.beginLoading.run now).options = slot (optionsOf now b.beginLoading.generation) ∧
        (b.beginLoading.run now).model = slot (modelOf now b.beginLoading.generation) :=
    fun now hnow => (h.prefix_of hnow).slots rfl rfl
  have hmerged := fun now hnow => merged_slots (hslots now hnow).1 (hslots now hnow).2
  have hvars := fun now hnow => vars_slot (hslots now hnow).1
  refine ⟨hmerged, ?_, ?_, ?_, hvars, ?_⟩
  · intro first second hle hsecond properties hready
    have hfirst := hmerged first (hle.trans hsecond)
    rw [hready] at hfirst
    exact hfirst.forward (hmerged second hsecond) (fun _ => optionsOf_of_earlier hle)
      fun _ => modelOf_of_earlier hle
  · intro first second third hle hle' hthird p q r hp hq hr hne
    have hfirst := hmerged first (hle.trans (hle'.trans hthird))
    have hsecond := hmerged second (hle'.trans hthird)
    rw [hp] at hfirst
    rw [hq] at hsecond
    obtain ⟨after, hafter, hchange⟩ :=
      hfirst.forward hsecond (fun _ => optionsOf_of_earlier hle) fun _ => modelOf_of_earlier hle
    obtain rfl := State.ready.inj hafter
    have hlast := (hmerged third hthird).document q (modelOf_of_earlier hle' (hchange hne).1)
    exact State.ready.inj (hlast.symm.trans hr)
  · intro first second hle hsecond failure hfailed
    have hfirst := hmerged first (hle.trans hsecond)
    obtain ⟨hmodel, other, hoptions⟩ := (hfirst.failed failure).mp hfailed
    exact ((hmerged second hsecond).failed failure).mpr
      ⟨modelOf_of_earlier hle hmodel, other, optionsOf_of_earlier hle hoptions⟩
  · intro now generation result hnow
    have hnone : optionsOf [.applyModel generation result] b.beginLoading.generation = none := rfl
    rw [hvars _ hnow, hvars now ((List.prefix_append now _).trans hnow), optionsOf_concat, hnone,
      Option.or_none]

/-- A load is begun again. A result of the load before arrives first, then the options document, and
the model document cannot be fetched. -/
theorem load_law_standIn :
    let document : Document := { model := ⟨[("nodes", .null)]⟩ }
    let ops : List Op := [.applyModel 1 (.ok {}), .applyOptions 2 (.ok document), .toggle,
      .applyModel 2 (.error (.network "timed out"))]
    During 2 ops ∧ LoadLaw ({} : Browser).beginLoading.beginLoading ops ∧
      (({} : Browser).beginLoading.beginLoading.run ops).modelProperties =
        .ready document.model := by
  intro document ops
  have hduring : During 2 ops := by
    refine ⟨?_, fun half => ?_⟩
    · simp [ops]
    · cases half <;> decide
  exact ⟨hduring, load_law ({} : Browser).beginLoading hduring, rfl⟩

end ResultsBoard.Metadata.Browser
