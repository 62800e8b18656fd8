import ResultsBoard.Proofs.Metadata.History

/-!
# The latest load decides

Loads of the metadata browser overlap: while one is under way another may begin, and each brings
its two results whenever they arrive. Only those of the latest load count.

* `slots_spec`: the invariant behind it. At every moment of a faithful history each document is
  what the current load has brought, and under way if it has brought nothing.
* `latest_load_decides`: a result is stored exactly if its load is the latest one at that moment,
  and changes nothing otherwise; the documents at the end are those of the last load; so two
  histories that agree on the number of loads and on what the last one brought end alike.
-/

namespace ResultsBoard.Metadata.Browser

open Fetch

/-! ## One result -/

theorem perform_report_of_eq {b : Browser} {op : Op} {half : Half}
    (h : op.report? = some (half, b.generation)) : (b.perform op).2 = .stored true := by
  cases op with
  | applyOptions generation result =>
    simp only [Op.report?, Option.some.injEq, Prod.mk.injEq] at h
    simp [perform, applyOptions, h.2]
  | applyModel generation result =>
    simp only [Op.report?, Option.some.injEq, Prod.mk.injEq] at h
    simp [perform, applyModel, h.2]
  | beginLoading => cases h
  | select tab => cases h
  | toggle => cases h

/-- A result of another load than the current one is not stored and changes nothing. -/
theorem perform_report_of_ne {b : Browser} {op : Op} {half : Half} {generation : UInt64}
    (h : op.report? = some (half, generation)) (hne : generation ≠ b.generation) :
    b.perform op = (b, .stored false) := by
  cases op with
  | applyOptions g result =>
    simp only [Op.report?, Option.some.injEq, Prod.mk.injEq] at h
    simp [perform, applyOptions, h.2, hne]
  | applyModel g result =>
    simp only [Op.report?, Option.some.injEq, Prod.mk.injEq] at h
    simp [perform, applyModel, h.2, hne]
  | beginLoading => cases h
  | select tab => cases h
  | toggle => cases h

/-! ## The documents of the current load -/

/-- The state of a document whose load has brought a result, or nothing yet. -/
def slot {α : Type} (result : Option (Except Failure α)) : State α :=
  result.elim .loading .ofResult

/-- Each document is what the current load has brought. -/
def Current (ops : List Op) (b : Browser) : Prop :=
  b.options = slot (optionsOf ops b.generation) ∧ b.model = slot (modelOf ops b.generation)

theorem optionsOf_concat (ops : List Op) (op : Op) (generation : UInt64) :
    optionsOf (ops ++ [op]) generation =
      (optionsOf ops generation).or (optionsOf [op] generation) := by
  simp only [optionsOf, List.findSome?_append]

theorem modelOf_concat (ops : List Op) (op : Op) (generation : UInt64) :
    modelOf (ops ++ [op]) generation =
      (modelOf ops generation).or (modelOf [op] generation) := by
  simp only [modelOf, List.findSome?_append]

/-- An operation that stores nothing leaves the current load with what it has brought. -/
theorem Current.of_silent {ops : List Op} {b after : Browser} {op : Op} (h : Current ops b)
    (hoptions : optionsOf [op] b.generation = none) (hmodel : modelOf [op] b.generation = none)
    (hafter : after.options = b.options ∧ after.model = b.model ∧ after.generation = b.generation) :
    Current (ops ++ [op]) after := by
  obtain ⟨ho, hm, hg⟩ := hafter
  unfold Current
  rw [ho, hm, hg, optionsOf_concat, modelOf_concat, hoptions, hmodel, Option.or_none,
    Option.or_none]
  exact h

/-- A load that begins has brought nothing, since its generation is new. -/
theorem Current.beginLoading {ops : List Op} (hops : Faithful ops)
    (hfew : (begun ops).length + 1 < UInt64.size) :
    Current (ops ++ [.beginLoading]) (({} : Browser).run ops).beginLoading := by
  obtain ⟨hcount, hle⟩ := begun_spec ops (by omega)
  have hnew : (({} : Browser).run ops).generation + 1 ∉ begun ops := by
    intro hmem
    have hnext : ((({} : Browser).run ops).generation + 1).toNat = (begun ops).length + 1 := by
      rw [UInt64.toNat_add, hcount, UInt64.toNat_one]
      exact Nat.mod_eq_of_lt hfew
    have := hle _ hmem
    omega
  have hunheard : ∀ half, (half, (({} : Browser).run ops).beginLoading.generation) ∉
      (ops ++ [Op.beginLoading]).filterMap Op.report? := by
    intro half hmem
    rw [List.filterMap_append, List.mem_append] at hmem
    rcases hmem with hmem | hmem
    · exact hnew (hops.begun_of_report hmem)
    · simp [Op.report?] at hmem
  constructor
  · rw [optionsOf_eq_none (hunheard .options)]
    rfl
  · rw [modelOf_eq_none (hunheard .model)]
    rfl

/-- The first options result of the current load is what it has brought. -/
theorem Current.applyOptions {ops : List Op} {b : Browser} {result : Except Failure Document}
    (h : Current ops b) (hfirst : (Half.options, b.generation) ∉ ops.filterMap Op.report?) :
    Current (ops ++ [.applyOptions b.generation result])
      (b.applyOptions b.generation result).1 := by
  unfold Current Browser.applyOptions
  simp only [if_true]
  rw [optionsOf_concat, modelOf_concat, optionsOf_eq_none hfirst]
  refine ⟨?_, ?_⟩
  · simp [optionsOf, slot]
  · have hnone : modelOf [.applyOptions b.generation result] b.generation = none := rfl
    rw [hnone, Option.or_none]
    exact h.2

/-- The first model result of the current load is what it has brought. -/
theorem Current.applyModel {ops : List Op} {b : Browser} {result : Except Failure Properties}
    (h : Current ops b) (hfirst : (Half.model, b.generation) ∉ ops.filterMap Op.report?) :
    Current (ops ++ [.applyModel b.generation result]) (b.applyModel b.generation result).1 := by
  unfold Current Browser.applyModel
  simp only [if_true]
  rw [optionsOf_concat, modelOf_concat, modelOf_eq_none hfirst]
  refine ⟨?_, ?_⟩
  · have hnone : optionsOf [.applyModel b.generation result] b.generation = none := rfl
    rw [hnone, Option.or_none]
    exact h.1
  · simp [modelOf, slot]

/-- **Each document is what the current load has brought**, at every moment of a faithful
history. -/
theorem slots_spec (ops : List Op) (hops : Faithful ops)
    (hfew : (begun ops).length < UInt64.size) : Current ops (({} : Browser).run ops) := by
  induction ops using List.reverseRecOn with
  | nil => exact ⟨rfl, rfl⟩
  | append_singleton ops op ih =>
    have hprev := hops.of_concat
    have hfewer : (begun ops).length < UInt64.size := by
      rw [begun_concat, List.length_append] at hfew
      omega
    have hcurrent := ih hprev hfewer
    rw [run_concat]
    cases op with
    | beginLoading =>
      refine Current.beginLoading hprev ?_
      rw [begun_concat, List.length_append] at hfew
      exact hfew
    | select tab => exact hcurrent.of_silent rfl rfl ⟨rfl, rfl, rfl⟩
    | toggle => exact hcurrent.of_silent rfl rfl ⟨rfl, rfl, rfl⟩
    | applyOptions generation result =>
      by_cases hg : generation = (({} : Browser).run ops).generation
      · subst hg
        exact hcurrent.applyOptions (hops.last_report rfl).2
      · rw [perform_report_of_ne rfl hg]
        exact hcurrent.of_silent (by simp [optionsOf, hg]) rfl ⟨rfl, rfl, rfl⟩
    | applyModel generation result =>
      by_cases hg : generation = (({} : Browser).run ops).generation
      · subst hg
        exact hcurrent.applyModel (hops.last_report rfl).2
      · rw [perform_report_of_ne rfl hg]
        exact hcurrent.of_silent rfl (by simp [modelOf, hg]) ⟨rfl, rfl, rfl⟩

/-- At every moment a result is stored exactly if its load is the latest one that has begun, and
changes nothing otherwise. -/
theorem stored_iff_latest {ops : List Op} (hops : Faithful ops) {i : Nat} {op : Op} {half : Half}
    {generation : UInt64} (hi : ops[i]? = some op) (hop : op.report? = some (half, generation)) :
    ((({} : Browser).run (ops.take i)).perform op).2 =
        .stored (decide ((begun (ops.take i)).getLast? = some generation)) ∧
      ((begun (ops.take i)).getLast? ≠ some generation →
        ((({} : Browser).run (ops.take i)).perform op).1 = ({} : Browser).run (ops.take i)) := by
  have hmem := hops.issued i half generation (by rw [hi]; exact hop)
  have hlast := getLast?_begun (ops.take i) (List.ne_nil_of_mem hmem)
  rw [hlast]
  by_cases hg : generation = (({} : Browser).run (ops.take i)).generation
  · subst hg
    rw [perform_report_of_eq hop]
    simp
  · rw [perform_report_of_ne hop hg]
    simp [Ne.symm hg]

/-! ## The theorem -/

/-- The options result that the last load of a history has brought. -/
def lastOptions (ops : List Op) : Option (Except Failure Document) :=
  (begun ops).getLast?.bind (optionsOf ops)

/-- The model result that the last load of a history has brought. -/
def lastModel (ops : List Op) : Option (Except Failure Properties) :=
  (begun ops).getLast?.bind (modelOf ops)

/-- In a faithful history without loads nothing has reported. -/
theorem Faithful.silent {ops : List Op} (hops : Faithful ops) (hnone : begun ops = []) :
    ops.filterMap Op.report? = [] := by
  refine List.eq_nil_iff_forall_not_mem.mpr fun ⟨half, generation⟩ hmem => ?_
  have := hops.begun_of_report hmem
  rw [hnone] at this
  exact List.not_mem_nil this

/-- The documents at the end of a faithful history are those of its last load. -/
theorem documents_at_end {ops : List Op} (hops : Faithful ops)
    (hfew : (begun ops).length < UInt64.size) :
    (({} : Browser).run ops).options = slot (lastOptions ops) ∧
      (({} : Browser).run ops).model = slot (lastModel ops) := by
  obtain ⟨ho, hm⟩ := slots_spec ops hops hfew
  unfold lastOptions lastModel
  by_cases hnone : begun ops = []
  · have hsilent := hops.silent hnone
    rw [optionsOf_eq_none (by rw [hsilent]; exact List.not_mem_nil)] at ho
    rw [modelOf_eq_none (by rw [hsilent]; exact List.not_mem_nil)] at hm
    rw [ho, hm, hnone]
    exact ⟨rfl, rfl⟩
  · rw [getLast?_begun ops hnone]
    exact ⟨ho, hm⟩

/-- **The latest load decides.** In every faithful history with fewer than `2 ^ 64` loads, a result
is stored exactly if its load is the latest one at that moment and changes nothing otherwise; the
documents at the end are what the last load has brought, or under way; and any other such history
with as many loads, whose last load has brought the same, ends with the same documents and the
same generation, whatever has become of the loads before and of the tabs. -/
theorem latest_load_decides {ops : List Op} (hops : Faithful ops)
    (hfew : (begun ops).length < UInt64.size) :
    (∀ i op half generation, ops[i]? = some op → op.report? = some (half, generation) →
      ((({} : Browser).run (ops.take i)).perform op).2 =
          .stored (decide ((begun (ops.take i)).getLast? = some generation)) ∧
        ((begun (ops.take i)).getLast? ≠ some generation →
          ((({} : Browser).run (ops.take i)).perform op).1 = ({} : Browser).run (ops.take i))) ∧
    (({} : Browser).run ops).options = slot (lastOptions ops) ∧
    (({} : Browser).run ops).model = slot (lastModel ops) ∧
    ∀ others : List Op, Faithful others → (begun others).length = (begun ops).length →
      lastOptions others = lastOptions ops → lastModel others = lastModel ops →
      (({} : Browser).run others).options = (({} : Browser).run ops).options ∧
      (({} : Browser).run others).model = (({} : Browser).run ops).model ∧
      (({} : Browser).run others).generation = (({} : Browser).run ops).generation := by
  obtain ⟨ho, hm⟩ := documents_at_end hops hfew
  refine ⟨fun i op half generation hi hop => stored_iff_latest hops hi hop, ho, hm, ?_⟩
  intro others hothers hlength hsameOptions hsameModel
  have hfew' : (begun others).length < UInt64.size := by omega
  obtain ⟨ho', hm'⟩ := documents_at_end hothers hfew'
  refine ⟨?_, ?_, ?_⟩
  · rw [ho', ho, hsameOptions]
  · rw [hm', hm, hsameModel]
  · apply UInt64.toNat_inj.mp
    rw [(begun_spec others hfew').1, (begun_spec ops hfew).1, hlength]

/-- A load is begun again while its results are on their way, and those of the first load come
last. -/
theorem latest_load_decides_overlapping :
    let late : Except Failure Properties := .error (.network "timed out")
    let ops : List Op := [.beginLoading, .beginLoading, .select .vars, .applyOptions 2 (.ok {}),
      .applyModel 1 late]
    Faithful ops ∧ (begun ops).length < UInt64.size ∧
      (({} : Browser).run ops).options = .ready {} ∧ (({} : Browser).run ops).model = .loading := by
  intro late ops
  have hops : Faithful ops := by
    refine ⟨fun i half generation hi => ?_, ?_⟩
    · match i, hi with
      | 0, hi | 1, hi | 2, hi => cases hi
      | 3, hi =>
        cases hi
        decide
      | 4, hi =>
        cases hi
        decide
    · exact List.nodup_cons.mpr ⟨by decide, List.nodup_singleton _⟩
  have hfew : (begun ops).length < UInt64.size := by decide
  obtain ⟨-, hoptions, hmodel, -⟩ := latest_load_decides hops hfew
  exact ⟨hops, hfew, hoptions, hmodel⟩

end ResultsBoard.Metadata.Browser
