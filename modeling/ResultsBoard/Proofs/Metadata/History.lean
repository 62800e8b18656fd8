import Mathlib.Data.List.Induction
import Mathlib.Data.List.Nodup
import ResultsBoard.Metadata.Browser

/-!
# Histories of the metadata browser

A history is a list of operations on a new browser (`MetadataBrowserState`): loads begin, results
are delivered, tabs are shown. Every operation gives a reply, and a result names its load by the
generation that the beginning of that load has replied.

* `begun` lists the generations that a history hands out; `begun_spec` counts them.
* `Faithful` is what the fetches keep to: a result names a load that has begun before, and no
  fetch of a load reports twice.
* `optionsOf` and `modelOf` look up what a load has brought.
-/

namespace ResultsBoard.Metadata.Browser

open Fetch

/-- The two documents that a load fetches. -/
inductive Half where
  | options
  | model
  deriving DecidableEq, Repr

/-- An operation on a browser. -/
inductive Op where
  | beginLoading
  | select (tab : Tab)
  | toggle
  | applyOptions (generation : UInt64) (result : Except Failure Document)
  | applyModel (generation : UInt64) (result : Except Failure Properties)

/-- What an operation replies. -/
inductive Op.Reply where
  | nothing
  /-- The generation of the load that has begun. -/
  | began (generation : UInt64)
  /-- Whether a result was stored. -/
  | stored (accepted : Bool)
  deriving DecidableEq, Repr

/-- The generation that a reply hands out. -/
def Op.Reply.generation? : Op.Reply → Option UInt64
  | .began generation => some generation
  | .nothing | .stored _ => none

/-- Which fetch reports: the document that it is for and the generation of its load. -/
def Op.report? : Op → Option (Half × UInt64)
  | .applyOptions generation _ => some (.options, generation)
  | .applyModel generation _ => some (.model, generation)
  | .beginLoading | .select _ | .toggle => none

/-- Carry out an operation. Gives its reply. -/
def perform (b : Browser) : Op → Browser × Op.Reply
  | .beginLoading => (b.beginLoading, .began b.beginLoading.generation)
  | .select tab => (b.select tab, .nothing)
  | .toggle => (b.toggle, .nothing)
  | .applyOptions generation result =>
    ((b.applyOptions generation result).1, .stored (b.applyOptions generation result).2)
  | .applyModel generation result =>
    ((b.applyModel generation result).1, .stored (b.applyModel generation result).2)

/-- The browser after some operations. -/
def run (b : Browser) (ops : List Op) : Browser := ops.foldl (fun b op => (b.perform op).1) b

/-- What some operations reply, one after another. -/
def replies (b : Browser) : List Op → List Op.Reply
  | [] => []
  | op :: rest => (b.perform op).2 :: replies (b.perform op).1 rest

/-- The generations that a history hands out, in order. -/
def begun (ops : List Op) : List UInt64 := (replies {} ops).filterMap Op.Reply.generation?

/-- What the fetches keep to: a result names a load that has begun before it, and no fetch reports
twice. -/
structure Faithful (ops : List Op) : Prop where
  issued : ∀ i half generation, (ops[i]?.bind Op.report?) = some (half, generation) →
    generation ∈ begun (ops.take i)
  once : (ops.filterMap Op.report?).Nodup

/-- The options result that a load has brought. -/
def optionsOf (ops : List Op) (generation : UInt64) : Option (Except Failure Document) :=
  ops.findSome? fun
    | .applyOptions g result => if g = generation then some result else none
    | _ => none

/-- The model result that a load has brought. -/
def modelOf (ops : List Op) (generation : UInt64) : Option (Except Failure Properties) :=
  ops.findSome? fun
    | .applyModel g result => if g = generation then some result else none
    | _ => none

/-! ## One operation more -/

theorem run_append (b : Browser) (first second : List Op) :
    b.run (first ++ second) = (b.run first).run second := by
  unfold run
  rw [List.foldl_append]

theorem run_concat (b : Browser) (ops : List Op) (op : Op) :
    b.run (ops ++ [op]) = ((b.run ops).perform op).1 := by
  rw [run_append]
  rfl

theorem replies_append (b : Browser) (first second : List Op) :
    b.replies (first ++ second) = b.replies first ++ (b.run first).replies second := by
  induction first generalizing b with
  | nil => rfl
  | cons op rest ih =>
    simp only [List.cons_append, replies]
    rw [ih]
    rfl

theorem begun_concat (ops : List Op) (op : Op) :
    begun (ops ++ [op]) =
      begun ops ++ (((({} : Browser).run ops).perform op).2.generation?).toList := by
  unfold begun
  rw [replies_append, List.filterMap_append]
  simp only [replies, List.filterMap_cons, List.filterMap_nil]
  cases ((({} : Browser).run ops).perform op).2.generation? <;> rfl

/-- A beginning of a history has handed out a beginning of the generations. -/
theorem begun_take_subset (ops : List Op) (i : Nat) : begun (ops.take i) ⊆ begun ops := by
  intro generation h
  have hsplit : begun ops =
      begun (ops.take i) ++
        ((({} : Browser).run (ops.take i)).replies (ops.drop i)).filterMap
          Op.Reply.generation? := by
    unfold begun
    rw [← List.filterMap_append, ← replies_append, List.take_append_drop]
  rw [hsplit]
  exact List.mem_append_left _ h

/-- An operation hands out a generation only by beginning a load, and then it is the one after
the current one. -/
theorem perform_generation (b : Browser) (op : Op) :
    (op = .beginLoading ∧ (b.perform op).2.generation? = some (b.generation + 1) ∧
      (b.perform op).1.generation = b.generation + 1) ∨
    ((b.perform op).2.generation? = none ∧ (b.perform op).1.generation = b.generation) := by
  cases op with
  | beginLoading => exact .inl ⟨rfl, rfl, rfl⟩
  | select tab => exact .inr ⟨rfl, rfl⟩
  | toggle => exact .inr ⟨rfl, rfl⟩
  | applyOptions generation result =>
    refine .inr ⟨rfl, ?_⟩
    simp only [perform, applyOptions]
    split <;> rfl
  | applyModel generation result =>
    refine .inr ⟨rfl, ?_⟩
    simp only [perform, applyModel]
    split <;> rfl

/-! ## The generations of a history -/

/-- The current generation is the last one handed out. -/
theorem getLast?_begun (ops : List Op) (h : begun ops ≠ []) :
    (begun ops).getLast? = some (({} : Browser).run ops).generation := by
  induction ops using List.reverseRecOn with
  | nil => exact absurd rfl h
  | append_singleton ops op ih =>
    rw [begun_concat] at h ⊢
    rw [run_concat]
    obtain ⟨-, hreply, hgen⟩ | ⟨hreply, hgen⟩ := perform_generation (({} : Browser).run ops) op
    · rw [hreply, hgen]
      simp
    · rw [hreply] at h ⊢
      rw [hgen]
      simp only [Option.toList_none, List.append_nil] at h ⊢
      exact ih h

/-- **Generations count the loads**, as long as there are fewer than the numbers of a word. -/
theorem begun_spec (ops : List Op) (hfew : (begun ops).length < UInt64.size) :
    (({} : Browser).run ops).generation.toNat = (begun ops).length ∧
      ∀ generation ∈ begun ops, generation.toNat ≤ (begun ops).length := by
  induction ops using List.reverseRecOn with
  | nil => exact ⟨rfl, by simp [begun, replies]⟩
  | append_singleton ops op ih =>
    rw [begun_concat] at hfew ⊢
    rw [run_concat]
    obtain ⟨-, hreply, hgen⟩ | ⟨hreply, hgen⟩ := perform_generation (({} : Browser).run ops) op
    · rw [hreply] at hfew ⊢
      rw [hgen]
      simp only [Option.toList_some, List.length_append, List.length_singleton] at hfew ⊢
      obtain ⟨hcount, hle⟩ := ih (by omega)
      have hnext : ((({} : Browser).run ops).generation + 1).toNat = (begun ops).length + 1 := by
        rw [UInt64.toNat_add, hcount, UInt64.toNat_one]
        exact Nat.mod_eq_of_lt hfew
      refine ⟨hnext, fun generation hmem => ?_⟩
      rcases List.mem_append.mp hmem with hmem | hmem
      · have := hle generation hmem
        omega
      · rw [List.mem_singleton.mp hmem]
        exact Nat.le_of_eq hnext
    · rw [hreply] at hfew ⊢
      rw [hgen]
      simp only [Option.toList_none, List.append_nil] at hfew ⊢
      exact ih hfew

/-! ## Faithful histories -/

/-- A beginning of a faithful history is faithful. -/
theorem Faithful.of_concat {ops : List Op} {op : Op} (h : Faithful (ops ++ [op])) :
    Faithful ops where
  issued i half generation hi := by
    have hlt : i < ops.length := by
      by_contra hge
      rw [List.getElem?_eq_none (Nat.le_of_not_lt hge)] at hi
      exact absurd hi (by simp)
    have := h.issued i half generation (by rw [List.getElem?_append_left hlt]; exact hi)
    rwa [List.take_append_of_le_length (Nat.le_of_lt hlt)] at this
  once := by
    have := h.once
    rw [List.filterMap_append] at this
    exact this.of_append_left

/-- A result at the end of a faithful history names a load that has begun, and is the first one
of its fetch. -/
theorem Faithful.last_report {ops : List Op} {op : Op} (h : Faithful (ops ++ [op])) {half : Half}
    {generation : UInt64} (hop : op.report? = some (half, generation)) :
    generation ∈ begun ops ∧ (half, generation) ∉ ops.filterMap Op.report? := by
  constructor
  · have := h.issued ops.length half generation (by simp [hop])
    rwa [List.take_left'] at this
    rfl
  · have hnodup := h.once
    rw [List.filterMap_append] at hnodup
    simp only [List.filterMap_cons, hop, List.filterMap_nil] at hnodup
    exact fun hmem => (List.nodup_append.mp hnodup).2.2 _ hmem _ (List.mem_singleton.mpr rfl) rfl

/-- Whatever has reported in a faithful history belongs to a load that has begun. -/
theorem Faithful.begun_of_report {ops : List Op} (h : Faithful ops) {half : Half}
    {generation : UInt64} (hmem : (half, generation) ∈ ops.filterMap Op.report?) :
    generation ∈ begun ops := by
  obtain ⟨op, hop, hreport⟩ := List.mem_filterMap.mp hmem
  obtain ⟨i, hi⟩ := List.mem_iff_getElem?.mp hop
  exact begun_take_subset ops i (h.issued i half generation (by rw [hi]; exact hreport))

/-- A load whose options fetch has not reported has brought no options result. -/
theorem optionsOf_eq_none {ops : List Op} {generation : UInt64}
    (h : (Half.options, generation) ∉ ops.filterMap Op.report?) :
    optionsOf ops generation = none := by
  refine List.findSome?_eq_none_iff.mpr fun op hop => ?_
  cases op with
  | applyOptions g result =>
    refine if_neg fun heq => h ?_
    subst heq
    exact List.mem_filterMap.mpr ⟨_, hop, rfl⟩
  | _ => rfl

/-- A load whose model fetch has not reported has brought no model result. -/
theorem modelOf_eq_none {ops : List Op} {generation : UInt64}
    (h : (Half.model, generation) ∉ ops.filterMap Op.report?) :
    modelOf ops generation = none := by
  refine List.findSome?_eq_none_iff.mpr fun op hop => ?_
  cases op with
  | applyModel g result =>
    refine if_neg fun heq => h ?_
    subst heq
    exact List.mem_filterMap.mpr ⟨_, hop, rfl⟩
  | _ => rfl

end ResultsBoard.Metadata.Browser
