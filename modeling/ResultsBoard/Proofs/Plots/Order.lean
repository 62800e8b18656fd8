import Mathlib.Algebra.Group.Nat.Defs
import Mathlib.Data.List.Nodup
import ResultsBoard.Plots

/-!
# The ids of the plots

Ids ascend in display order and lie below the counter, as long as the counter has room. So an id
that has been in use and is no longer never comes back.

* `Ordered`, `Later`: as for the tokens of a registry. `add` and `remove` keep the one and go up in
  the other.
* `keyed`: what becomes of a list of entries if those with an id in both lists stay where they are
  and the new ones come at the end. So it is after every `add` and `remove`.
-/

namespace ResultsBoard.Plots

variable {p p' p'' : Plots}

/-- The ids ascend and lie below the counter. -/
structure Ordered (p : Plots) : Prop where
  ascending : p.ids.Pairwise fun a b => a.value < b.value
  below : ∀ id ∈ p.ids, id.value < p.nextId

/-- There is room for another id. -/
def Room (p : Plots) : Prop := p.nextId.toNat + 1 < 2 ^ 32

/-- What may become of plots: the counter has not gone down, and every id in use was in use before
or is new. -/
structure Later (p p' : Plots) : Prop where
  counter : p.nextId ≤ p'.nextId
  ids : ∀ id ∈ p'.ids, id ∈ p.ids ∨ p.nextId ≤ id.value

/-! ## Order -/

theorem Ordered.nodup (h : p.Ordered) : p.ids.Nodup :=
  h.ascending.imp fun hlt heq => by
    rw [heq] at hlt
    exact UInt32.lt_irrefl _ hlt

theorem nextId_add (h : p.Room) : p.add.1.nextId.toNat = p.nextId.toNat + 1 := by
  have hroom : p.nextId.toNat + 1 < 2 ^ 32 := h
  show (p.nextId + 1).toNat = _
  rw [UInt32.toNat_add]
  exact Nat.mod_eq_of_lt hroom

theorem lt_nextId_add (h : p.Room) : p.nextId < p.add.1.nextId := by
  rw [UInt32.lt_iff_toNat_lt, nextId_add h]
  exact Nat.lt_succ_self _

theorem ids_add (p : Plots) : p.add.1.ids = p.ids ++ [⟨p.nextId⟩] := by
  unfold ids add
  rw [List.map_append]
  rfl

theorem ids_remove_sublist (p : Plots) (id : PlotId) : (p.remove id).1.ids.Sublist p.ids := by
  unfold remove
  split
  · exact List.filter_sublist.map _
  · exact .refl _

theorem nextId_remove (p : Plots) (id : PlotId) : (p.remove id).1.nextId = p.nextId := by
  unfold remove
  split <;> rfl

theorem ordered_initial : initial.Ordered where
  ascending := List.pairwise_singleton _ _
  below id hmem := by
    rw [List.mem_singleton.mp hmem]
    decide

theorem Ordered.add (h : p.Ordered) (hroom : p.Room) : p.add.1.Ordered where
  ascending := by
    rw [ids_add]
    refine List.pairwise_append.mpr ⟨h.ascending, List.pairwise_singleton _ _, ?_⟩
    intro id hmem last hlast
    rw [List.mem_singleton.mp hlast]
    exact h.below id hmem
  below id hmem := by
    rw [ids_add] at hmem
    rcases List.mem_append.mp hmem with hmem | hmem
    · exact UInt32.lt_trans (h.below id hmem) (lt_nextId_add hroom)
    · rw [List.mem_singleton.mp hmem]
      exact lt_nextId_add hroom

theorem Ordered.remove (h : p.Ordered) (id : PlotId) : (p.remove id).1.Ordered where
  ascending := h.ascending.sublist (ids_remove_sublist p id)
  below other hmem := by
    rw [nextId_remove]
    exact h.below other ((ids_remove_sublist p id).subset hmem)

/-! ## Time -/

theorem Later.refl (p : Plots) : p.Later p := ⟨UInt32.le_refl _, fun _ hmem => .inl hmem⟩

theorem Later.trans (h : p.Later p') (h' : p'.Later p'') : p.Later p'' where
  counter := UInt32.le_trans h.counter h'.counter
  ids id hmem := by
    rcases h'.ids id hmem with hmem | hle
    · exact h.ids id hmem
    · exact .inr (UInt32.le_trans h.counter hle)

theorem later_add (hroom : p.Room) : p.Later p.add.1 where
  counter := UInt32.le_of_lt (lt_nextId_add hroom)
  ids id hmem := by
    rw [ids_add] at hmem
    rcases List.mem_append.mp hmem with hmem | hmem
    · exact .inl hmem
    · rw [List.mem_singleton.mp hmem]
      exact .inr (UInt32.le_refl _)

theorem later_remove (p : Plots) (id : PlotId) : p.Later (p.remove id).1 where
  counter := by
    rw [nextId_remove]
    exact UInt32.le_refl _
  ids other hmem := .inl ((ids_remove_sublist p id).subset hmem)

/-- **What is gone does not come back.** -/
theorem Later.not_mem (h : p.Later p') {id : PlotId} (hold : id.value < p.nextId)
    (hgone : id ∉ p.ids) : id ∉ p'.ids := by
  intro hback
  rcases h.ids id hback with hmem | hle
  · exact hgone hmem
  · exact absurd hold (UInt32.not_lt.mpr hle)

/-! ## Keyed updates -/

/-- The entries that stay, and then those with a new id. -/
def keyed (old new : List PlotEntry) : List PlotEntry :=
  (old.filter fun entry => entry.id ∈ new.map PlotEntry.id) ++
    new.filter fun entry => entry.id ∉ old.map PlotEntry.id

theorem keyed_nil (new : List PlotEntry) : keyed [] new = new := by simp [keyed]

/-- A new entry comes at the end. -/
theorem keyed_add (h : p.Ordered) : keyed p.entries p.add.1.entries = p.add.1.entries := by
  have hfresh : (⟨p.nextId⟩ : PlotId) ∉ p.entries.map PlotEntry.id := fun hmem =>
    UInt32.lt_irrefl _ (h.below _ hmem)
  have hstay : p.entries.filter (fun entry => entry.id ∈ p.add.1.entries.map PlotEntry.id) =
      p.entries := by
    refine List.filter_eq_self.mpr fun entry hentry => decide_eq_true ?_
    exact List.mem_map_of_mem (List.mem_append_left _ hentry)
  have hold : p.entries.filter (fun entry => entry.id ∉ p.entries.map PlotEntry.id) = [] := by
    refine List.filter_eq_nil_iff.mpr fun entry hentry => ?_
    simpa using ⟨entry, hentry, rfl⟩
  have hnew : p.add.1.entries.filter (fun entry => entry.id ∉ p.entries.map PlotEntry.id) =
      [.ofId ⟨p.nextId⟩] := by
    show (p.entries ++ [PlotEntry.ofId ⟨p.nextId⟩]).filter _ = _
    rw [List.filter_append, hold, List.nil_append]
    exact List.filter_cons_of_pos (decide_eq_true hfresh)
  unfold keyed
  rw [hstay, hnew]
  rfl

/-- Some entries may go. -/
theorem keyed_filter (entries : List PlotEntry) (stays : PlotId → Bool) :
    keyed entries (entries.filter fun entry => stays entry.id) =
      entries.filter fun entry => stays entry.id := by
  have hstay : entries.filter (fun entry =>
      entry.id ∈ (entries.filter fun entry => stays entry.id).map PlotEntry.id) =
      entries.filter fun entry => stays entry.id := by
    refine List.filter_congr fun entry hentry => ?_
    cases hstays : stays entry.id with
    | true =>
      exact decide_eq_true (List.mem_map_of_mem (List.mem_filter.mpr ⟨hentry, hstays⟩))
    | false =>
      refine decide_eq_false fun hmem => ?_
      obtain ⟨other, hother, heq⟩ := List.mem_map.mp hmem
      rw [← heq, (List.mem_filter.mp hother).2] at hstays
      cases hstays
  have hnew : (entries.filter fun entry => stays entry.id).filter (fun entry =>
      entry.id ∉ entries.map PlotEntry.id) = [] := by
    refine List.filter_eq_nil_iff.mpr fun entry hentry => ?_
    have hmem := List.mem_map_of_mem (f := PlotEntry.id) (List.mem_of_mem_filter hentry)
    simpa using hmem
  unfold keyed
  rw [hstay, hnew, List.append_nil]

theorem keyed_remove (p : Plots) (id : PlotId) :
    keyed p.entries (p.remove id).1.entries = (p.remove id).1.entries := by
  unfold remove
  split
  · have := keyed_filter p.entries fun other => other ≠ id
    exact this
  · have := keyed_filter p.entries fun _ => true
    rw [List.filter_true] at this
    exact this

end ResultsBoard.Plots
