import Mathlib.Data.List.Perm.Subperm
import ResultsBoard.Proofs.Plots.History

/-!
# Removals

A removal (`PlotCollection::remove`) takes out the plot that it names and nothing else, or it
changes nothing, and it says which. Of removals in a row as many succeed as there are plots less at
the end, and one plot is always left. If there is a plot that none of them names, their order does
not matter: the last plot is then never at stake.

* `TakenOut`: one plot taken out of the others. `Ordered.takenOut_strike`: so a plot is struck out.
* `size_removals`, `size_pos_removals`: how many removals in a row succeed, and that one plot is
  left.
* `run_removals`: what is left if one plot is named by none of them.
* `RemovalLaw`, `removal_law`: the removals from any plots that a history leads to.
-/

namespace ResultsBoard.Plots

variable {p : Plots} {id : PlotId}

/-- Removals in a row. -/
def removals (ids : List PlotId) : List Op := ids.map .remove

/-- Whether a reply says that a plot has been removed. -/
def Op.Reply.isRemoved : Op.Reply → Bool
  | .removed changed => changed
  | .issued _ => false

/-- How many of some removals in a row have removed a plot. -/
def succeeded (p : Plots) (ids : List PlotId) : Nat :=
  (p.transcript (removals ids)).countP fun turn => turn.2.isRemoved

/-- **One plot taken out of the others**, which stay as they are and where they are. -/
structure TakenOut (p : Plots) (id : PlotId) (after : Plots) : Prop where
  entries : ∃ first entry last, p.entries = first ++ entry :: last ∧ entry.id = id ∧
    after.entries = first ++ last
  gone : id ∉ after.ids
  nextId : after.nextId = p.nextId

/-! ## One removal -/

theorem remove_eq_true_iff (p : Plots) (id : PlotId) :
    (p.remove id).2 = true ↔ id ∈ p.ids ∧ 1 < p.size := by
  obtain ⟨hsize, hmem, heq⟩ | ⟨hrefused, heq⟩ := remove_cases p id
  · rw [heq]
    exact iff_of_true rfl ⟨hmem, hsize⟩
  · rw [heq]
    exact iff_of_false Bool.false_ne_true fun h => hrefused h.symm

theorem remove_of_eq_true (h : (p.remove id).2 = true) : (p.remove id).1 = p.strike id := by
  obtain ⟨-, -, heq⟩ | ⟨-, heq⟩ := remove_cases p id
  · rw [heq]
  · rw [heq] at h
    exact absurd h Bool.false_ne_true

theorem remove_of_eq_false (h : (p.remove id).2 = false) : (p.remove id).1 = p := by
  obtain ⟨-, -, heq⟩ | ⟨-, heq⟩ := remove_cases p id
  · rw [heq] at h
    cases h
  · rw [heq]

theorem remove_of_not_mem (h : id ∉ p.ids) : p.remove id = (p, false) := by
  obtain ⟨-, hmem, -⟩ | ⟨-, heq⟩ := remove_cases p id
  · exact absurd hmem h
  · exact heq

/-- A plot is taken out when it is struck out, since no other one has its id. -/
theorem Ordered.takenOut_strike (h : p.Ordered) (hmem : id ∈ p.ids) :
    TakenOut p id (p.strike id) := by
  obtain ⟨entry, hentry, rfl⟩ := List.mem_map.mp hmem
  obtain ⟨first, last, hsplit⟩ := List.append_of_mem hentry
  have hnodup := h.nodup
  unfold ids at hnodup
  rw [hsplit, List.map_append, List.map_cons, List.nodup_middle, ← List.map_append,
    List.nodup_cons] at hnodup
  have hothers : ((first ++ last).filter fun other => other.id ≠ entry.id) = first ++ last := by
    refine List.filter_eq_self.mpr fun other hother => decide_eq_true fun heq => hnodup.1 ?_
    exact heq ▸ List.mem_map_of_mem hother
  have hstruck : (p.strike entry.id).entries = first ++ last := by
    unfold Plots.strike
    rw [hsplit, List.filter_append, List.filter_cons_of_neg (by simp), ← List.filter_append]
    exact hothers
  refine ⟨⟨first, entry, last, hsplit, rfl, hstruck⟩, ?_, rfl⟩
  unfold ids
  rw [hstruck]
  exact hnodup.1

/-! ## Removals in a row -/

theorem run_removals_cons (p : Plots) (id : PlotId) (ids : List PlotId) :
    p.run (removals (id :: ids)) = (p.remove id).1.run (removals ids) := rfl

theorem succeeded_cons (p : Plots) (id : PlotId) (ids : List PlotId) :
    p.succeeded (id :: ids) = (p.remove id).1.succeeded ids + if (p.remove id).2 then 1 else 0 := by
  unfold succeeded
  exact List.countP_cons

/-- **Each removal that succeeds takes one plot away**, and no other one does. -/
theorem size_removals (h : p.Ordered) (ids : List PlotId) :
    p.succeeded ids + (p.run (removals ids)).size = p.size := by
  induction ids generalizing p with
  | nil => exact Nat.zero_add _
  | cons id ids ih =>
    have hrest := ih (h.remove id)
    rw [run_removals_cons, succeeded_cons]
    obtain ⟨hsize, hmem, heq⟩ | ⟨-, heq⟩ := remove_cases p id
    · rw [heq] at hrest ⊢
      rw [h.size_strike hmem] at hrest
      dsimp only at hrest ⊢
      rw [if_pos rfl]
      omega
    · rw [heq] at hrest ⊢
      exact hrest

/-- **One plot is left.** -/
theorem size_pos_removals (h : p.Ordered) (hpos : 0 < p.size) (ids : List PlotId) :
    0 < (p.run (removals ids)).size := by
  induction ids generalizing p with
  | nil => exact hpos
  | cons id ids ih =>
    have hleft : 0 < (p.remove id).1.size := by
      obtain ⟨hsize, hmem, heq⟩ | ⟨-, heq⟩ := remove_cases p id
      · rw [heq, h.size_strike hmem]
        omega
      · rwa [heq]
    exact ih (h.remove id) hleft

/-- Where there is another plot, the one with the id goes: it cannot be the last one. -/
theorem remove_of_other {kept : PlotId} (hkept : kept ∈ p.ids) (hne : kept ≠ id) :
    (p.remove id).1 = p.strike id := by
  by_cases hmem : id ∈ p.ids
  · have htwo : [kept, id].length ≤ p.ids.length :=
      (List.subperm_of_subset (by simpa using hne) (by simp [hkept, hmem])).length_le
    refine remove_of_eq_true ((remove_eq_true_iff p id).mpr ⟨hmem, ?_⟩)
    rw [size_eq_length_ids]
    exact htwo
  · rw [remove_of_not_mem hmem, strike_of_not_mem hmem]

/-- **If one plot is named by none of the removals**, they leave all those that are not named. The
induction is on the removals: that plot is still there for the next one. -/
theorem run_removals {kept : PlotId} {ids : List PlotId} (hkept : kept ∈ p.ids)
    (hunnamed : kept ∉ ids) :
    p.run (removals ids) = ⟨p.entries.filter fun entry => entry.id ∉ ids, p.nextId⟩ := by
  induction ids generalizing p with
  | nil =>
    simp only [List.not_mem_nil, not_false_eq_true, decide_true, List.filter_true]
    rfl
  | cons id ids ih =>
    rw [List.mem_cons, not_or] at hunnamed
    obtain ⟨hne, hunnamed⟩ := hunnamed
    have hstays : kept ∈ (p.strike id).ids := by
      rw [ids_strike]
      exact List.mem_filter.mpr ⟨hkept, decide_eq_true hne⟩
    rw [run_removals_cons, remove_of_other hkept hne, ih hstays hunnamed]
    unfold strike
    rw [List.filter_filter]
    congr 1
    refine List.filter_congr fun entry _ => ?_
    rw [← Bool.decide_and, decide_eq_decide, List.mem_cons, not_or]
    exact and_comm

/-! ## The law -/

/-- **What removals do to plots.** -/
structure RemovalLaw (p : Plots) : Prop where
  /-- A removal succeeds exactly if there is the plot and another one. -/
  reply : ∀ id, (p.remove id).2 = true ↔ id ∈ p.ids ∧ 1 < p.size
  /-- If it does, the plot is taken out, -/
  removed : ∀ id, (p.remove id).2 = true → TakenOut p id (p.remove id).1
  /-- and if it does not, nothing changes. -/
  refused : ∀ id, (p.remove id).2 = false → (p.remove id).1 = p
  /-- Of removals in a row as many succeed as there are plots less. -/
  count : ∀ ids, p.succeeded ids + (p.run (removals ids)).size = p.size
  survivor : ∀ ids, 0 < (p.run (removals ids)).size
  /-- Their order does not matter if there is a plot that none of them names. -/
  permuted : ∀ ids others, (∃ kept ∈ p.ids, kept ∉ ids) → ids.Perm others →
    p.run (removals others) = p.run (removals ids)

/-- **Removals do what they say**, whatever has been done to the plots before, as long as there have
been ids for the new ones; and a plot that has gone is not removed again. -/
theorem removal_law {ops : List Op} (hfew : ops.count .add < 2 ^ 32 - 2) :
    RemovalLaw (initial.run ops) ∧
      ∀ id ∈ struck ops, (initial.run ops).remove id = (initial.run ops, false) := by
  have h := recorded ops hfew
  refine ⟨⟨remove_eq_true_iff _, fun id hremoved => ?_, fun id => remove_of_eq_false,
    size_removals h.ordered, size_pos_removals h.ordered h.inhabited,
    fun ids others hkept hperm => ?_⟩, fun id hstruck => ?_⟩
  · rw [remove_of_eq_true hremoved]
    exact h.ordered.takenOut_strike ((remove_eq_true_iff _ id).mp hremoved).1
  · obtain ⟨kept, hmem, hunnamed⟩ := hkept
    have hunnamed' : kept ∉ others := fun hother => hunnamed (hperm.mem_iff.mpr hother)
    rw [run_removals hmem hunnamed, run_removals hmem hunnamed']
    simp only [hperm.mem_iff]
  · refine remove_of_not_mem fun hmem => ?_
    rw [h.members] at hmem
    exact (of_decide_eq_true (List.mem_filter.mp hmem).2) hstruck

/-- Three plots of which one has gone; the last removal of a row names it again. -/
theorem removal_law_again :
    let ops : List Op := [.add, .add, .add, .remove ⟨2⟩]
    ops.count .add < 2 ^ 32 - 2 ∧ RemovalLaw (initial.run ops) ∧ struck ops = [⟨2⟩] ∧
      (initial.run ops).succeeded [⟨3⟩, ⟨3⟩, ⟨1⟩, ⟨2⟩] = 2 ∧
      (initial.run ops).run (removals [⟨2⟩, ⟨1⟩, ⟨3⟩, ⟨3⟩]) =
        (initial.run ops).run (removals [⟨3⟩, ⟨3⟩, ⟨1⟩, ⟨2⟩]) := by
  intro ops
  have hfew : ops.count .add < 2 ^ 32 - 2 := by decide
  have hlaw := (removal_law hfew).1
  refine ⟨hfew, hlaw, by decide, by decide, hlaw.permuted _ _ ⟨⟨4⟩, by decide, by decide⟩ ?_⟩
  decide

end ResultsBoard.Plots
