import Mathlib.Data.List.Induction
import ResultsBoard.Proofs.Plots.Order
import ResultsBoard.Proofs.Plots.Text

/-!
# Histories of the plots

A history is a list of operations on the initial plots (`PlotCollection`): plots are added, which
issues their ids, and plots are removed. Every operation gives a reply.

* `issued` and `struck`: the ids that a history has issued, the first one included, and those that
  have gone, both read off the replies.
* `remove_cases`: all that a removal can do.
* `Recorded`: the invariant behind the law. Every operation keeps it as long as the counter has
  room.
* `identity_law`: at every moment of a history ids ascend, name their elements, are not issued
  twice, and the plots are those that have been issued and have not gone.
-/

namespace ResultsBoard.Plots

variable {p : Plots}

/-- An operation on the plots. -/
inductive Op where
  | add
  | remove (id : PlotId)
  deriving DecidableEq, Repr

/-- What an operation replies. -/
inductive Op.Reply where
  /-- The id of the new plot. -/
  | issued (id : PlotId)
  /-- Whether a plot has been removed. -/
  | removed (changed : Bool)
  deriving DecidableEq, Repr

/-- Carry out an operation. Gives its reply. -/
def perform (p : Plots) : Op → Plots × Op.Reply
  | .add => (p.add.1, .issued p.add.2)
  | .remove id => ((p.remove id).1, .removed (p.remove id).2)

/-- The plots after some operations. -/
def run (p : Plots) (ops : List Op) : Plots := ops.foldl (fun p op => (p.perform op).1) p

/-- Some operations and what each of them replies. -/
def transcript (p : Plots) : List Op → List (Op × Op.Reply)
  | [] => []
  | op :: rest => (op, (p.perform op).2) :: transcript (p.perform op).1 rest

/-- The id that an operation has issued. -/
def issuedBy : Op × Op.Reply → Option PlotId
  | (.add, .issued id) => some id
  | _ => none

/-- The id of a plot that an operation has removed. -/
def struckBy : Op × Op.Reply → Option PlotId
  | (.remove id, .removed true) => some id
  | _ => none

/-- The ids that a history has issued, in order: first the one that is there from the beginning. -/
def issued (ops : List Op) : List PlotId := ⟨1⟩ :: (transcript initial ops).filterMap issuedBy

/-- The ids of the plots that a history has removed. -/
def struck (ops : List Op) : List PlotId := (transcript initial ops).filterMap struckBy

/-! ## One operation more -/

theorem run_concat (p : Plots) (ops : List Op) (op : Op) :
    p.run (ops ++ [op]) = ((p.run ops).perform op).1 := by
  unfold run
  rw [List.foldl_append]
  rfl

theorem transcript_concat (p : Plots) (ops : List Op) (op : Op) :
    p.transcript (ops ++ [op]) = p.transcript ops ++ [(op, ((p.run ops).perform op).2)] := by
  induction ops generalizing p with
  | nil => rfl
  | cons first rest ih =>
    simp only [List.cons_append, transcript]
    rw [ih]
    rfl

theorem issued_concat (ops : List Op) (op : Op) :
    issued (ops ++ [op]) =
      issued ops ++ (issuedBy (op, ((initial.run ops).perform op).2)).toList := by
  unfold issued
  rw [transcript_concat, List.filterMap_append, List.cons_append]
  cases h : issuedBy (op, ((initial.run ops).perform op).2) <;> simp [h]

theorem struck_concat (ops : List Op) (op : Op) :
    struck (ops ++ [op]) =
      struck ops ++ (struckBy (op, ((initial.run ops).perform op).2)).toList := by
  unfold struck
  rw [transcript_concat, List.filterMap_append]
  cases h : struckBy (op, ((initial.run ops).perform op).2) <;> simp [h]

/-! ## Removals -/

/-- The plots without those that have a given id. -/
def strike (p : Plots) (id : PlotId) : Plots :=
  ⟨p.entries.filter fun entry => entry.id ≠ id, p.nextId⟩

theorem ids_strike (p : Plots) (id : PlotId) :
    (p.strike id).ids = p.ids.filter fun other => other ≠ id := by
  unfold ids strike
  rw [List.filter_map]
  rfl

/-- Without the id there is nothing to strike out. -/
theorem strike_of_not_mem {id : PlotId} (h : id ∉ p.ids) : p.strike id = p := by
  have hall : (p.entries.filter fun entry => entry.id ≠ id) = p.entries := by
    refine List.filter_eq_self.mpr fun entry hentry => decide_eq_true ?_
    rintro rfl
    exact h (List.mem_map_of_mem hentry)
  unfold strike
  rw [hall]

/-- **All that a removal can do**: it strikes out the plot with the id if that leaves another one,
and otherwise it changes nothing. It says which. -/
theorem remove_cases (p : Plots) (id : PlotId) :
    (1 < p.size ∧ id ∈ p.ids ∧ p.remove id = (p.strike id, true)) ∨
      (¬ (1 < p.size ∧ id ∈ p.ids) ∧ p.remove id = (p, false)) := by
  by_cases hsize : 1 < p.size
  · have hcan : p.canRemove = true := decide_eq_true hsize
    by_cases hmem : id ∈ p.ids
    · refine .inl ⟨hsize, hmem, ?_⟩
      obtain ⟨entry, hentry, hid⟩ := List.mem_map.mp hmem
      have hshorter : (p.strike id).entries.length < p.entries.length :=
        List.length_filter_lt_length_iff_exists.mpr ⟨entry, hentry, by simpa using hid⟩
      have hchanged : ((p.strike id).entries.length != p.entries.length) = true :=
        bne_iff_ne.mpr (Nat.ne_of_lt hshorter)
      unfold remove
      rw [if_pos hcan]
      exact Prod.ext rfl hchanged
    · refine .inr ⟨fun h => hmem h.2, ?_⟩
      have hunchanged : ((p.strike id).entries.length != p.entries.length) = false := by
        rw [strike_of_not_mem hmem, bne_self_eq_false]
      unfold remove
      rw [if_pos hcan]
      exact Prod.ext (strike_of_not_mem hmem) hunchanged
  · refine .inr ⟨fun h => hsize h.1, ?_⟩
    have hcan : ¬ p.canRemove = true := by simpa [canRemove] using hsize
    unfold remove
    rw [if_neg hcan]

theorem size_eq_length_ids (p : Plots) : p.size = p.ids.length := (List.length_map _).symm

/-- Only one plot has the id. -/
theorem Ordered.size_strike (h : p.Ordered) {id : PlotId} (hmem : id ∈ p.ids) :
    (p.strike id).size = p.size - 1 := by
  have herase : (p.ids.filter fun other => other ≠ id) = p.ids.erase id := by
    rw [h.nodup.erase_eq_filter]
    refine List.filter_congr fun other _ => ?_
    simp only [bne, decide_not]
    rfl
  rw [size_eq_length_ids, size_eq_length_ids, ids_strike, herase, List.length_erase_of_mem hmem]

theorem Ordered.strike (h : p.Ordered) (id : PlotId) : (p.strike id).Ordered where
  ascending := by
    rw [ids_strike]
    exact h.ascending.filter _
  below other hother := by
    rw [ids_strike] at hother
    exact h.below other (List.mem_of_mem_filter hother)

/-! ## The invariant -/

/-- **What a history leaves behind**: ordered plots whose entries are those of their ids, a counter
that has counted the issued ids, and the issued ids without those that have gone. -/
structure Recorded (p : Plots) (issued struck : List PlotId) : Prop where
  ordered : p.Ordered
  named : ∀ entry ∈ p.entries, entry = .ofId entry.id
  inhabited : 0 < p.size
  counter : p.nextId.toNat = 1 + issued.length
  issues : issued.Pairwise fun a b => a.value < b.value
  below : ∀ id ∈ issued, id.value < p.nextId
  known : struck ⊆ issued
  members : p.ids = issued.filter fun id => id ∉ struck

theorem recorded_initial : Recorded initial [⟨1⟩] [] where
  ordered := ordered_initial
  named entry hentry := by
    rw [List.mem_singleton.mp hentry]
    rfl
  inhabited := by decide
  counter := rfl
  issues := List.pairwise_singleton _ _
  below id hid := by
    rw [List.mem_singleton.mp hid]
    decide
  known := List.nil_subset _
  members := rfl

/-- A plot is added under an id that has not been issued. -/
theorem Recorded.add {before gone : List PlotId} (h : Recorded p before gone) (hroom : p.Room) :
    Recorded p.add.1 (before ++ [⟨p.nextId⟩]) gone where
  ordered := h.ordered.add hroom
  named entry hentry := by
    rcases List.mem_append.mp hentry with hentry | hentry
    · exact h.named entry hentry
    · rw [List.mem_singleton.mp hentry]
      rfl
  inhabited := by simp [size, Plots.add]
  counter := by
    rw [nextId_add hroom, h.counter, List.length_append, List.length_singleton, Nat.add_assoc]
  issues := by
    refine List.pairwise_append.mpr ⟨h.issues, List.pairwise_singleton _ _, ?_⟩
    intro id hid last hlast
    rw [List.mem_singleton.mp hlast]
    exact h.below id hid
  below id hid := by
    rcases List.mem_append.mp hid with hid | hid
    · exact UInt32.lt_trans (h.below id hid) (lt_nextId_add hroom)
    · rw [List.mem_singleton.mp hid]
      exact lt_nextId_add hroom
  known id hid := List.mem_append_left _ (h.known hid)
  members := by
    have hnew : (⟨p.nextId⟩ : PlotId) ∉ gone := fun hmem =>
      UInt32.lt_irrefl _ (h.below _ (h.known hmem))
    rw [ids_add, List.filter_append, ← h.members]
    simp [hnew]

/-- A plot that is not the last one goes. -/
theorem Recorded.strike {before gone : List PlotId} (h : Recorded p before gone) {id : PlotId}
    (hsize : 1 < p.size) (hmem : id ∈ p.ids) :
    Recorded (p.strike id) before (gone ++ [id]) where
  ordered := h.ordered.strike id
  named entry hentry := h.named entry (List.mem_of_mem_filter hentry)
  inhabited := by
    rw [h.ordered.size_strike hmem]
    omega
  counter := h.counter
  issues := h.issues
  below := h.below
  known := by
    refine List.append_subset.mpr ⟨h.known, fun other hother => ?_⟩
    rw [List.mem_singleton.mp hother]
    rw [h.members] at hmem
    exact List.mem_of_mem_filter hmem
  members := by
    rw [ids_strike, h.members, List.filter_filter]
    refine List.filter_congr fun other _ => ?_
    rw [← Bool.decide_and, decide_eq_decide, List.mem_append, List.mem_singleton, not_or]
    exact and_comm

/-- Every addition issues one id. -/
theorem length_issued (ops : List Op) : (issued ops).length = 1 + ops.count .add := by
  induction ops using List.reverseRecOn with
  | nil => rfl
  | append_singleton ops op ih =>
    rw [issued_concat, List.length_append, List.count_append, ih]
    cases op <;> rfl

/-- **Every history leaves behind what it should**, if there are ids for its new plots. -/
theorem recorded (ops : List Op) (hfew : ops.count .add < 2 ^ 32 - 2) :
    Recorded (initial.run ops) (issued ops) (struck ops) := by
  induction ops using List.reverseRecOn with
  | nil => exact recorded_initial
  | append_singleton ops op ih =>
    rw [List.count_append] at hfew
    have hprev := ih (by omega)
    rw [run_concat, issued_concat, struck_concat]
    cases op with
    | add =>
      have hroom : (initial.run ops).Room := by
        have hcounter := hprev.counter
        rw [length_issued] at hcounter
        rw [List.count_singleton_self] at hfew
        unfold Room
        omega
      have hadd := hprev.add hroom
      simp only [perform, issuedBy, struckBy, Option.toList_some, Option.toList_none,
        List.append_nil]
      exact hadd
    | remove id =>
      obtain ⟨hsize, hmem, heq⟩ | ⟨-, heq⟩ := remove_cases (initial.run ops) id
      · simp only [perform, heq, issuedBy, struckBy, Option.toList_some, Option.toList_none,
          List.append_nil]
        exact hprev.strike hsize hmem
      · simp only [perform, heq, issuedBy, struckBy, Option.toList_none, List.append_nil]
        exact hprev

/-! ## The law -/

/-- **What holds of the plots** after a history. -/
structure IdentityLaw (ops : List Op) : Prop where
  inhabited : (initial.run ops).isEmpty = false
  /-- The ids ascend in display order. -/
  ascending : (initial.run ops).ids.Pairwise fun a b => compare a b = .lt
  below : ∀ id ∈ (initial.run ops).ids, id.value < (initial.run ops).nextId
  /-- The element of a plot is named for the id, in decimal. -/
  targets : ∀ entry ∈ (initial.run ops).entries,
    entry.renderTarget = "gekko-plot-" ++ toString entry.id.value.toNat
  /-- Every id comes after all that have been issued before it, beginning with the first one. -/
  issues : (issued ops).Pairwise fun a b => compare a b = .lt
  /-- No two ids that have ever been issued name the same element. -/
  distinct : ((issued ops).map PlotId.renderTarget).Nodup
  /-- The plots are those that have been issued and have not gone, in the order of their issue. -/
  members : (initial.run ops).ids = (issued ops).filter fun id => id ∉ struck ops

theorem Recorded.identityLaw {ops : List Op}
    (h : Recorded (initial.run ops) (issued ops) (struck ops)) : IdentityLaw ops where
  inhabited := by
    have hpos := h.inhabited
    unfold isEmpty
    exact List.isEmpty_eq_false_iff.mpr (List.ne_nil_of_length_pos hpos)
  ascending := h.ordered.ascending.imp PlotId.compare_eq_lt_iff.mpr
  below := h.ordered.below
  targets entry hentry := by
    rw [h.named entry hentry]
    rfl
  issues := h.issues.imp PlotId.compare_eq_lt_iff.mpr
  distinct := by
    refine List.Nodup.map PlotId.renderTarget_injective (h.issues.imp fun hlt heq => ?_)
    rw [heq] at hlt
    exact UInt32.lt_irrefl _ hlt
  members := h.members

/-- **Ids are names for good.** In every history with fewer new plots than there are ids, the law
holds at every moment. -/
theorem identity_law {ops : List Op} (hfew : ops.count .add < 2 ^ 32 - 2) (moment : Nat) :
    IdentityLaw (ops.take moment) := by
  refine (recorded (ops.take moment) ?_).identityLaw
  exact Nat.lt_of_le_of_lt ((List.take_sublist moment ops).count_le .add) hfew

/-- Two plots come and go, the last one may not, and the next one has an id of its own. -/
theorem identity_law_replaced :
    let ops : List Op := [.add, .remove ⟨2⟩, .remove ⟨1⟩, .add, .remove ⟨1⟩]
    ops.count .add < 2 ^ 32 - 2 ∧ IdentityLaw (ops.take 5) ∧
      issued ops = [⟨1⟩, ⟨2⟩, ⟨3⟩] ∧ struck ops = [⟨2⟩, ⟨1⟩] ∧ (initial.run ops).ids = [⟨3⟩] := by
  intro ops
  have hfew : ops.count .add < 2 ^ 32 - 2 := by decide
  exact ⟨hfew, identity_law hfew 5, by decide, by decide, by decide⟩

end ResultsBoard.Plots
