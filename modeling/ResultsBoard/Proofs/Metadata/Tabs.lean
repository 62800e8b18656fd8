import ResultsBoard.Proofs.Metadata.History

/-!
# Tabs and documents

Some operations on a browser are about its documents: loads begin and their results are delivered.
The others (`MetadataBrowserState::select` and `toggle`) are about its tab. Neither group has an
influence on the other, so it does not matter how the two are mixed.

* `documentOps` and `tabOps`: the two groups of a history.
* `perform_of_onTab`, `perform_select`: an operation on the tab does nothing but show one, and an
  operation on the documents does and replies the same whichever is shown.
* `run_eq`: so a run is that of the operations on the documents, with the tab that the other
  operations lead to.
* `Unnoticed`: operations that make no difference at some place of a history.
* `IndependenceLaw`, `independence_law`: what each group alone decides, reordered histories, and
  operations on the tab that nobody notices.
-/

namespace ResultsBoard.Metadata.Browser

/-- Whether an operation is about the tab. -/
def Op.onTab : Op → Bool
  | .select _ | .toggle => true
  | .beginLoading | .applyOptions _ _ | .applyModel _ _ => false

/-- The operations on the documents, in order. -/
def documentOps (ops : List Op) : List Op := ops.filter fun op => !op.onTab

/-- The operations on the tab, in order. -/
def tabOps (ops : List Op) : List Op := ops.filter Op.onTab

/-- The tab that is shown after an operation. -/
def Op.leadsTo (tab : Tab) : Op → Tab
  | .select next => next
  | .toggle => tab.toggled
  | .beginLoading | .applyOptions _ _ | .applyModel _ _ => tab

/-- The tab that is shown after some operations. -/
def tabAfter (tab : Tab) (ops : List Op) : Tab := ops.foldl Op.leadsTo tab

variable {b : Browser} {op : Op}

/-! ## One operation -/

@[simp] theorem select_tab (b : Browser) (tab : Tab) : (b.select tab).tab = tab := rfl

theorem select_self (b : Browser) : b.select b.tab = b := rfl

/-- **An operation on the tab shows one**, and has nothing to reply. -/
theorem perform_of_onTab (h : op.onTab = true) :
    b.perform op = (b.select (op.leadsTo b.tab), .nothing) := by
  cases op with
  | select tab => rfl
  | toggle => rfl
  | beginLoading => cases h
  | applyOptions generation result => cases h
  | applyModel generation result => cases h

/-- **An operation on the documents does and replies the same** whichever tab is shown. -/
theorem perform_select (h : op.onTab = false) (tab : Tab) :
    (b.select tab).perform op = ((b.perform op).1.select tab, (b.perform op).2) := by
  cases op with
  | select tab => cases h
  | toggle => cases h
  | beginLoading => rfl
  | applyOptions generation result =>
    by_cases hg : generation = b.generation <;> simp [perform, applyOptions, select, hg]
  | applyModel generation result =>
    by_cases hg : generation = b.generation <;> simp [perform, applyModel, select, hg]

theorem reply_ne_nothing (h : op.onTab = false) : (b.perform op).2 ≠ .nothing := by
  cases op with
  | select tab => cases h
  | toggle => cases h
  | _ => exact nofun

theorem leadsTo_of_not_onTab (h : op.onTab = false) (tab : Tab) : op.leadsTo tab = tab := by
  cases op with
  | select tab => cases h
  | toggle => cases h
  | _ => rfl

/-! ## All operations -/

theorem documentOps_concat (ops : List Op) (op : Op) :
    documentOps (ops ++ [op]) = documentOps ops ++ if op.onTab then [] else [op] := by
  unfold documentOps
  rw [List.filter_append]
  cases h : op.onTab <;> simp [h]

theorem tabAfter_append (tab : Tab) (first second : List Op) :
    tabAfter tab (first ++ second) = tabAfter (tabAfter tab first) second :=
  List.foldl_append

/-- Operations on the documents lead nowhere. -/
theorem tabAfter_tabOps (tab : Tab) (ops : List Op) :
    tabAfter tab (tabOps ops) = tabAfter tab ops := by
  induction ops generalizing tab with
  | nil => rfl
  | cons op rest ih =>
    cases h : op.onTab with
    | true =>
      have hkept : tabOps (op :: rest) = op :: tabOps rest := List.filter_cons_of_pos h
      rw [hkept]
      exact ih (op.leadsTo tab)
    | false =>
      have hleft : tabOps (op :: rest) = tabOps rest := List.filter_cons_of_neg (by simp [h])
      rw [hleft, ih tab]
      exact congrArg (tabAfter · rest) (leadsTo_of_not_onTab h tab).symm

/-- **A run taken apart**: the operations on the documents do what they do alone, and the others
lead to a tab. -/
theorem run_eq (b : Browser) (ops : List Op) :
    b.run ops = (b.run (documentOps ops)).select (tabAfter b.tab ops) := by
  induction ops using List.reverseRecOn with
  | nil => exact (select_self b).symm
  | append_singleton ops op ih =>
    rw [run_concat, ih, documentOps_concat, tabAfter_append]
    cases h : op.onTab with
    | true =>
      rw [perform_of_onTab h, if_pos rfl, List.append_nil]
      rfl
    | false =>
      rw [perform_select h, if_neg Bool.false_ne_true, run_concat]
      exact congrArg (Browser.select _) (leadsTo_of_not_onTab h _).symm

/-- **The replies to the operations on the documents** are those that they get alone. -/
theorem replies_documentOps (b : Browser) (ops : List Op) :
    (b.replies ops).filter (· ≠ .nothing) = b.replies (documentOps ops) := by
  induction ops using List.reverseRecOn with
  | nil => rfl
  | append_singleton ops op ih =>
    rw [replies_append, List.filter_append, ih, documentOps_concat, replies_append]
    congr 1
    show [((b.run ops).perform op).2].filter _ = _
    cases h : op.onTab with
    | true =>
      rw [perform_of_onTab h]
      rfl
    | false =>
      rw [run_eq, perform_select h]
      exact List.filter_cons_of_pos (decide_eq_true (reply_ne_nothing h))

/-- Where the tab leads does not depend on the documents. -/
theorem tab_run (b : Browser) (ops : List Op) : (b.run ops).tab = tabAfter b.tab ops := by
  rw [run_eq, select_tab]

/-! ## Operations that nobody notices -/

/-- **Operations that make no difference** between some others: neither at the end nor, at any
moment after them, to the content that is shown. -/
structure Unnoticed (b : Browser) (before extra after : List Op) : Prop where
  final : b.run (before ++ extra ++ after) = b.run (before ++ after)
  shown : ∀ now, now <+: after →
    (b.run (before ++ extra ++ now)).activeSection = (b.run (before ++ now)).activeSection

/-- So it is with operations on the tab that lead back to it. -/
theorem unnoticed_of_tabAfter {before extra : List Op} (htabs : documentOps extra = [])
    (hback : tabAfter (tabAfter b.tab before) extra = tabAfter b.tab before) (after : List Op) :
    Unnoticed b before extra after := by
  have hsame : ∀ now, b.run (before ++ extra ++ now) = b.run (before ++ now) := by
    intro now
    have hdocuments : documentOps (before ++ extra ++ now) = documentOps (before ++ now) := by
      unfold documentOps at htabs ⊢
      rw [List.filter_append, List.filter_append, htabs, List.append_nil, List.filter_append]
    rw [run_eq, run_eq b (before ++ now), hdocuments, tabAfter_append, tabAfter_append, hback,
      tabAfter_append]
  exact ⟨hsame after, fun now _ => congrArg activeSection (hsame now)⟩

/-- An even number of toggles leads back. -/
theorem tabAfter_toggles (tab : Tab) (pairs : Nat) :
    tabAfter tab (List.replicate (2 * pairs) .toggle) = tab := by
  induction pairs with
  | zero => rfl
  | succ pairs ih =>
    rw [Nat.mul_succ, List.replicate_add, tabAfter_append, ih]
    exact Tab.toggled_toggled tab

/-- The last operation on the tab decides. -/
theorem tabAfter_of_getLast? {ops : List Op} {tab : Tab}
    (h : (tabOps ops).getLast? = some (.select tab)) (start : Tab) : tabAfter start ops = tab := by
  obtain ⟨earlier, hops⟩ := List.getLast?_eq_some_iff.mp h
  rw [← tabAfter_tabOps, hops, tabAfter_append]
  rfl

/-! ## The law -/

/-- **What the two groups of operations decide**, each alone. -/
structure IndependenceLaw (b : Browser) (ops : List Op) : Prop where
  /-- The documents, the generation and the replies, of which an operation on the tab gets none, are
  those of the operations on documents. -/
  options : (b.run ops).options = (b.run (documentOps ops)).options
  model : (b.run ops).model = (b.run (documentOps ops)).model
  generation : (b.run ops).generation = (b.run (documentOps ops)).generation
  replies : (b.replies ops).filter (· ≠ .nothing) = b.replies (documentOps ops)
  /-- The tab is that of the operations on tabs. -/
  tab : (b.run ops).tab = (b.run (tabOps ops)).tab
  /-- How the two are mixed does not matter. -/
  reordered : ∀ others, documentOps others = documentOps ops → tabOps others = tabOps ops →
    b.run others = b.run ops
  /-- Nobody notices an even number of toggles, -/
  toggles : ∀ before after, before ++ after = ops → ∀ pairs : Nat,
    Unnoticed b before (List.replicate (2 * pairs) .toggle) after
  /-- or that the tab is selected which has been selected last. -/
  selected : ∀ before after, before ++ after = ops → ∀ tab,
    (tabOps before).getLast? = some (.select tab) → Unnoticed b before [.select tab] after

/-- **Tabs and documents are independent**, in every history of every browser. -/
theorem independence_law (b : Browser) (ops : List Op) : IndependenceLaw b ops := by
  have hrun := run_eq b ops
  refine ⟨?_, ?_, ?_, replies_documentOps b ops, ?_, fun others hdocuments htabs => ?_,
    fun before after _ pairs => ?_, fun before after _ tab hlast => ?_⟩
  · rw [hrun]
    rfl
  · rw [hrun]
    rfl
  · rw [hrun]
    rfl
  · rw [tab_run, tab_run, tabAfter_tabOps]
  · rw [hrun, run_eq b others, hdocuments, ← tabAfter_tabOps, htabs, tabAfter_tabOps]
  · refine unnoticed_of_tabAfter ?_ (tabAfter_toggles _ pairs) after
    exact List.filter_eq_nil_iff.mpr fun op hop => by simp [List.eq_of_mem_replicate hop, Op.onTab]
  · refine unnoticed_of_tabAfter rfl ?_ after
    exact (tabAfter_of_getLast? hlast b.tab).symm

/-- A load in the course of which the tab is changed twice, and the same load after both changes. -/
theorem independence_law_mixed :
    let ops : List Op := [.beginLoading, .toggle, .applyOptions 1 (.ok {}), .select .vars,
      .applyModel 1 (.ok {})]
    let others : List Op := [.toggle, .select .vars, .beginLoading, .applyOptions 1 (.ok {}),
      .applyModel 1 (.ok {})]
    IndependenceLaw {} ops ∧ ({} : Browser).run others = ({} : Browser).run ops ∧
      Unnoticed {} (ops.take 4) [.select .vars] (ops.drop 4) := by
  intro ops others
  have hlaw : IndependenceLaw {} ops := independence_law {} ops
  exact ⟨hlaw, hlaw.reordered others rfl rfl, hlaw.selected _ _ rfl .vars rfl⟩

end ResultsBoard.Metadata.Browser
