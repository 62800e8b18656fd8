import ResultsBoard.View.Plot

/-!
# The buttons of a widget

A widget (`PlotWidget`) has a button to remove its plot, if that may be removed, and after a failure
one to load the dataset again.

* `actions_widget`: these are all, in this order.
* `retry_mem_actions`: the second one is there exactly after a failure.
-/

namespace ResultsBoard.View

open Fetch

variable {α : Type}

namespace Node

theorem actionsOf_append (first second : Nodes α) :
    actionsOf (first ++ second) = actionsOf first ++ actionsOf second := by
  induction first with
  | nil => rfl
  | cons node rest ih => rw [List.cons_append, actionsOf, actionsOf, ih, List.append_assoc]

theorem actionsOf_eq_nil {nodes : Nodes α} (h : ∀ node ∈ nodes, node.actions = []) :
    actionsOf nodes = [] := by
  induction nodes with
  | nil => rfl
  | cons node rest ih =>
    obtain ⟨hnode, hrest⟩ := List.forall_mem_cons.mp h
    rw [actionsOf, hnode, ih hrest]
    rfl

end Node

theorem actionsOf_words (s : String) : Node.actionsOf (words s : Nodes α) = [] := by
  unfold words
  split <;> rfl

theorem actions_legend (names : List String) : (legend names : Node α).actions = [] := by
  refine Node.actionsOf_eq_nil fun node hnode => ?_
  obtain ⟨entry, -, rfl⟩ := List.mem_map.mp hnode
  simp [legendEntry, styled, Node.actions, Node.actionsOf, actionsOf_words]

/-- What covers the canvas has a button if there is a failure. -/
theorem actionsOf_cover (w : Widget) : Node.actionsOf (cover w) =
    w.dataset.failure?.toList.map fun _ => .retry (.plot w.token) := by
  unfold cover
  cases w.dataset with
  | loading => rfl
  | ready data =>
    dsimp only
    split
    · simp [styled, Node.actions, Node.actionsOf, actionsOf_words, State.failure?]
    · rfl
  | failed failure =>
    simp [styled, failurePanel, Node.actions, Node.actionsOf, actionsOf_words, State.failure?]

/-- **The buttons of a widget**: one to remove its plot, if that may be removed, and after a failure
one to load the dataset again. -/
theorem actions_widget (canRemove : Bool) (w : Widget) : (widget canRemove w).actions =
    (if canRemove then [.removePlot w.plot] else []) ++
      w.dataset.failure?.toList.map fun _ => .retry (.plot w.token) := by
  have hclose : Node.actionsOf (if canRemove then [closeButton w.plot] else []) =
      if canRemove then [.removePlot w.plot] else [] := by
    cases canRemove <;> rfl
  have hcanvas : (canvas w).actions = [] := rfl
  unfold widget
  simp only [styled, Node.actions, Node.actionsOf_append, Node.actionsOf, hclose, hcanvas,
    actions_legend, actionsOf_cover, List.nil_append, List.append_nil]

/-- **The button to load the dataset again is there exactly after a failure.** -/
theorem retry_mem_actions (canRemove : Bool) (w : Widget) :
    .retry (.plot w.token) ∈ (widget canRemove w).actions ↔
      ∃ failure, w.dataset = .failed failure := by
  rw [actions_widget]
  cases canRemove <;> cases w.dataset <;> simp [State.failure?]

end ResultsBoard.View
