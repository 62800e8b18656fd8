import Mathlib.Data.List.Nodup
import ResultsBoard.Resize.Hubs

/-!
# Tokens of a registry

The counter of a registry only goes up, and a token that has been struck out does not come back.

* `Ordered`: the tokens ascend and lie below the counter. Every operation keeps it.
* `Later`: one registry may stand for the other at a later time. This is a preorder, and every
  operation goes up in it.
-/

namespace ResultsBoard.Resize.Registry

variable {α : Type} {r r' r'' : Registry α}

/-- The tokens ascend and lie below the counter. -/
structure Ordered (r : Registry α) : Prop where
  ascending : r.tokens.Pairwise (· < ·)
  below : ∀ token ∈ r.tokens, token < r.nextToken

/-- What may become of a registry: its counter has not gone down, and every token in use was in
use before or is new. -/
structure Later (r r' : Registry α) : Prop where
  counter : r.nextToken ≤ r'.nextToken
  tokens : ∀ token ∈ r'.tokens, token ∈ r.tokens ∨ r.nextToken ≤ token

/-! ## Order -/

theorem Ordered.nodup (h : r.Ordered) : r.tokens.Nodup :=
  h.ascending.imp fun hlt => Nat.ne_of_lt hlt

theorem mem_tokens_of_find? {token : Nat} {s : Subscriber α} (h : r.find? token = some s) :
    token ∈ r.tokens := by
  obtain ⟨hmem, rfl⟩ := mem_subscribers_of_find? h
  exact List.mem_map_of_mem hmem

theorem exists_find?_of_mem {token : Nat} (h : token ∈ r.tokens) :
    ∃ s, r.find? token = some s :=
  Option.isSome_iff_exists.mp ((contains_iff r token).mpr h)

/-- A registry without subscribers. -/
theorem ordered_of_no_subscribers (h : r.subscribers = []) : r.Ordered where
  ascending := by
    unfold tokens
    rw [h]
    exact List.Pairwise.nil
  below token hmem := by
    unfold tokens at hmem
    rw [h] at hmem
    exact absurd hmem List.not_mem_nil

theorem Ordered.subscribe (h : r.Ordered) (plot : PlotId) (callback : α) :
    (r.subscribe plot callback).Ordered where
  ascending := by
    rw [tokens_subscribe]
    refine List.pairwise_append.mpr ⟨h.ascending, List.pairwise_singleton _ _, ?_⟩
    intro token hmem last hlast
    rw [List.mem_singleton.mp hlast]
    exact h.below token hmem
  below token hmem := by
    rw [tokens_subscribe] at hmem
    show token < r.nextToken + 1
    rcases List.mem_append.mp hmem with hmem | hmem
    · exact Nat.lt_succ_of_lt (h.below token hmem)
    · rw [List.mem_singleton.mp hmem]
      exact Nat.lt_succ_self _

theorem Ordered.remove (h : r.Ordered) (token : Nat) : (r.remove token).Ordered where
  ascending := by
    rw [tokens_remove]
    exact h.ascending.filter _
  below other hmem := by
    rw [tokens_remove] at hmem
    exact h.below other (List.mem_filter.mp hmem).1

@[simp] theorem tokens_modify (r : Registry α) (token : Nat) (f : α → α) :
    (r.modify token f).tokens = r.tokens := by
  unfold tokens modify
  rw [List.map_map]
  refine List.map_congr_left fun s _ => ?_
  simp only [Function.comp]
  split <;> rfl

theorem Ordered.modify (h : r.Ordered) (token : Nat) (f : α → α) : (r.modify token f).Ordered where
  ascending := by
    rw [tokens_modify]
    exact h.ascending
  below other hmem := by
    rw [tokens_modify] at hmem
    exact h.below other hmem

/-! ## Time -/

theorem Later.refl (r : Registry α) : r.Later r := ⟨Nat.le_refl _, fun _ hmem => .inl hmem⟩

theorem Later.trans (h : r.Later r') (h' : r'.Later r'') : r.Later r'' where
  counter := Nat.le_trans h.counter h'.counter
  tokens token hmem := by
    rcases h'.tokens token hmem with hmem | hle
    · exact h.tokens token hmem
    · exact .inr (Nat.le_trans h.counter hle)

theorem later_subscribe (r : Registry α) (plot : PlotId) (callback : α) :
    r.Later (r.subscribe plot callback) where
  counter := Nat.le_succ _
  tokens token hmem := by
    rw [tokens_subscribe] at hmem
    rcases List.mem_append.mp hmem with hmem | hmem
    · exact .inl hmem
    · rw [List.mem_singleton.mp hmem]
      exact .inr (Nat.le_refl _)

theorem later_remove (r : Registry α) (token : Nat) : r.Later (r.remove token) where
  counter := Nat.le_refl _
  tokens other hmem := by
    rw [tokens_remove] at hmem
    exact .inl (List.mem_filter.mp hmem).1

theorem later_modify (r : Registry α) (token : Nat) (f : α → α) : r.Later (r.modify token f) where
  counter := Nat.le_refl _
  tokens other hmem := by
    rw [tokens_modify] at hmem
    exact .inl hmem

/-- All subscribers may leave at once. -/
theorem later_clear (r : Registry α) : r.Later { r with subscribers := [] } where
  counter := Nat.le_refl _
  tokens _ hmem := absurd hmem List.not_mem_nil

end ResultsBoard.Resize.Registry
