import Mathlib.Data.List.Nodup
import Mathlib.Logic.Relation
import ResultsBoard.Proofs.Resize.Tokens

/-!
# The course of events at the hubs

A program works with the hubs and with a state of its own. Whatever it does is a series of moves:
hubs and handles come and go, callbacks subscribe, guards are dropped, a round begins and ends to
run a callback. `Course` relates two moments of such a series.

* `course_broadcast`: a round of notifications is a course if every callback is. So a callback may
  start rounds itself, of the same hub or of others, to any depth, and what follows covers it.
* `Evolves`, `Course.evolves`: along a course every registry stays ordered and gets later.
* `Evolves.not_registers`: a token that is not registered at one moment is not registered at any
  later moment, unless it is new.
-/

namespace ResultsBoard.Resize

/-- What holds of a hub at all times: its registry is ordered, and it has no subscribers once its
handles are gone. -/
structure Hub.Sound {β : Type} (h : Hub β) : Prop where
  ordered : h.registry.Ordered
  gone : h.handles = 0 → h.registry.subscribers = []

namespace Hubs

variable {β τ : Type}

/-! ## Moves -/

/-- What a program with a state of its own may do next. -/
inductive Move : Hubs β × τ → Hubs β × τ → Prop
  | create (w : Hubs β) (t : τ) : Move (w, t) (w.create.1, t)
  | share (w : Hubs β) (t : τ) (hub : Nat) : Move (w, t) (w.share hub, t)
  | unshare (w : Hubs β) (t : τ) (hub : Nat) : Move (w, t) (w.unshare hub, t)
  | subscribe (w : Hubs β) (t : τ) (hub : Nat) (plot : PlotId) (callback : Callback β) :
    Move (w, t) ((w.subscribe hub plot callback).1, t)
  | drop (w : Hubs β) (t : τ) (guard : Guard) : Move (w, t) (w.drop guard, t)
  /-- A callback changes what it is going to do. -/
  | retune (w : Hubs β) (t : τ) (hub token : Nat) (r : Registry (Callback β))
      (f : Callback β → Callback β) (hr : w.registryOf hub = some r) :
    Move (w, t) (w.setRegistry hub (r.modify token f), t)
  | enter (w : Hubs β) (t : τ) (guard : Guard) : Move (w, t) (w.enter guard, t)
  | leave (w : Hubs β) (t : τ) (guard : Guard) : Move (w, t) (w.leave guard, t)
  /-- The state of the program changes. -/
  | note (w : Hubs β) (t t' : τ) : Move (w, t) (w, t')

/-- The second moment comes after the first. -/
def Course : Hubs β × τ → Hubs β × τ → Prop := Relation.ReflTransGen Move

theorem Course.refl (s : Hubs β × τ) : Course s s := Relation.ReflTransGen.refl

theorem Course.trans {s s' s'' : Hubs β × τ} (h : Course s s') (h' : Course s' s'') :
    Course s s'' :=
  Relation.ReflTransGen.trans h h'

theorem Move.course {s s' : Hubs β × τ} (h : Move s s') : Course s s' :=
  Relation.ReflTransGen.single h

/-! ## Rounds are courses -/

section Rounds

variable {invoke : Guard → Hubs β × τ → Hubs β × τ} (hub : Nat)
  (hinvoke : ∀ guard s, Course s (invoke guard s))

include hinvoke

theorem course_turn (token : Nat) (s : Hubs β × τ) : Course s (turn hub invoke token s) := by
  have henter : Course s (s.1.enter ⟨hub, token⟩, s.2) := (Move.enter s.1 s.2 _).course
  have hrun := hinvoke ⟨hub, token⟩ (s.1.enter ⟨hub, token⟩, s.2)
  exact (henter.trans hrun).trans (Move.leave _ _ _).course

theorem course_pass (tokens : List Nat) (s : Hubs β × τ) :
    Course s (pass (fun s token => s.1.registers hub token) (turn hub invoke) tokens s).1 := by
  induction tokens generalizing s with
  | nil => exact .refl s
  | cons token rest ih =>
    unfold pass
    split
    · exact (course_turn hub hinvoke token s).trans (ih _)
    · exact ih s

/-- **A round of notifications is a course**, if every callback that it may invoke is. -/
theorem course_broadcast (s : Hubs β × τ) : Course s (broadcast hub invoke s).1 := by
  unfold broadcast
  cases s.1.registryOf hub with
  | none => exact .refl s
  | some r =>
    have hshare : Course s (s.1.share hub, s.2) := (Move.share s.1 s.2 hub).course
    have hpass := course_pass hub hinvoke r.tokens (s.1.share hub, s.2)
    exact (hshare.trans hpass).trans (Move.unshare _ _ hub).course

end Rounds

/-! ## Registries evolve -/

/-- All hubs are sound. -/
def Sound (w : Hubs β) : Prop := ∀ h ∈ w.hubs, h.Sound

/-- No hub is lost and no registry goes back in time. -/
def Later (w w' : Hubs β) : Prop :=
  ∀ (hub : Nat) (h : Hub β), w.hubs[hub]? = some h →
    ∃ h', w'.hubs[hub]? = some h' ∧ h.registry.Later h'.registry

/-- What every operation on the hubs does to them. -/
structure Evolves (w w' : Hubs β) : Prop where
  later : Later w w'
  sound : w.Sound → w'.Sound

theorem Evolves.refl (w : Hubs β) : Evolves w w :=
  ⟨fun _ h hh => ⟨h, hh, .refl _⟩, id⟩

theorem Evolves.trans {w w' w'' : Hubs β} (h : Evolves w w') (h' : Evolves w' w'') :
    Evolves w w'' where
  later hub x hx := by
    obtain ⟨y, hy, hxy⟩ := h.later hub x hx
    obtain ⟨z, hz, hyz⟩ := h'.later hub y hy
    exact ⟨z, hz, hxy.trans hyz⟩
  sound hw := h'.sound (h.sound hw)

/-- A change that does not touch the hubs. -/
theorem Evolves.of_hubs_eq {w w' : Hubs β} (h : w'.hubs = w.hubs) : Evolves w w' where
  later hub x hx := ⟨x, by rw [h]; exact hx, .refl _⟩
  sound hw := by
    unfold Sound
    rw [h]
    exact hw

/-- A change of one hub. -/
theorem Evolves.of_modify {w w' : Hubs β} {hub : Nat} {f : Hub β → Hub β} {x : Hub β}
    (hx : w.hubs[hub]? = some x) (h : w'.hubs = w.hubs.modify hub f)
    (hlater : x.registry.Later (f x).registry) (hsound : x.Sound → (f x).Sound) :
    Evolves w w' where
  later i y hy := by
    rw [h, List.getElem?_modify]
    by_cases hi : hub = i
    · subst hi
      obtain rfl := Option.some.inj (hx.symm.trans hy)
      exact ⟨f x, by simp [hx], hlater⟩
    · exact ⟨y, by simp [hi, hy], .refl _⟩
  sound hw z hz := by
    rw [h] at hz
    obtain ⟨i, hi⟩ := List.mem_iff_getElem?.mp hz
    rw [List.getElem?_modify] at hi
    obtain ⟨y, hy, rfl⟩ := Option.map_eq_some_iff.mp hi
    have hsy := hw y (List.mem_of_getElem? hy)
    by_cases hi : hub = i
    · subst hi
      obtain rfl := Option.some.inj (hx.symm.trans hy)
      rw [if_pos rfl]
      exact hsound hsy
    · rw [if_neg hi]
      exact hsy

/-! ### The operations -/

theorem registryOf_eq_some {w : Hubs β} {hub : Nat} {r : Registry (Callback β)} :
    w.registryOf hub = some r ↔ ∃ h, w.hubs[hub]? = some h ∧ 0 < h.handles ∧ h.registry = r := by
  unfold registryOf
  cases w.hubs[hub]? with
  | none => simp
  | some h => simp

theorem Sound.ordered {w : Hubs β} (hw : w.Sound) {hub : Nat} {r : Registry (Callback β)}
    (hr : w.registryOf hub = some r) : r.Ordered := by
  obtain ⟨x, hx, -, rfl⟩ := registryOf_eq_some.mp hr
  exact (hw x (List.mem_of_getElem? hx)).ordered

/-- A living hub gets another registry. -/
theorem evolves_setRegistry {w w' : Hubs β} {hub : Nat} {r after : Registry (Callback β)}
    (hr : w.registryOf hub = some r) (h : w'.hubs = (w.setRegistry hub after).hubs)
    (hlater : r.Later after) (hordered : r.Ordered → after.Ordered) : Evolves w w' := by
  obtain ⟨x, hx, hpos, rfl⟩ := registryOf_eq_some.mp hr
  refine .of_modify hx h hlater fun hsx => ⟨hordered hsx.ordered, fun hzero => ?_⟩
  exact absurd hzero (Nat.ne_of_gt hpos)

theorem evolves_subscribe (w : Hubs β) (hub : Nat) (plot : PlotId) (callback : Callback β) :
    Evolves w (w.subscribe hub plot callback).1 := by
  unfold subscribe
  split
  · rename_i r hr
    exact evolves_setRegistry hr rfl (r.later_subscribe plot callback)
      fun h => h.subscribe plot callback
  · exact .refl w

theorem hubs_unsubscribe (w : Hubs β) (guard : Guard) (r : Registry (Callback β))
    (s : Subscriber (Callback β)) :
    (w.unsubscribe guard r s).1.hubs = (w.setRegistry guard.hub (r.remove guard.token)).hubs := by
  unfold unsubscribe
  simp only
  split <;> rfl

theorem evolves_unsubscribe {w : Hubs β} {guard : Guard} {r : Registry (Callback β)}
    (hr : w.registryOf guard.hub = some r) (s : Subscriber (Callback β)) :
    Evolves w (w.unsubscribe guard r s).1 :=
  evolves_setRegistry hr (hubs_unsubscribe w guard r s) (r.later_remove _) fun h => h.remove _

/-- The induction follows the drops in the order in which they are done. -/
theorem evolves_release (w : Hubs β) (drops : List Drop) : Evolves w (w.release drops) := by
  fun_induction release w drops with
  | case1 w => exact .refl w
  | case2 w drop rest hr ih => exact ih
  | case3 w drop rest r hr hbusy ih => exact ih
  | case4 w drop rest r hr hbusy hs ih => exact ih
  | case5 w drop rest r hr hbusy s hs freed ih => exact (evolves_unsubscribe hr s).trans ih

theorem evolves_dropAll (w : Hubs β) (guards : List Guard) : Evolves w (w.dropAll guards) :=
  evolves_release w _

theorem evolves_create (w : Hubs β) : Evolves w w.create.1 where
  later hub h hh := by
    have hlt := (List.getElem?_eq_some_iff.mp hh).1
    exact ⟨h, (List.getElem?_append_left hlt).trans hh, .refl _⟩
  sound hw h hh := by
    rcases List.mem_append.mp hh with hh | hh
    · exact hw h hh
    · rw [List.mem_singleton.mp hh]
      exact ⟨Registry.ordered_of_no_subscribers rfl, fun _ => rfl⟩

theorem evolves_share (w : Hubs β) (hub : Nat) : Evolves w (w.share hub) := by
  cases hx : w.hubs[hub]? with
  | none => exact .of_hubs_eq (List.modify_eq_self (List.getElem?_eq_none_iff.mp hx))
  | some x =>
    refine .of_modify hx rfl (.refl _) fun hsx => ⟨hsx.ordered, fun hzero => ?_⟩
    exact absurd hzero (Nat.succ_ne_zero _)

/-- Taking a handle away leaves another one, or empties the hub and frees its callbacks. -/
theorem loseHandle_cases (w : Hubs β) (hub : Nat) :
    (w.hubs[hub]? = none ∧ w.loseHandle hub = (w, [])) ∨
    (∃ x, w.hubs[hub]? = some x ∧ x.handles - 1 ≠ 0 ∧ w.loseHandle hub =
      ({ w with hubs := w.hubs.modify hub fun h => { h with handles := h.handles - 1 } }, [])) ∨
    (∃ x, w.hubs[hub]? = some x ∧ x.handles - 1 = 0 ∧ w.loseHandle hub =
      ({ w with hubs := w.hubs.modify hub fun h =>
          ⟨h.handles - 1, { x.registry with subscribers := [] }⟩ },
        x.registry.subscribers.flatMap fun s => s.callback.owned)) := by
  unfold loseHandle
  simp only [List.getElem?_modify_eq]
  cases hx : w.hubs[hub]? with
  | none =>
    refine .inl ⟨rfl, ?_⟩
    rw [List.modify_eq_self (List.getElem?_eq_none_iff.mp hx)]
    rfl
  | some x =>
    refine .inr ?_
    simp only [Option.map_eq_map, Option.map_some]
    by_cases hlast : x.handles - 1 = 0
    · refine .inr ⟨x, rfl, hlast, ?_⟩
      rw [if_pos hlast]
      unfold setRegistry
      dsimp only
      rw [List.modify_modify_eq]
      rfl
    · refine .inl ⟨x, rfl, hlast, ?_⟩
      rw [if_neg hlast]

theorem evolves_loseHandle (w : Hubs β) (hub : Nat) : Evolves w (w.loseHandle hub).1 := by
  obtain ⟨-, heq⟩ | ⟨x, hx, hmore, heq⟩ | ⟨x, hx, hlast, heq⟩ := loseHandle_cases w hub
  · rw [heq]
    exact .refl w
  · rw [heq]
    exact .of_modify hx rfl (.refl _) fun hsx =>
      ⟨hsx.ordered, fun hzero => absurd hzero hmore⟩
  · rw [heq]
    exact .of_modify hx rfl x.registry.later_clear fun _ =>
      ⟨Registry.ordered_of_no_subscribers rfl, fun _ => rfl⟩

theorem evolves_unshare (w : Hubs β) (hub : Nat) : Evolves w (w.unshare hub) :=
  (evolves_loseHandle w hub).trans (evolves_dropAll _ _)

theorem hubs_finish (w : Hubs β) (guard : Guard) : (w.finish guard).1.hubs = w.hubs := by
  unfold finish
  simp only
  split
  · split <;> rfl
  · rfl

theorem evolves_leave (w : Hubs β) (guard : Guard) : Evolves w (w.leave guard) :=
  (Evolves.of_hubs_eq (hubs_finish w guard)).trans (evolves_dropAll _ _)

/-! ### Along a course -/

theorem Move.evolves {s s' : Hubs β × τ} (h : Move s s') : Evolves s.1 s'.1 := by
  cases h with
  | create w t => exact evolves_create w
  | share w t hub => exact evolves_share w hub
  | unshare w t hub => exact evolves_unshare w hub
  | subscribe w t hub plot callback => exact evolves_subscribe w hub plot callback
  | drop w t guard => exact evolves_dropAll w [guard]
  | retune w t hub token r f hr =>
    exact evolves_setRegistry hr rfl (r.later_modify token f) fun h => h.modify token f
  | enter w t guard => exact .of_hubs_eq rfl
  | leave w t guard => exact evolves_leave w guard
  | note w t t' => exact .refl w

/-- **Along a course registries only get later**, and they stay sound. -/
theorem Course.evolves {s s' : Hubs β × τ} (h : Course s s') : Evolves s.1 s'.1 := by
  induction h with
  | refl => exact .refl _
  | tail _ hmove ih => exact ih.trans hmove.evolves

/-- Every moment of a course that begins without hubs is sound. -/
theorem Course.sound {start : τ} {s : Hubs β × τ} (h : Course (({} : Hubs β), start) s) :
    s.1.Sound :=
  h.evolves.sound fun _ hmem => absurd hmem List.not_mem_nil

/-! ## What is registered -/

theorem registers_iff {w : Hubs β} {hub token : Nat} :
    w.registers hub token = true ↔ ∃ r, w.registryOf hub = some r ∧ token ∈ r.tokens := by
  unfold registers
  cases w.registryOf hub with
  | none => simp
  | some r => simp [Registry.contains_iff]

theorem registers_iff_find? {w : Hubs β} {hub token : Nat} :
    w.registers hub token = true ↔
      ∃ r s, w.registryOf hub = some r ∧ r.find? token = some s := by
  rw [registers_iff]
  constructor
  · rintro ⟨r, hr, hmem⟩
    obtain ⟨s, hs⟩ := Registry.exists_find?_of_mem hmem
    exact ⟨r, s, hr, hs⟩
  · rintro ⟨r, s, hr, hs⟩
    exact ⟨r, hr, Registry.mem_tokens_of_find? hs⟩

/-- The registry that a living hub has been given. -/
theorem registryOf_setRegistry {w : Hubs β} {hub : Nat} {r after : Registry (Callback β)}
    (hr : w.registryOf hub = some r) : (w.setRegistry hub after).registryOf hub = some after := by
  obtain ⟨x, hx, hpos, -⟩ := registryOf_eq_some.mp hr
  refine registryOf_eq_some.mpr ⟨{ x with registry := after }, ?_, hpos, rfl⟩
  unfold setRegistry
  rw [List.getElem?_modify_eq, hx]
  rfl

/-- A subscription gets the number on the counter of its hub, and is registered under it. -/
theorem subscribe_spec {w : Hubs β} {hub : Nat} {plot : PlotId} {callback : Callback β}
    {guard : Guard} (h : (w.subscribe hub plot callback).2 = some guard) :
    ∃ r, w.registryOf hub = some r ∧ guard = ⟨hub, r.nextToken⟩ ∧
      (w.subscribe hub plot callback).1.registryOf hub = some (r.subscribe plot callback) := by
  unfold subscribe at h ⊢
  split at h
  · rename_i r hr
    exact ⟨r, hr, (Option.some.inj h).symm, registryOf_setRegistry hr⟩
  · cases h

/-- **What is gone does not come back**: a token that the counter of its hub has passed and that is
not registered at a sound moment is not registered at any later moment. -/
theorem Evolves.not_registers {w w' : Hubs β} (h : Evolves w w') (hw : w.Sound) {hub token : Nat}
    {x : Hub β} (hx : w.hubs[hub]? = some x) (hold : token < x.registry.nextToken)
    (hgone : w.registers hub token = false) : w'.registers hub token = false := by
  by_contra hback
  obtain ⟨r, hr, hmem⟩ := registers_iff.mp (by simpa using hback)
  obtain ⟨y, hy, hpos, rfl⟩ := registryOf_eq_some.mp hr
  obtain ⟨y', hy', hlater⟩ := h.later hub x hx
  rw [hy] at hy'
  obtain rfl := Option.some.inj hy'
  rcases hlater.tokens token hmem with hmem | hle
  · have halive : 0 < x.handles := by
      refine Nat.pos_of_ne_zero fun hzero => ?_
      have hempty := (hw x (List.mem_of_getElem? hx)).gone hzero
      simp [Registry.tokens, hempty] at hmem
    have : w.registers hub token = true :=
      registers_iff.mpr ⟨_, registryOf_eq_some.mpr ⟨x, hx, halive, rfl⟩, hmem⟩
    rw [hgone] at this
    cases this
  · omega

end Hubs

end ResultsBoard.Resize
