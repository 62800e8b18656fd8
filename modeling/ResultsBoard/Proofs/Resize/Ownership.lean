import Mathlib.Data.List.Nodup
import ResultsBoard.Proofs.Resize.Course

/-!
# Guards and subscriptions

A guard (`ResizeSubscription`) stands for one subscription. It is held by the program or owned by a
callback; once it has been dropped, its subscription should be gone. A drop that comes while its hub
is in the middle of a change leaves the subscription behind.

* `owned`: the guards that callbacks own, `strayed`: the guards that some drops leave behind.
* `Balanced`: the registered tokens of the living hubs are those of some guards, one token for one
  guard. Each operation keeps this in its own way.
* `Balanced.release`: after drops the same is true again, if the guards left behind are counted in.
-/

namespace ResultsBoard.Resize

variable {β : Type}

/-- In a list of elements with different keys, an element comes first, and then all elements with
other keys. -/
theorem perm_cons_filter {α κ : Type} [DecidableEq κ] (key : α → κ) {xs : List α} {x : α}
    (hnodup : (xs.map key).Nodup) (hx : x ∈ xs) :
    xs.Perm (x :: xs.filter fun y => key y ≠ key x) := by
  induction xs with
  | nil => exact absurd hx List.not_mem_nil
  | cons y ys ih =>
    obtain ⟨hy, hys⟩ := List.nodup_cons.mp hnodup
    rcases List.mem_cons.mp hx with rfl | hx
    · have hrest : ys.filter (fun y => key y ≠ key x) = ys := by
        refine List.filter_eq_self.mpr fun z hz => ?_
        have hne : key z ≠ key x := fun h => hy (h ▸ List.mem_map_of_mem hz)
        simpa using hne
      rw [List.filter_cons_of_neg (by simp), hrest]
    · have hne : key y ≠ key x := fun h => hy (h ▸ List.mem_map_of_mem hx)
      rw [List.filter_cons_of_pos (by simpa using hne)]
      exact ((ih hys hx).cons y).trans (.swap _ _ _)

/-- The guards that the callbacks of a registry own. -/
def Registry.owned (r : Registry (Callback β)) : List Guard :=
  r.subscribers.flatMap fun s => s.callback.owned

namespace Registry

variable {r : Registry (Callback β)} {token : Nat}

theorem owned_subscribe (plot : PlotId) (callback : Callback β) :
    (r.subscribe plot callback).owned = r.owned ++ callback.owned := by
  simp [owned, subscribe]

/-- A change of behaviour leaves the owned guards where they are. -/
theorem owned_modify {f : Callback β → Callback β} (hf : ∀ c, (f c).owned = c.owned) :
    (r.modify token f).owned = r.owned := by
  unfold owned modify
  rw [List.flatMap_map]
  congr
  funext s
  split
  · exact hf s.callback
  · rfl

/-- Tokens are distinct, so striking one out takes one subscriber away. -/
theorem perm_remove {s : Subscriber (Callback β)} (hr : r.Ordered) (hs : r.find? token = some s) :
    r.subscribers.Perm (s :: (r.remove token).subscribers) := by
  obtain ⟨hmem, rfl⟩ := mem_subscribers_of_find? hs
  exact perm_cons_filter Subscriber.token hr.nodup hmem

theorem owned_remove {s : Subscriber (Callback β)} (hr : r.Ordered)
    (hs : r.find? token = some s) :
    r.owned.Perm (s.callback.owned ++ (r.remove token).owned) :=
  (perm_remove hr hs).flatMap_right _

end Registry

namespace Hubs

variable {w w' : Hubs β}

/-- The guards that callbacks own: the registered ones, and those that are still running. -/
def owned (w : Hubs β) : List Guard :=
  w.hubs.flatMap (fun h => h.registry.owned) ++ w.detached.flatMap fun d => d.2

/-- The guards whose drop ends nothing because their hub is busy, among those that are dropped when
`release` does the given drops. -/
def strayed (w : Hubs β) : List Drop → List Guard
  | [] => []
  | drop :: rest =>
    match _hr : w.registryOf drop.guard.hub with
    | none => w.strayed rest
    | some r =>
      if drop.guard.hub ∈ drop.busy then drop.guard :: w.strayed rest
      else
        match hs : r.find? drop.guard.token with
        | none => w.strayed rest
        | some s =>
          let freed := (w.unsubscribe drop.guard r s).2
          (w.unsubscribe drop.guard r s).1.strayed
            (freed.map (fun guard => ⟨drop.guard.hub :: drop.busy, guard⟩) ++ rest)
termination_by drops => (w.total, drops.length)
decreasing_by
  · exact Prod.Lex.right _ (by simp)
  · exact Prod.Lex.right _ (by simp)
  · exact Prod.Lex.right _ (by simp)
  · exact Prod.Lex.left _ _ (total_unsubscribe_lt _hr hs)

/-! ## Callbacks that are done -/

/-- The subscription of a guard was made, and is over. -/
def Retired (w : Hubs β) (guard : Guard) : Prop :=
  ∃ h, w.hubs[guard.hub]? = some h ∧ guard.token < h.registry.nextToken ∧
    w.registers guard.hub guard.token = false

theorem Evolves.retired (h : Evolves w w') (hw : w.Sound) {guard : Guard}
    (hg : w.Retired guard) : w'.Retired guard := by
  obtain ⟨x, hx, hlt, hgone⟩ := hg
  obtain ⟨y, hy, hlater⟩ := h.later guard.hub x hx
  exact ⟨y, hy, Nat.lt_of_lt_of_le hlt hlater.counter, h.not_registers hw hx hlt hgone⟩

/-- The hubs are sound, and the callbacks put aside are those of different subscriptions, all of
them over. -/
structure Tidy (w : Hubs β) : Prop where
  sound : w.Sound
  apart : (w.detached.map Prod.fst).Nodup
  retired : ∀ d ∈ w.detached, w.Retired d.1

/-- What an operation does that puts no callback aside. -/
theorem Tidy.of_evolves (ht : w.Tidy) (h : Evolves w w') (hd : w'.detached.Sublist w.detached) :
    w'.Tidy where
  sound := h.sound ht.sound
  apart := ht.apart.sublist (hd.map _)
  retired d hmem := h.retired ht.sound (ht.retired d (hd.subset hmem))

/-! ## Balance -/

/-- **Guards and registered tokens match**: each of the guards was made by a hub, and a living hub
has registered exactly the tokens of its guards. -/
structure Balanced (w : Hubs β) (guards : List Guard) : Prop where
  tidy : w.Tidy
  once : guards.Nodup
  made : ∀ guard ∈ guards, guard.hub < w.hubs.length
  registered : ∀ hub r, w.registryOf hub = some r →
    ∀ token, token ∈ r.tokens ↔ (⟨hub, token⟩ : Guard) ∈ guards

variable {guards guards' : List Guard} {guard : Guard}

theorem Balanced.perm (hb : w.Balanced guards) (h : guards.Perm guards') : w.Balanced guards' where
  tidy := hb.tidy
  once := h.nodup_iff.mp hb.once
  made guard hmem := hb.made guard (h.mem_iff.mpr hmem)
  registered hub r hr token := (hb.registered hub r hr token).trans h.mem_iff

/-- A change that leaves the tokens of the hubs that live on. -/
theorem Balanced.of_tokens_eq (hb : w.Balanced guards) (ht : w'.Tidy)
    (hlen : w'.hubs.length = w.hubs.length)
    (htokens : ∀ hub r', w'.registryOf hub = some r' →
      ∃ r, w.registryOf hub = some r ∧ r'.tokens = r.tokens) : w'.Balanced guards where
  tidy := ht
  once := hb.once
  made guard hmem := by
    rw [hlen]
    exact hb.made guard hmem
  registered hub r' hr' token := by
    obtain ⟨r, hr, heq⟩ := htokens hub r' hr'
    rw [heq]
    exact hb.registered hub r hr token

/-! ### A hub gets another registry -/

theorem registryOf_congr (h : w'.hubs = w.hubs) (hub : Nat) :
    w'.registryOf hub = w.registryOf hub := by
  unfold registryOf
  rw [h]

theorem registryOf_setRegistry_of_ne {hub other : Nat} (hne : hub ≠ other)
    (after : Registry (Callback β)) :
    (w.setRegistry hub after).registryOf other = w.registryOf other := by
  have hsame : (w.setRegistry hub after).hubs[other]? = w.hubs[other]? := by
    simp [setRegistry, hne]
  unfold registryOf
  rw [hsame]

@[simp] theorem length_hubs_setRegistry (hub : Nat) (after : Registry (Callback β)) :
    (w.setRegistry hub after).hubs.length = w.hubs.length := by
  simp [setRegistry]

/-- What lists over all elements say of an element that changes. -/
theorem perm_flatMap_modify {α γ : Type} (g : α → List γ) {xs : List α} {i : Nat} {x : α}
    (hx : xs[i]? = some x) :
    ∃ others, (xs.flatMap g).Perm (g x ++ others) ∧
      ∀ f, ((xs.modify i f).flatMap g).Perm (g (f x) ++ others) := by
  obtain ⟨hlt, rfl⟩ := List.getElem?_eq_some_iff.mp hx
  refine ⟨(xs.take i).flatMap g ++ (xs.drop (i + 1)).flatMap g, ?_, fun f => ?_⟩
  · have hsplit : xs = xs.take i ++ xs[i] :: xs.drop (i + 1) := by simp
    rw [congrArg (List.flatMap g) hsplit, List.flatMap_append, List.flatMap_cons]
    exact List.perm_append_comm_assoc _ _ _
  · rw [List.modify_eq_take_cons_drop hlt, List.flatMap_append, List.flatMap_cons]
    exact List.perm_append_comm_assoc _ _ _

/-- What callbacks own besides those of one hub. -/
theorem owned_modify {hub : Nat} {x : Hub β} (hx : w.hubs[hub]? = some x) :
    ∃ others, w.owned.Perm (x.registry.owned ++ others) ∧
      ∀ f, ({ w with hubs := w.hubs.modify hub f } : Hubs β).owned.Perm
        ((f x).registry.owned ++ others) := by
  obtain ⟨others, hbefore, hafter⟩ := perm_flatMap_modify (fun h => h.registry.owned) hx
  refine ⟨others ++ w.detached.flatMap fun d => d.2, ?_, fun f => ?_⟩
  · rw [← List.append_assoc]
    exact hbefore.append_right _
  · rw [← List.append_assoc]
    exact (hafter f).append_right _

/-! ### Subscribing -/

section

variable {hub : Nat} {plot : PlotId} {callback : Callback β}

theorem owned_subscribe (h : (w.subscribe hub plot callback).2 = some guard) :
    (w.subscribe hub plot callback).1.owned.Perm (callback.owned ++ w.owned) := by
  unfold subscribe at h ⊢
  split at h
  · rename_i r hr
    obtain ⟨x, hx, -, rfl⟩ := registryOf_eq_some.mp hr
    obtain ⟨others, hbefore, hafter⟩ := owned_modify hx
    have hperm := hafter fun h => { h with registry := x.registry.subscribe plot callback }
    dsimp only at hperm
    rw [Registry.owned_subscribe] at hperm
    refine hperm.trans ((List.perm_append_comm.append_right _).trans ?_)
    rw [List.append_assoc]
    exact hbefore.symm.append_left _
  · cases h

/-- The new guard is like no other. -/
theorem Balanced.subscribe (hb : w.Balanced guards)
    (h : (w.subscribe hub plot callback).2 = some guard) :
    (w.subscribe hub plot callback).1.Balanced (guard :: guards) := by
  obtain ⟨r, hr, rfl, hafter⟩ := subscribe_spec h
  obtain ⟨x, hx, -, rfl⟩ := registryOf_eq_some.mp hr
  have heq : (w.subscribe hub plot callback).1.hubs =
      (w.setRegistry hub (x.registry.subscribe plot callback)).hubs := by
    unfold Hubs.subscribe
    rw [hr]
    rfl
  have hlen : (w.subscribe hub plot callback).1.hubs.length = w.hubs.length := by
    rw [heq, length_hubs_setRegistry]
  have hdetached : (w.subscribe hub plot callback).1.detached = w.detached := by
    unfold Hubs.subscribe
    rw [hr]
    rfl
  have hordered := hb.tidy.sound.ordered hr
  have htidy := hb.tidy.of_evolves (evolves_subscribe w hub plot callback) (by rw [hdetached])
  refine ⟨htidy, ?_, ?_, ?_⟩
  · refine List.nodup_cons.mpr ⟨fun hmem => ?_, hb.once⟩
    have hold := (hb.registered hub _ hr _).mpr hmem
    exact Nat.lt_irrefl _ (hordered.below _ hold)
  · intro g hg
    rw [hlen]
    rcases List.mem_cons.mp hg with rfl | hg
    · exact (List.getElem?_eq_some_iff.mp hx).1
    · exact hb.made g hg
  · intro other r' hr' token
    by_cases hother : hub = other
    · subst hother
      rw [hafter] at hr'
      obtain rfl := Option.some.inj hr'
      rw [Registry.tokens_subscribe, List.mem_append, List.mem_singleton,
        hb.registered hub _ hr token, List.mem_cons, Guard.mk.injEq]
      simp [or_comm]
    · rw [registryOf_congr heq, registryOf_setRegistry_of_ne hother] at hr'
      rw [hb.registered other r' hr' token, List.mem_cons, Guard.mk.injEq]
      simp [Ne.symm hother]

end

/-! ### The end of a subscription -/

section

variable {r : Registry (Callback β)} {s : Subscriber (Callback β)}

/-- The owned guards are freed, or put aside with the callback that owns them. -/
theorem owned_unsubscribe (hw : w.Sound) (hr : w.registryOf guard.hub = some r)
    (hs : r.find? guard.token = some s) :
    w.owned.Perm ((w.unsubscribe guard r s).2 ++ (w.unsubscribe guard r s).1.owned) := by
  obtain ⟨x, hx, -, rfl⟩ := registryOf_eq_some.mp hr
  have hordered := hw.ordered hr
  obtain ⟨others, hbefore, hafter⟩ := owned_modify hx
  have hremove := hafter fun h => { h with registry := x.registry.remove guard.token }
  have hstruck : w.owned.Perm
      (s.callback.owned ++ (w.setRegistry guard.hub (x.registry.remove guard.token)).owned) := by
    refine (hbefore.trans ((Registry.owned_remove hordered hs).append_right _)).trans ?_
    rw [List.append_assoc]
    exact hremove.symm.append_left _
  refine hstruck.trans ?_
  unfold unsubscribe
  dsimp only
  split
  · unfold owned
    simp only [List.flatMap_append, List.flatMap_cons, List.flatMap_nil, List.append_nil,
      List.nil_append]
    refine List.perm_append_comm.trans ?_
    rw [List.append_assoc]
    exact .refl _
  · exact .refl _

theorem not_registers_unsubscribe (hr : w.registryOf guard.hub = some r) :
    (w.unsubscribe guard r s).1.registers guard.hub guard.token = false := by
  have hafter : (w.unsubscribe guard r s).1.registryOf guard.hub = some (r.remove guard.token) := by
    rw [registryOf_congr (hubs_unsubscribe w guard r s)]
    exact registryOf_setRegistry hr
  unfold registers
  rw [hafter]
  simp [← Bool.not_eq_true, Registry.contains_iff]

theorem Tidy.unsubscribe (ht : w.Tidy) (hr : w.registryOf guard.hub = some r)
    (hs : r.find? guard.token = some s) : (w.unsubscribe guard r s).1.Tidy := by
  have hevolves := evolves_unsubscribe hr s
  obtain ⟨x, hx, -, rfl⟩ := registryOf_eq_some.mp hr
  have hmem : guard.token ∈ x.registry.tokens := Registry.mem_tokens_of_find? hs
  have hover : (w.unsubscribe guard x.registry s).1.Retired guard := by
    obtain ⟨y, hy, hlater⟩ := hevolves.later guard.hub x hx
    have hbelow := (ht.sound.ordered hr).below _ hmem
    exact ⟨y, hy, Nat.lt_of_lt_of_le hbelow hlater.counter, not_registers_unsubscribe hr⟩
  have hfresh : guard ∉ w.detached.map Prod.fst := by
    intro hput
    obtain ⟨d, hd, rfl⟩ := List.mem_map.mp hput
    obtain ⟨-, -, -, hgone⟩ := ht.retired d hd
    rw [registers_iff.mpr ⟨_, hr, hmem⟩] at hgone
    cases hgone
  have hdetached : (w.unsubscribe guard x.registry s).1.detached = w.detached ∨
      (w.unsubscribe guard x.registry s).1.detached =
        w.detached ++ [(guard, s.callback.owned)] := by
    unfold Hubs.unsubscribe
    dsimp only
    split
    · exact .inr rfl
    · exact .inl rfl
  rcases hdetached with hdetached | hdetached
  · exact ht.of_evolves hevolves (by rw [hdetached])
  · refine ⟨hevolves.sound ht.sound, ?_, ?_⟩
    · rw [hdetached, List.map_append]
      refine List.nodup_append.mpr ⟨ht.apart, List.nodup_singleton _, ?_⟩
      intro g hg g' hg' heq
      rw [List.map_singleton, List.mem_singleton] at hg'
      exact hfresh (by rwa [heq, hg'] at hg)
    · intro d hd
      rw [hdetached] at hd
      rcases List.mem_append.mp hd with hd | hd
      · exact hevolves.retired ht.sound (ht.retired d hd)
      · rw [List.mem_singleton.mp hd]
        exact hover

/-- With its subscription, a guard goes out of the balance. -/
theorem Balanced.unsubscribe (hb : w.Balanced (guard :: guards))
    (hr : w.registryOf guard.hub = some r) (hs : r.find? guard.token = some s) :
    (w.unsubscribe guard r s).1.Balanced guards := by
  obtain ⟨hnew, honce⟩ := List.nodup_cons.mp hb.once
  have hhubs := hubs_unsubscribe w guard r s
  refine ⟨hb.tidy.unsubscribe hr hs, honce, fun g hg => ?_, fun hub r' hr' token => ?_⟩
  · rw [hhubs, length_hubs_setRegistry]
    exact hb.made g (List.mem_cons_of_mem _ hg)
  · rw [registryOf_congr hhubs] at hr'
    by_cases hhub : guard.hub = hub
    · subst hhub
      rw [registryOf_setRegistry hr] at hr'
      obtain rfl := Option.some.inj hr'
      rw [Registry.tokens_remove, List.mem_filter, hb.registered guard.hub r hr token,
        List.mem_cons]
      constructor
      · rintro ⟨heq | hmem, hne⟩
        · exact absurd (congrArg Guard.token heq) (by simpa using hne)
        · exact hmem
      · intro hmem
        refine ⟨.inr hmem, ?_⟩
        have hne : token ≠ guard.token := fun heq => hnew (by rwa [heq] at hmem)
        simpa using hne
    · rw [registryOf_setRegistry_of_ne hhub] at hr'
      rw [hb.registered hub r' hr' token, List.mem_cons]
      have hne : (⟨hub, token⟩ : Guard) ≠ guard := fun heq => hhub (congrArg Guard.hub heq).symm
      simp [hne]

/-- The guard of a hub that is gone stands for nothing. -/
theorem Balanced.forget (hb : w.Balanced (guard :: guards))
    (hgone : w.registryOf guard.hub = none) : w.Balanced guards where
  tidy := hb.tidy
  once := (List.nodup_cons.mp hb.once).2
  made g hg := hb.made g (List.mem_cons_of_mem _ hg)
  registered hub r hr token := by
    rw [hb.registered hub r hr token, List.mem_cons]
    have hne : (⟨hub, token⟩ : Guard) ≠ guard := by
      rintro rfl
      rw [hgone] at hr
      cases hr
    simp [hne]

end

/-! ### Drops -/

section

variable {drop : Drop} {rest : List Drop}

theorem strayed_nil (w : Hubs β) : w.strayed [] = [] := by rw [strayed]

theorem strayed_cons (w : Hubs β) (drop : Drop) (rest : List Drop) :
    w.strayed (drop :: rest) =
      match w.registryOf drop.guard.hub with
      | none => w.strayed rest
      | some r =>
        if drop.guard.hub ∈ drop.busy then drop.guard :: w.strayed rest
        else
          match r.find? drop.guard.token with
          | none => w.strayed rest
          | some s =>
            (w.unsubscribe drop.guard r s).1.strayed ((w.unsubscribe drop.guard r s).2.map
              (fun guard => ⟨drop.guard.hub :: drop.busy, guard⟩) ++ rest) := by
  rw [strayed]
  split
  · rename_i hr
    rw [hr]
  · rename_i r hr
    rw [hr]
    dsimp only
    split
    · rfl
    · split
      · rename_i hs
        rw [hs]
      · rename_i s hs
        rw [hs]

theorem strayed_of_gone (hr : w.registryOf drop.guard.hub = none) :
    w.strayed (drop :: rest) = w.strayed rest := by
  rw [strayed_cons, hr]

theorem strayed_of_busy {r : Registry (Callback β)} (hr : w.registryOf drop.guard.hub = some r)
    (hbusy : drop.guard.hub ∈ drop.busy) :
    w.strayed (drop :: rest) = drop.guard :: w.strayed rest := by
  rw [strayed_cons, hr]
  exact if_pos hbusy

theorem strayed_of_registered {r : Registry (Callback β)} {s : Subscriber (Callback β)}
    (hr : w.registryOf drop.guard.hub = some r) (hbusy : drop.guard.hub ∉ drop.busy)
    (hs : r.find? drop.guard.token = some s) :
    w.strayed (drop :: rest) = (w.unsubscribe drop.guard r s).1.strayed
      ((w.unsubscribe drop.guard r s).2.map (fun guard => ⟨drop.guard.hub :: drop.busy, guard⟩) ++
        rest) := by
  rw [strayed_cons, hr]
  dsimp only
  rw [if_neg hbusy, hs]

end

/-- **Drops keep the balance**, if the guards that they leave behind are counted in. The guards yet
to be dropped are in balance until their turn comes; a callback that is freed adds to them what it
owned. -/
theorem Balanced.release (drops : List Drop) {others : List Guard}
    (hb : w.Balanced (drops.map Drop.guard ++ (w.owned ++ others))) :
    (w.release drops).Balanced ((w.release drops).owned ++ (others ++ w.strayed drops)) := by
  fun_induction Hubs.release w drops generalizing others with
  | case1 w =>
    rw [strayed_nil, List.append_nil]
    exact hb
  | case2 w drop rest hr ih =>
    rw [strayed_of_gone hr]
    exact ih (hb.forget hr)
  | case3 w drop rest r hr hbusy ih =>
    rw [strayed_of_busy hr hbusy]
    have hbehind : w.Balanced (rest.map Drop.guard ++ (w.owned ++ (others ++ [drop.guard]))) := by
      have hlast : rest.map Drop.guard ++ (w.owned ++ (others ++ [drop.guard])) =
          rest.map Drop.guard ++ (w.owned ++ others) ++ [drop.guard] := by
        simp only [List.append_assoc]
      rw [hlast]
      exact hb.perm (List.perm_append_singleton _ _).symm
    have := ih hbehind
    rwa [List.append_assoc, List.singleton_append] at this
  | case4 w drop rest r hr hbusy hs ih =>
    -- a guard of a living hub that has not been dropped is registered
    have hmem := (hb.registered _ r hr drop.guard.token).mpr List.mem_cons_self
    obtain ⟨s, hs'⟩ := Registry.exists_find?_of_mem hmem
    rw [hs] at hs'
    cases hs'
  | case5 w drop rest r hr hbusy s hs freed =>
    rename_i ih
    rw [strayed_of_registered hr hbusy hs]
    refine ih ((hb.unsubscribe hr hs).perm ?_)
    have hfreed := owned_unsubscribe hb.tidy.sound hr hs
    rw [List.map_append, List.map_map]
    have hguards : freed.map (Drop.guard ∘ fun guard => ⟨drop.guard.hub :: drop.busy, guard⟩) =
        freed := List.map_id freed
    rw [hguards]
    have hmoved := (hfreed.append_right others).append_left (rest.map Drop.guard)
    refine hmoved.trans ?_
    rw [List.append_assoc, List.append_assoc]
    exact List.perm_append_comm_assoc _ _ _

/-- The guards that stray when guards are dropped while no hub is in the middle of a change. -/
def strayedBy (w : Hubs β) (guards : List Guard) : List Guard :=
  w.strayed (guards.map fun guard => ⟨[], guard⟩)

theorem Balanced.dropAll {dropped others : List Guard}
    (hb : w.Balanced (dropped ++ (w.owned ++ others))) :
    (w.dropAll dropped).Balanced
      ((w.dropAll dropped).owned ++ (others ++ w.strayedBy dropped)) := by
  have hguards : (dropped.map fun guard => (⟨[], guard⟩ : Drop)).map Drop.guard = dropped := by
    rw [List.map_map]
    exact List.map_id dropped
  refine Balanced.release _ ?_
  rw [hguards]
  exact hb

/-! ### Handles, and rounds that run callbacks -/

theorem owned_create (w : Hubs β) : w.create.1.owned = w.owned := by
  unfold owned create
  simp [Registry.owned]

theorem Balanced.create (hb : w.Balanced guards) : w.create.1.Balanced guards where
  tidy := hb.tidy.of_evolves (evolves_create w) (.refl _)
  once := hb.once
  made guard hmem := by
    have := hb.made guard hmem
    unfold Hubs.create
    rw [List.length_append]
    omega
  registered hub r hr token := by
    obtain ⟨x, hx, hpos, rfl⟩ := registryOf_eq_some.mp hr
    by_cases hlt : hub < w.hubs.length
    · have hold : w.hubs[hub]? = some x := (List.getElem?_append_left hlt).symm.trans hx
      exact hb.registered hub _ (registryOf_eq_some.mpr ⟨x, hold, hpos, rfl⟩) token
    · -- the new hub has no subscribers, and no guard is one of its
      have hlast : hub = w.hubs.length := by
        have := (List.getElem?_eq_some_iff.mp hx).1
        unfold Hubs.create at this
        rw [List.length_append, List.length_singleton] at this
        omega
      subst hlast
      have hempty : x = ⟨1, {}⟩ := by simpa [Hubs.create] using hx.symm
      rw [hempty]
      refine iff_of_false List.not_mem_nil fun hmem => hlt (hb.made _ hmem)

/-- A hub changes its handles, or its registry without changing the tokens. -/
theorem Balanced.of_modify {hub : Nat} {f : Hub β → Hub β} {x : Hub β} (hb : w.Balanced guards)
    (hx : w.hubs[hub]? = some x) (ht : ({ w with hubs := w.hubs.modify hub f } : Hubs β).Tidy)
    (hf : 0 < (f x).handles → 0 < x.handles ∧ (f x).registry.tokens = x.registry.tokens) :
    ({ w with hubs := w.hubs.modify hub f } : Hubs β).Balanced guards := by
  refine hb.of_tokens_eq ht (by simp) fun other r' hr' => ?_
  obtain ⟨z, hz, hpos, rfl⟩ := registryOf_eq_some.mp hr'
  rw [List.getElem?_modify] at hz
  obtain ⟨y, hy, rfl⟩ := Option.map_eq_some_iff.mp hz
  by_cases hother : hub = other
  · subst hother
    obtain rfl := Option.some.inj (hx.symm.trans hy)
    rw [if_pos rfl] at hpos ⊢
    obtain ⟨hlive, htokens⟩ := hf hpos
    exact ⟨_, registryOf_eq_some.mpr ⟨x, hx, hlive, rfl⟩, htokens⟩
  · rw [if_neg hother] at hpos ⊢
    exact ⟨_, registryOf_eq_some.mpr ⟨y, hy, hpos, rfl⟩, rfl⟩

section

variable {hub : Nat} {r : Registry (Callback β)}

theorem owned_share (hr : w.registryOf hub = some r) : (w.share hub).owned.Perm w.owned := by
  obtain ⟨x, hx, -, rfl⟩ := registryOf_eq_some.mp hr
  obtain ⟨others, hbefore, hafter⟩ := owned_modify hx
  exact (hafter _).trans hbefore.symm

theorem Balanced.share (hb : w.Balanced guards) (hr : w.registryOf hub = some r) :
    (w.share hub).Balanced guards := by
  obtain ⟨x, hx, hpos, -⟩ := registryOf_eq_some.mp hr
  exact hb.of_modify hx (hb.tidy.of_evolves (evolves_share w hub) (.refl _)) fun _ => ⟨hpos, rfl⟩

theorem owned_retune {token : Nat} {f : Callback β → Callback β} (hr : w.registryOf hub = some r)
    (hf : ∀ c, (f c).owned = c.owned) :
    (w.setRegistry hub (r.modify token f)).owned.Perm w.owned := by
  obtain ⟨x, hx, -, rfl⟩ := registryOf_eq_some.mp hr
  obtain ⟨others, hbefore, hafter⟩ := owned_modify hx
  have hperm := hafter fun h => { h with registry := x.registry.modify token f }
  dsimp only at hperm
  rw [Registry.owned_modify hf] at hperm
  exact hperm.trans hbefore.symm

theorem Balanced.retune {token : Nat} {f : Callback β → Callback β} (hb : w.Balanced guards)
    (hr : w.registryOf hub = some r) : (w.setRegistry hub (r.modify token f)).Balanced guards := by
  have hevolves : Evolves w (w.setRegistry hub (r.modify token f)) :=
    evolves_setRegistry hr rfl (r.later_modify token f) fun h => h.modify token f
  obtain ⟨x, hx, hpos, rfl⟩ := registryOf_eq_some.mp hr
  refine hb.of_modify hx (hb.tidy.of_evolves hevolves (.refl _)) fun _ => ?_
  exact ⟨hpos, Registry.tokens_modify _ token f⟩

end

theorem Balanced.enter (hb : w.Balanced guards) (guard : Guard) : (w.enter guard).Balanced guards :=
  hb.of_tokens_eq (hb.tidy.of_evolves (.of_hubs_eq rfl) (.refl _)) rfl fun _ r' hr' =>
    ⟨r', hr', rfl⟩

theorem owned_finish (ht : w.Tidy) (guard : Guard) :
    w.owned.Perm ((w.finish guard).2 ++ (w.finish guard).1.owned) := by
  unfold finish
  dsimp only
  split
  · rename_i owned howned
    split
    · exact .refl _
    · obtain ⟨before, after, hsplit, -⟩ := List.lookup_eq_some_iff.mp howned
      have hmem : (guard, owned) ∈ w.detached := by
        rw [hsplit]
        simp
      have hperm := (perm_cons_filter Prod.fst ht.apart hmem).flatMap_right fun d => d.2
      exact (hperm.append_left _).trans (List.perm_append_comm_assoc _ _ _)
  · exact .refl _

theorem Balanced.finish (hb : w.Balanced guards) (guard : Guard) :
    (w.finish guard).1.Balanced guards := by
  have hhubs := hubs_finish w guard
  have hdetached : (w.finish guard).1.detached.Sublist w.detached := by
    unfold Hubs.finish
    dsimp only
    split
    · split
      · exact .refl _
      · exact List.filter_sublist
    · exact .refl _
  refine hb.of_tokens_eq (hb.tidy.of_evolves (.of_hubs_eq hhubs) hdetached) (by rw [hhubs]) ?_
  intro hub r' hr'
  rw [registryOf_congr hhubs] at hr'
  exact ⟨r', hr', rfl⟩

theorem owned_loseHandle (w : Hubs β) (hub : Nat) :
    w.owned.Perm ((w.loseHandle hub).2 ++ (w.loseHandle hub).1.owned) := by
  obtain ⟨-, heq⟩ | ⟨x, hx, -, heq⟩ | ⟨x, hx, -, heq⟩ := loseHandle_cases w hub
  · rw [heq]
    exact .refl _
  · obtain ⟨others, hbefore, hafter⟩ := owned_modify hx
    have hfewer := hafter fun h => { h with handles := h.handles - 1 }
    rw [heq]
    exact hbefore.trans hfewer.symm
  · obtain ⟨others, hbefore, hafter⟩ := owned_modify hx
    have hemptied := hafter fun h => ⟨h.handles - 1, { x.registry with subscribers := [] }⟩
    rw [heq]
    exact hbefore.trans (hemptied.symm.append_left _)

theorem Balanced.loseHandle (hb : w.Balanced guards) (hub : Nat) :
    (w.loseHandle hub).1.Balanced guards := by
  have hevolves := evolves_loseHandle w hub
  obtain ⟨-, heq⟩ | ⟨x, hx, hmore, heq⟩ | ⟨x, hx, hlast, heq⟩ := loseHandle_cases w hub
  · rw [heq]
    exact hb
  · rw [heq] at hevolves ⊢
    refine hb.of_modify hx (hb.tidy.of_evolves hevolves (.refl _)) fun hpos => ?_
    exact ⟨Nat.lt_of_lt_of_le hpos (Nat.sub_le _ _), rfl⟩
  · rw [heq] at hevolves ⊢
    refine hb.of_modify hx (hb.tidy.of_evolves hevolves (.refl _)) fun hpos => ?_
    exact absurd hlast (Nat.ne_of_gt hpos)

end Hubs

end ResultsBoard.Resize
