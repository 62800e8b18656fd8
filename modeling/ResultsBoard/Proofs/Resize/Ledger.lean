import ResultsBoard.Proofs.Resize.Strays

/-!
# What a guard stands for

A run is told again by its deeds: under which guard what has been subscribed
(`ResizeHub::subscribe`), and how callbacks have changed since. Nothing else touches a registration
but its end, and only the drop of its guard ends it while its hub lives.

* `Trail`: a run with its deeds. `Run.exists_trail`: every run has some.
* `Step.cases`: what a step does to the registries, in three cases.
* `Continues`, `Trail.continues`: what the deeds tell of the registries at the end of a trail.
* `dropOne`, `release_cons_dropOne`: the drop of a guard without the drops that follow from it.
* `LedgerLaw`, `ledger_law`: what is registered under a guard that has not been dropped.
-/

namespace ResultsBoard.Resize.Hubs

variable {β τ : Type} {held : τ → List Guard}

/-! ## Deeds -/

namespace Deed

/-- The token that a hub has issued. -/
def issue? (hub : Nat) : Deed β → Option Nat
  | subscribed guard _ _ => if guard.hub = hub then some guard.token else none
  | retuned _ _ => none

/-- What becomes of the callback under a guard. -/
def tune (guard : Guard) (callback : Callback β) : Deed β → Callback β
  | subscribed _ _ _ => callback
  | retuned g f => if g = guard then f callback else callback

end Deed

/-- What has become of the callback under a guard. -/
def retuned (guard : Guard) (deeds : List (Deed β)) (callback : Callback β) : Callback β :=
  deeds.foldl (Deed.tune guard) callback

theorem retuned_append (guard : Guard) (deeds deeds' : List (Deed β)) (callback : Callback β) :
    retuned guard (deeds ++ deeds') callback =
      retuned guard deeds' (retuned guard deeds callback) :=
  List.foldl_append

/-- **A run with its deeds**, in order. -/
inductive Trail (held : τ → List Guard) : Hubs β × τ → List (Deed β) → Hubs β × τ → Prop
  | refl (s : Hubs β × τ) : Trail held s [] s
  | tail {s s' s'' : Hubs β × τ} {deeds more : List (Deed β)} {strays : List Guard}
      (h : Trail held s deeds s') (hstep : Step held s' more strays s'') :
    Trail held s (deeds ++ more) s''

variable {s s' s'' : Hubs β × τ} {deeds deeds' : List (Deed β)} {strays : List Guard}

theorem Trail.exists_run (h : Trail held s deeds s') : ∃ strays, Run held s strays s' := by
  induction h with
  | refl => exact ⟨[], .refl _⟩
  | tail _ hstep ih =>
    obtain ⟨strays, hrun⟩ := ih
    exact ⟨_, hrun.tail hstep⟩

/-- **Every run can be told by its deeds.** -/
theorem Run.exists_trail (h : Run held s strays s') : ∃ deeds, Trail held s deeds s' := by
  induction h with
  | refl => exact ⟨[], .refl _⟩
  | tail _ hstep ih =>
    obtain ⟨deeds, htrail⟩ := ih
    exact ⟨_, htrail.tail hstep⟩

/-! ## Registries by number -/

/-- The registry of a hub, also if the hub is gone; a number without a hub has an empty one. -/
def book (w : Hubs β) (hub : Nat) : Registry (Callback β) := (w.hubs[hub]?).elim {} Hub.registry

variable {w w' w'' : Hubs β} {hub : Nat} {r : Registry (Callback β)}

theorem book_of_registryOf (hr : w.registryOf hub = some r) : w.book hub = r := by
  obtain ⟨x, hx, -, rfl⟩ := registryOf_eq_some.mp hr
  unfold book
  rw [hx]
  rfl

theorem book_congr (h : w'.hubs = w.hubs) (hub : Nat) : w'.book hub = w.book hub := by
  unfold book
  rw [h]

/-- A change of one hub changes the registry of no other. -/
theorem book_modify_of_ne {other : Nat} (hne : hub ≠ other) (f : Hub β → Hub β) :
    ({ w with hubs := w.hubs.modify hub f } : Hubs β).book other = w.book other := by
  have hsame : (w.hubs.modify hub f)[other]? = w.hubs[other]? := by
    simp [hne]
  unfold book
  rw [hsame]

theorem book_modify {x : Hub β} (hx : w.hubs[hub]? = some x) (f : Hub β → Hub β) :
    ({ w with hubs := w.hubs.modify hub f } : Hubs β).book hub = (f x).registry := by
  unfold book
  rw [List.getElem?_modify_eq, hx]
  rfl

theorem book_setRegistry (hr : w.registryOf hub = some r) (after : Registry (Callback β)) :
    (w.setRegistry hub after).book hub = after := by
  obtain ⟨x, hx, -, -⟩ := registryOf_eq_some.mp hr
  exact book_modify hx _

theorem Sound.ordered_book (h : w.Sound) (hub : Nat) : (w.book hub).Ordered := by
  unfold book
  cases hx : w.hubs[hub]? with
  | none => exact Registry.ordered_of_no_subscribers rfl
  | some x => exact (h x (List.mem_of_getElem? hx)).ordered

/-- **Subscriptions end at most**: no token is issued, and no registration changes. -/
structure Thins (w w' : Hubs β) : Prop where
  counter : ∀ hub, (w'.book hub).nextToken = (w.book hub).nextToken
  subscribers : ∀ hub, (w'.book hub).subscribers.Sublist (w.book hub).subscribers

theorem Thins.trans (h : Thins w w') (h' : Thins w' w'') : Thins w w'' :=
  ⟨fun hub => (h'.counter hub).trans (h.counter hub),
    fun hub => (h'.subscribers hub).trans (h.subscribers hub)⟩

theorem Thins.of_book_eq (h : ∀ hub, w'.book hub = w.book hub) : Thins w w' :=
  ⟨fun hub => congrArg Registry.nextToken (h hub), fun hub => by rw [h hub]⟩

theorem Thins.of_hubs_eq (h : w'.hubs = w.hubs) : Thins w w' := .of_book_eq (book_congr h)

/-- A change of one hub. -/
theorem Thins.of_modify {x : Hub β} {f : Hub β → Hub β} (hx : w.hubs[hub]? = some x)
    (hcounter : (f x).registry.nextToken = x.registry.nextToken)
    (hsubscribers : (f x).registry.subscribers.Sublist x.registry.subscribers) :
    Thins w { w with hubs := w.hubs.modify hub f } := by
  have hbook : w.book hub = x.registry := by
    unfold book
    rw [hx]
    rfl
  refine ⟨fun other => ?_, fun other => ?_⟩
  all_goals
    by_cases hother : hub = other
    · subst hother
      rw [book_modify hx, hbook]
      assumption
    · rw [book_modify_of_ne hother]

theorem thins_create (w : Hubs β) : Thins w w.create.1 := by
  refine .of_book_eq fun hub => ?_
  unfold book create
  rcases Nat.lt_trichotomy hub w.hubs.length with hlt | rfl | hgt
  · rw [List.getElem?_append_left hlt]
  · rw [List.getElem?_concat_length, List.getElem?_eq_none (Nat.le_refl _)]
    rfl
  · rw [List.getElem?_eq_none (Nat.le_of_lt hgt), List.getElem?_eq_none]
    rw [List.length_append, List.length_singleton]
    exact hgt

theorem book_share (w : Hubs β) (hub other : Nat) : (w.share hub).book other = w.book other := by
  by_cases hother : hub = other
  · subst hother
    cases hx : w.hubs[hub]? with
    | none => exact book_congr (List.modify_eq_self (List.getElem?_eq_none_iff.mp hx)) hub
    | some x =>
      have hbook : w.book hub = x.registry := by
        unfold book
        rw [hx]
        rfl
      exact (book_modify hx _).trans hbook.symm
  · exact book_modify_of_ne hother _

theorem thins_unsubscribe {guard : Guard} (hr : w.registryOf guard.hub = some r)
    (x : Subscriber (Callback β)) : Thins w (w.unsubscribe guard r x).1 := by
  obtain ⟨y, hy, -, rfl⟩ := registryOf_eq_some.mp hr
  have hthins : Thins w (w.setRegistry guard.hub (y.registry.remove guard.token)) :=
    .of_modify hy rfl List.filter_sublist
  exact hthins.trans (.of_hubs_eq (hubs_unsubscribe w guard y.registry x))

/-- The induction follows the drops in the order in which they are done. -/
theorem thins_release (w : Hubs β) (drops : List Drop) : Thins w (w.release drops) := by
  fun_induction release w drops with
  | case1 w => exact .of_hubs_eq rfl
  | case2 w drop rest hr ih => exact ih
  | case3 w drop rest r hr hbusy ih => exact ih
  | case4 w drop rest r hr hbusy hs ih => exact ih
  | case5 w drop rest r hr hbusy s hs freed ih => exact (thins_unsubscribe hr s).trans ih

theorem thins_loseHandle (w : Hubs β) (hub : Nat) : Thins w (w.loseHandle hub).1 := by
  obtain ⟨-, heq⟩ | ⟨x, hx, -, heq⟩ | ⟨x, hx, -, heq⟩ := loseHandle_cases w hub
  · rw [heq]
    exact .of_hubs_eq rfl
  · rw [heq]
    exact .of_modify hx rfl (.refl _)
  · rw [heq]
    exact .of_modify hx rfl (List.nil_sublist _)

/-! ## What a step does to the registries -/

/-- The registry of one hub changes. -/
structure Writes (w w' : Hubs β) (hub : Nat) (after : Registry (Callback β)) : Prop where
  here : w'.book hub = after
  elsewhere : ∀ other, hub ≠ other → w'.book other = w.book other

/-- **A step subscribes, or it changes a callback, or subscriptions end at most.** -/
theorem Step.cases (h : Step held s deeds strays s') :
    (deeds = [] ∧ Thins s.1 s'.1) ∨
    (∃ hub plot callback,
      deeds = [.subscribed ⟨hub, (s.1.book hub).nextToken⟩ plot callback] ∧
      Writes s.1 s'.1 hub ((s.1.book hub).subscribe plot callback)) ∨
    (∃ hub token f, deeds = [.retuned ⟨hub, token⟩ f] ∧
      Writes s.1 s'.1 hub ((s.1.book hub).modify token f)) := by
  cases h with
  | create w t => exact .inl ⟨rfl, thins_create w⟩
  | share w t hub r hr => exact .inl ⟨rfl, .of_book_eq (book_share w hub)⟩
  | unshare w t hub => exact .inl ⟨rfl, (thins_loseHandle w hub).trans (thins_release _ _)⟩
  | subscribe w t t' hub plot callback guard rest hgive hsub hget =>
    obtain ⟨r, hr, rfl, -⟩ := subscribe_spec hsub
    refine .inr (.inl ⟨hub, plot, callback, ?_, ?_⟩)
    · rw [book_of_registryOf hr]
    · have hhubs : (w.subscribe hub plot callback).1.hubs =
          (w.setRegistry hub (r.subscribe plot callback)).hubs := by
        unfold Hubs.subscribe
        rw [hr]
        rfl
      refine ⟨?_, fun other hne => ?_⟩
      · rw [book_congr hhubs, book_setRegistry hr, book_of_registryOf hr]
      · rw [book_congr hhubs]
        exact book_modify_of_ne hne _
  | drop w t t' guard hgive => exact .inl ⟨rfl, thins_release w _⟩
  | retune w t hub token r f hr hf =>
    refine .inr (.inr ⟨hub, token, f, rfl, ?_, fun other hne => book_modify_of_ne hne _⟩)
    rw [book_setRegistry hr, book_of_registryOf hr]
  | enter w t guard => exact .inl ⟨rfl, .of_hubs_eq rfl⟩
  | leave w t guard =>
    have hfinish : Thins w (w.finish guard).1 := .of_hubs_eq (hubs_finish w guard)
    exact .inl ⟨rfl, hfinish.trans (thins_release _ _)⟩
  | note w t t' hsame => exact .inl ⟨rfl, .of_hubs_eq rfl⟩

/-! ## What the deeds tell -/

/-- Where a subscriber comes from: it was there at the beginning, or it has subscribed since. The
callback has changed by its own deeds only. -/
def Origin (w : Hubs β) (hub : Nat) (deeds : List (Deed β)) (x : Subscriber (Callback β)) : Prop :=
  (∃ old ∈ (w.book hub).subscribers, x.token = old.token ∧ x.plot = old.plot ∧
    x.callback = retuned ⟨hub, x.token⟩ deeds old.callback) ∨
  ∃ before callback after, deeds = before ++ .subscribed ⟨hub, x.token⟩ x.plot callback :: after ∧
    x.callback = retuned ⟨hub, x.token⟩ after callback

/-- **What some deeds tell** of the registries after them. -/
structure Continues (w : Hubs β) (deeds : List (Deed β)) (w' : Hubs β) : Prop where
  issued : ∀ hub, List.range (w'.book hub).nextToken =
    List.range (w.book hub).nextToken ++ deeds.filterMap (Deed.issue? hub)
  origin : ∀ hub, ∀ x ∈ (w'.book hub).subscribers, Origin w hub deeds x

/-- One more deed. -/
theorem Origin.append {x y : Subscriber (Callback β)} (h : Origin w hub deeds x) {more : Deed β}
    (htoken : y.token = x.token) (hplot : y.plot = x.plot)
    (hcallback : y.callback = more.tune ⟨hub, x.token⟩ x.callback) :
    Origin w hub (deeds ++ [more]) y := by
  unfold Origin
  rw [htoken, hplot, hcallback]
  obtain ⟨old, hold, htoken', hplot', heq⟩ | ⟨before, callback, after, rfl, heq⟩ := h
  · refine .inl ⟨old, hold, htoken', hplot', ?_⟩
    rw [retuned_append, ← heq]
    rfl
  · refine .inr ⟨before, callback, after ++ [more], ?_, ?_⟩
    · rw [List.append_assoc, List.cons_append]
    · rw [retuned_append, ← heq]
      rfl

theorem continues_refl (w : Hubs β) : Continues w [] w :=
  ⟨fun _ => (List.append_nil _).symm, fun _ x hx => .inl ⟨x, hx, rfl, rfl, rfl⟩⟩

theorem Continues.thins (h : Continues w deeds w') (hthins : Thins w' w'') :
    Continues w deeds w'' := by
  refine ⟨fun hub => ?_, fun hub x hx => h.origin hub x ((hthins.subscribers hub).subset hx)⟩
  rw [hthins.counter hub]
  exact h.issued hub

theorem Continues.subscribe {plot : PlotId} {callback : Callback β} (h : Continues w deeds w')
    (hwrites : Writes w' w'' hub ((w'.book hub).subscribe plot callback)) :
    Continues w (deeds ++ [.subscribed ⟨hub, (w'.book hub).nextToken⟩ plot callback]) w'' := by
  refine ⟨fun other => ?_, fun other x hx => ?_⟩
  · rw [List.filterMap_append, ← List.append_assoc, ← h.issued]
    by_cases hother : hub = other
    · subst hother
      have hissue : Deed.issue? hub (.subscribed ⟨hub, (w'.book hub).nextToken⟩ plot callback) =
          some (w'.book hub).nextToken := if_pos rfl
      rw [hwrites.here, List.filterMap_cons_some hissue]
      exact List.range_succ
    · have hissue : Deed.issue? other (.subscribed ⟨hub, (w'.book hub).nextToken⟩ plot callback) =
          none := if_neg hother
      rw [hwrites.elsewhere other hother, List.filterMap_cons_none hissue]
      exact (List.append_nil _).symm
  · by_cases hother : hub = other
    · subst hother
      rw [hwrites.here] at hx
      rcases List.mem_append.mp hx with hold | hnew
      · exact (h.origin hub x hold).append rfl rfl rfl
      · rw [List.mem_singleton.mp hnew]
        exact .inr ⟨deeds, callback, [], rfl, rfl⟩
    · rw [hwrites.elsewhere other hother] at hx
      exact (h.origin other x hx).append rfl rfl rfl

theorem Continues.retune {token : Nat} {f : Callback β → Callback β} (h : Continues w deeds w')
    (hwrites : Writes w' w'' hub ((w'.book hub).modify token f)) :
    Continues w (deeds ++ [.retuned ⟨hub, token⟩ f]) w'' := by
  refine ⟨fun other => ?_, fun other x hx => ?_⟩
  · rw [List.filterMap_append, List.filterMap_cons_none rfl, List.filterMap_nil, List.append_nil,
      ← h.issued]
    by_cases hother : hub = other
    · subst hother
      rw [hwrites.here]
      rfl
    · rw [hwrites.elsewhere other hother]
  · by_cases hother : hub = other
    · subst hother
      rw [hwrites.here] at hx
      obtain ⟨y, hy, rfl⟩ := List.mem_map.mp hx
      by_cases htoken : y.token = token
      · subst htoken
        rw [if_pos rfl]
        exact (h.origin hub y hy).append rfl rfl (if_pos rfl).symm
      · rw [if_neg htoken]
        have hne : (⟨hub, token⟩ : Guard) ≠ ⟨hub, y.token⟩ := fun heq =>
          htoken (congrArg Guard.token heq).symm
        exact (h.origin hub y hy).append rfl rfl (if_neg hne).symm
    · rw [hwrites.elsewhere other hother] at hx
      have hne : (⟨hub, token⟩ : Guard) ≠ ⟨other, x.token⟩ := fun heq =>
        hother (congrArg Guard.hub heq)
      exact (h.origin other x hx).append rfl rfl (if_neg hne).symm

/-- **The deeds of a trail tell of the registries at its end.** -/
theorem Trail.continues (h : Trail held s deeds s') : Continues s.1 deeds s'.1 := by
  induction h with
  | refl => exact continues_refl _
  | tail _ hstep ih =>
    obtain ⟨rfl, hthins⟩ | ⟨hub, plot, callback, rfl, hwrites⟩ | ⟨hub, token, f, rfl, hwrites⟩ :=
      hstep.cases
    · rw [List.append_nil]
      exact ih.thins hthins
    · exact ih.subscribe hwrites
    · exact ih.retune hwrites

theorem Trail.trans (h : Trail held s deeds s') (h' : Trail held s' deeds' s'') :
    Trail held s (deeds ++ deeds') s'' := by
  induction h' with
  | refl =>
    rw [List.append_nil]
    exact h
  | tail _ hstep ih =>
    rw [← List.append_assoc]
    exact ih.tail hstep

/-- A token issued since is not below the counter of the beginning. -/
theorem Continues.le_of_subscribed (h : Continues w deeds w') {guard : Guard} {plot : PlotId}
    {callback : Callback β} (hmem : .subscribed guard plot callback ∈ deeds) :
    (w.book guard.hub).nextToken ≤ guard.token := by
  have hissued : guard.token ∈ deeds.filterMap (Deed.issue? guard.hub) :=
    List.mem_filterMap.mpr ⟨_, hmem, if_pos rfl⟩
  have hnodup := List.nodup_range (n := (w'.book guard.hub).nextToken)
  rw [h.issued guard.hub] at hnodup
  have hnew : guard.token ∉ List.range (w.book guard.hub).nextToken := fun hold =>
    (List.nodup_append.mp hnodup).2.2 _ hold _ hissued rfl
  exact Nat.le_of_not_lt fun hlt => hnew (List.mem_range.mpr hlt)

/-! ## The drop of one guard -/

/-- The drop of a guard alone, and the drops that follow because it frees the callback. -/
def dropOne (w : Hubs β) (drop : Drop) : Hubs β × List Drop :=
  match w.registryOf drop.guard.hub with
  | none => (w, [])
  | some r =>
    if drop.guard.hub ∈ drop.busy then (w, [])
    else
      match r.find? drop.guard.token with
      | none => (w, [])
      | some s =>
        ((w.unsubscribe drop.guard r s).1,
          (w.unsubscribe drop.guard r s).2.map fun guard => ⟨drop.guard.hub :: drop.busy, guard⟩)

/-- Drops are done one by one. -/
theorem release_cons_dropOne (w : Hubs β) (drop : Drop) (rest : List Drop) :
    w.release (drop :: rest) = (w.dropOne drop).1.release ((w.dropOne drop).2 ++ rest) := by
  rw [release_cons]
  unfold dropOne
  cases w.registryOf drop.guard.hub with
  | none => rfl
  | some r =>
    dsimp only
    by_cases hbusy : drop.guard.hub ∈ drop.busy
    · rw [if_pos hbusy, if_pos hbusy]
      rfl
    · rw [if_neg hbusy, if_neg hbusy]
      cases r.find? drop.guard.token with
      | none => rfl
      | some s => rfl

/-- **What the drop of one guard does**: it strikes out the registration under its own token in its
own hub at most. What follows are the drops of guards that the callback there owned. -/
structure DropOneLaw (w : Hubs β) (drop : Drop) : Prop where
  elsewhere : ∀ hub, drop.guard.hub ≠ hub → (w.dropOne drop).1.book hub = w.book hub
  here : (w.dropOne drop).1.book drop.guard.hub = w.book drop.guard.hub ∨
    (w.dropOne drop).1.book drop.guard.hub = (w.book drop.guard.hub).remove drop.guard.token
  freed : ∀ next ∈ (w.dropOne drop).2,
    ∃ x, (w.book drop.guard.hub).find? drop.guard.token = some x ∧ next.guard ∈ x.callback.owned
  gone : w.registryOf drop.guard.hub = none → w.dropOne drop = (w, [])

theorem dropOneLaw_of_same {drop : Drop} (h : w.dropOne drop = (w, [])) : DropOneLaw w drop := by
  refine ⟨fun hub _ => ?_, .inl ?_, fun next hnext => ?_, fun _ => h⟩
  · rw [h]
  · rw [h]
  · rw [h] at hnext
    exact absurd hnext List.not_mem_nil

theorem dropOneLaw (w : Hubs β) (drop : Drop) : DropOneLaw w drop := by
  cases hr : w.registryOf drop.guard.hub with
  | none =>
    refine dropOneLaw_of_same ?_
    unfold dropOne
    rw [hr]
  | some r =>
    by_cases hbusy : drop.guard.hub ∈ drop.busy
    · refine dropOneLaw_of_same ?_
      unfold dropOne
      rw [hr]
      exact if_pos hbusy
    · cases hs : r.find? drop.guard.token with
      | none =>
        refine dropOneLaw_of_same ?_
        unfold dropOne
        rw [hr]
        dsimp only
        rw [if_neg hbusy, hs]
      | some x =>
        have hdrop : w.dropOne drop = ((w.unsubscribe drop.guard r x).1,
            (w.unsubscribe drop.guard r x).2.map fun g => ⟨drop.guard.hub :: drop.busy, g⟩) := by
          unfold dropOne
          rw [hr]
          dsimp only
          rw [if_neg hbusy, hs]
        have hhubs := hubs_unsubscribe w drop.guard r x
        refine ⟨fun hub hne => ?_, .inr ?_, fun next hnext => ?_, fun hgone => ?_⟩
        · rw [hdrop, book_congr hhubs]
          exact book_modify_of_ne hne _
        · rw [hdrop, book_congr hhubs, book_setRegistry hr, book_of_registryOf hr]
        · rw [hdrop] at hnext
          obtain ⟨g, hg, rfl⟩ := List.mem_map.mp hnext
          rw [unsubscribe_snd] at hg
          refine ⟨x, ?_, ?_⟩
          · rw [book_of_registryOf hr]
            exact hs
          · split at hg
            · exact absurd hg List.not_mem_nil
            · exact hg
        · rw [hr] at hgone
          cases hgone

/-! ## The law -/

/-- **What is registered** after a trail with these deeds. -/
structure LedgerLaw (held : τ → List Guard) (s : Hubs β × τ) (deeds : List (Deed β)) : Prop where
  /-- While its hub lives, a guard that has not been dropped stands for the callback that it was
  made for, with the plot of that time, and with what has become of the callback since. -/
  registered : ∀ guard ∈ alive held s, ∀ r, s.1.registryOf guard.hub = some r →
    ∃ before plot callback after, deeds = before ++ .subscribed guard plot callback :: after ∧
      r.find? guard.token = some ⟨guard.token, plot, retuned guard after callback⟩
  /-- Nothing but its own drop ends this, and nothing but its own deeds changes it. -/
  kept : ∀ deeds' s', Trail held s deeds' s' → ∀ guard ∈ alive held s, guard ∈ alive held s' →
    ∀ r r', s.1.registryOf guard.hub = some r → s'.1.registryOf guard.hub = some r' →
      ∃ plot callback, r.find? guard.token = some ⟨guard.token, plot, callback⟩ ∧
        r'.find? guard.token = some ⟨guard.token, plot, retuned guard deeds' callback⟩
  /-- A hub issues its tokens in order, and none twice. Its counter is the number of subscriptions,
  so one of 64 bits is enough for fewer than `2 ^ 64` of them. -/
  issued : ∀ hub, deeds.filterMap (Deed.issue? hub) = List.range (s.1.book hub).nextToken
  /-- Those in use ascend and lie below the counter. -/
  ordered : ∀ hub, (s.1.book hub).Ordered
  /-- All handles of a hub have the same registry, -/
  shared : ∀ hub other, (s.1.share hub).book other = s.1.book other
  /-- and a handle that goes leaves it to the others. -/
  left : ∀ hub h, s.1.hubs[hub]? = some h → 1 < h.handles →
    ∀ other, (s.1.unshare hub).book other = s.1.book other
  /-- Drops are done one by one, -/
  drops : ∀ drop rest, s.1.release (drop :: rest) =
    (s.1.dropOne drop).1.release ((s.1.dropOne drop).2 ++ rest)
  /-- and each of them ends one subscription at most. -/
  drop : ∀ drop, DropOneLaw s.1 drop
  /-- Rounds are trails, if callbacks are. So this law covers what they do, nested or not. -/
  rounds : ∀ hub invoke, (∀ guard s, ∃ more, Trail held s more (invoke guard s)) →
    ∃ more, Trail held s more (broadcast hub invoke s).1

/-- A guard that has not been dropped is registered while its hub lives. -/
theorem exists_find?_of_alive {guard : Guard} (hb : s.1.Balanced (alive held s ++ strays))
    (hguard : guard ∈ alive held s) (hr : s.1.registryOf guard.hub = some r) :
    ∃ x ∈ (s.1.book guard.hub).subscribers, x.token = guard.token ∧
      r.find? guard.token = some x := by
  have htoken := (hb.registered guard.hub r hr guard.token).mpr (List.mem_append_left _ hguard)
  obtain ⟨x, hx⟩ := Registry.exists_find?_of_mem htoken
  obtain ⟨hmem, heq⟩ := Registry.mem_subscribers_of_find? hx
  refine ⟨x, ?_, heq, hx⟩
  rw [book_of_registryOf hr]
  exact hmem

theorem book_empty (hub : Nat) : ({} : Hubs β).book hub = {} := rfl

theorem Trail.registered {start : τ} (h : Trail held (({} : Hubs β), start) deeds s)
    (hb : s.1.Balanced (alive held s ++ strays)) {guard : Guard} (hguard : guard ∈ alive held s)
    (hr : s.1.registryOf guard.hub = some r) :
    ∃ before plot callback after, deeds = before ++ .subscribed guard plot callback :: after ∧
      r.find? guard.token = some ⟨guard.token, plot, retuned guard after callback⟩ := by
  obtain ⟨⟨token, plot, callback⟩, hx, rfl, hfind⟩ := exists_find?_of_alive hb hguard hr
  obtain ⟨old, hold, -⟩ | ⟨before, made, after, hdeeds, heq⟩ := h.continues.origin guard.hub _ hx
  · rw [book_empty] at hold
    exact absurd hold List.not_mem_nil
  · obtain rfl : callback = retuned guard after made := heq
    exact ⟨before, plot, made, after, hdeeds, hfind⟩

theorem Trail.kept (h : Trail held s deeds' s') {strays' : List Guard}
    (hb : s.1.Balanced (alive held s ++ strays))
    (hb' : s'.1.Balanced (alive held s' ++ strays')) {guard : Guard}
    (hguard : guard ∈ alive held s) (hguard' : guard ∈ alive held s')
    {r' : Registry (Callback β)} (hr : s.1.registryOf guard.hub = some r)
    (hr' : s'.1.registryOf guard.hub = some r') :
    ∃ plot callback, r.find? guard.token = some ⟨guard.token, plot, callback⟩ ∧
      r'.find? guard.token = some ⟨guard.token, plot, retuned guard deeds' callback⟩ := by
  obtain ⟨x, hx, hxtoken, hfind⟩ := exists_find?_of_alive hb hguard hr
  obtain ⟨⟨token', plot', callback'⟩, hy, rfl, hfind'⟩ := exists_find?_of_alive hb' hguard' hr'
  have hordered := hb.tidy.sound.ordered_book guard.hub
  obtain ⟨old, hold, htoken, hplot, hcallback⟩ | ⟨before, made, after, rfl, -⟩ :=
    h.continues.origin guard.hub _ hy
  · have hsame : old = x :=
      List.inj_on_of_nodup_map hordered.nodup hold hx (htoken.symm.trans hxtoken.symm)
    subst hsame
    obtain ⟨token, plot, callback⟩ := old
    obtain rfl : plot' = plot := hplot
    obtain rfl : token = guard.token := hxtoken
    obtain rfl : callback' = retuned guard deeds' callback := hcallback
    exact ⟨_, _, hfind, hfind'⟩
  · -- the guard would have been made after it had been there
    have hnew := h.continues.le_of_subscribed (List.mem_append_right _ List.mem_cons_self)
    have hbelow := hordered.below _ (List.mem_map_of_mem hx)
    rw [hxtoken] at hbelow
    exact absurd hbelow (Nat.not_lt_of_le hnew)

theorem book_unshare {x : Hub β} (hx : w.hubs[hub]? = some x) (hmore : 1 < x.handles)
    (other : Nat) : (w.unshare hub).book other = w.book other := by
  obtain ⟨hnone, -⟩ | ⟨y, hy, -, heq⟩ | ⟨y, hy, hlast, -⟩ := loseHandle_cases w hub
  · rw [hx] at hnone
    cases hnone
  · have hunshare : w.unshare hub =
        { w with hubs := w.hubs.modify hub fun h => { h with handles := h.handles - 1 } } := by
      unfold unshare dropAll
      rw [heq]
      exact release.eq_1 _
    rw [hunshare]
    by_cases hother : hub = other
    · subst hother
      rw [book_modify hy]
      unfold book
      rw [hy]
      rfl
    · exact book_modify_of_ne hother _
  · obtain rfl := Option.some.inj (hx.symm.trans hy)
    omega

theorem trail_broadcast {invoke : Guard → Hubs β × τ → Hubs β × τ} (hub : Nat)
    (hinvoke : ∀ guard s, ∃ more, Trail held s more (invoke guard s)) (s : Hubs β × τ) :
    ∃ more, Trail held s more (broadcast hub invoke s).1 := by
  have hruns : ∀ guard s, ∃ strays, Run held s strays (invoke guard s) := fun guard s =>
    (hinvoke guard s).elim fun _ htrail => htrail.exists_run
  obtain ⟨strays, hrun⟩ := run_broadcast hub hruns s
  exact hrun.exists_trail

/-- **No subscription is lost or disturbed**, whatever a program does that keeps its guards. -/
theorem ledger_law {start : τ} (hstart : held start = [])
    (h : Trail held (({} : Hubs β), start) deeds s) : LedgerLaw held s deeds := by
  obtain ⟨strays, hrun⟩ := h.exists_run
  have hb := hrun.balanced hstart
  refine ⟨fun guard hguard r hr => h.registered hb hguard hr, ?_, fun hub => ?_,
    fun hub => hb.tidy.sound.ordered_book hub, fun hub other => book_share s.1 hub other,
    fun hub x hx hmore other => book_unshare hx hmore other, release_cons_dropOne s.1,
    dropOneLaw s.1, fun hub invoke hinvoke => trail_broadcast hub hinvoke s⟩
  · intro deeds' s' h' guard hguard hguard' r r' hr hr'
    obtain ⟨strays', hrun'⟩ := (h.trans h').exists_run
    exact h'.kept hb (hrun'.balanced hstart) hguard hguard' hr hr'
  · exact (h.continues.issued hub).symm

/-- Two hubs have issued the same token. -/
def matched : Hubs Unit :=
  (((create {}).1.create.1.subscribe 0 ⟨1⟩ ⟨(), []⟩).1.subscribe 1 ⟨2⟩ ⟨(), []⟩).1

/-- The first of the two guards is dropped, and another one comes. -/
def crossed : Hubs Unit := ((matched.drop ⟨0, 0⟩).subscribe 0 ⟨3⟩ ⟨(), []⟩).1

/-- What has been subscribed by then. -/
def crossedDeeds : List (Deed Unit) :=
  [.subscribed ⟨0, 0⟩ ⟨1⟩ ⟨(), []⟩, .subscribed ⟨1, 0⟩ ⟨2⟩ ⟨(), []⟩,
    .subscribed ⟨0, 1⟩ ⟨3⟩ ⟨(), []⟩]

theorem trail_crossed :
    Trail id (({} : Hubs Unit), []) crossedDeeds (crossed, [⟨0, 1⟩, ⟨1, 0⟩]) := by
  have hcreate : Trail id (({} : Hubs Unit), []) [] ((create {}).1.create.1, []) :=
    ((Trail.refl _).tail (.create {} ([] : List Guard))).tail (.create _ _)
  have hfirst := hcreate.tail
    (.subscribe _ _ [⟨0, 0⟩] 0 ⟨1⟩ ⟨(), []⟩ ⟨0, 0⟩ [] (.refl _) rfl (.refl _))
  have hmatched : Trail id (({} : Hubs Unit), []) _ (matched, [⟨0, 0⟩, ⟨1, 0⟩]) := hfirst.tail
    (.subscribe _ _ _ 1 ⟨2⟩ ⟨(), []⟩ ⟨1, 0⟩ [⟨0, 0⟩] (.refl _) rfl (.swap _ _ _))
  have hdrop := hmatched.tail (.drop _ _ [⟨1, 0⟩] ⟨0, 0⟩ (.refl _))
  have hsub : ((matched.drop ⟨0, 0⟩).subscribe 0 ⟨3⟩ ⟨(), []⟩).2 = some ⟨0, 1⟩ := by cbv
  exact hdrop.tail (.subscribe _ _ _ 0 ⟨3⟩ ⟨(), []⟩ ⟨0, 1⟩ [⟨1, 0⟩] (.refl _) hsub (.refl _))

/-- The law after this. -/
theorem ledger_law_crossed :
    Trail id (({} : Hubs Unit), []) crossedDeeds (crossed, [⟨0, 1⟩, ⟨1, 0⟩]) ∧
      LedgerLaw id (crossed, [⟨0, 1⟩, ⟨1, 0⟩]) crossedDeeds :=
  ⟨trail_crossed, ledger_law rfl trail_crossed⟩

end ResultsBoard.Resize.Hubs
