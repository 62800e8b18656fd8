import ResultsBoard.Proofs.Resize.Keeping
import ResultsBoard.Proofs.Resize.Round

/-!
# Guards that are dropped in vain

The drop of a guard (`ResizeSubscription::drop`) ends its subscription, and so do the drops at the
end of a round that was still running the callback which owned the guards. Only a guard that is
dropped because the end of another subscription of the same hub frees its owner ends nothing: its
callback stays registered for good.

* `ended_of_not_busy`: every other drop ends the subscription, whatever the state.
* `burden`: the guards that the drop of a guard leaves behind in this way.
* `DropLaw`, `drop_law`: after every run on one hub, the registered callbacks are those whose guards
  are alive and those whose guards strayed. They are exactly the former if no burden was ever freed.
* `more_subscribers_than_guards`: such a burden exists, and leaves a subscriber without a guard.
-/

namespace ResultsBoard.Resize

namespace Hubs

variable {β τ : Type} {w : Hubs β} {guard : Guard}

/-! ## Drops that end a subscription -/

theorem release_cons (w : Hubs β) (drop : Drop) (rest : List Drop) :
    w.release (drop :: rest) =
      match w.registryOf drop.guard.hub with
      | none => w.release rest
      | some r =>
        if drop.guard.hub ∈ drop.busy then w.release rest
        else
          match r.find? drop.guard.token with
          | none => w.release rest
          | some s =>
            (w.unsubscribe drop.guard r s).1.release ((w.unsubscribe drop.guard r s).2.map
              (fun guard => ⟨drop.guard.hub :: drop.busy, guard⟩) ++ rest) := by
  rw [release]
  split
  · rename_i hr
    rw [hr]
  · rename_i r hr
    rw [hr]
    dsimp only
    split
    · rfl
    · split
      · rename_i hs
        rw [hs]
      · rename_i s hs
        rw [hs]

/-- Drops only end subscriptions. -/
theorem registers_of_release {hub token : Nat} (drops : List Drop)
    (h : (w.release drops).registers hub token = true) : w.registers hub token = true := by
  fun_induction release w drops with
  | case1 w => exact h
  | case2 w drop rest hr ih => exact ih h
  | case3 w drop rest r hr hbusy ih => exact ih h
  | case4 w drop rest r hr hbusy hs ih => exact ih h
  | case5 w drop rest r hr hbusy s hs freed ih =>
    obtain ⟨r', hr', hmem⟩ := registers_iff.mp (ih h)
    rw [registryOf_congr (hubs_unsubscribe w drop.guard r s)] at hr'
    by_cases hhub : drop.guard.hub = hub
    · subst hhub
      rw [registryOf_setRegistry hr] at hr'
      obtain rfl := Option.some.inj hr'
      rw [Registry.tokens_remove] at hmem
      exact registers_iff.mpr ⟨r, hr, (List.mem_filter.mp hmem).1⟩
    · rw [registryOf_setRegistry_of_ne hhub] at hr'
      exact registers_iff.mpr ⟨r', hr', hmem⟩

theorem not_registers_release {hub token : Nat} (drops : List Drop)
    (h : w.registers hub token = false) : (w.release drops).registers hub token = false := by
  by_contra hback
  rw [registers_of_release drops (by simpa using hback)] at h
  cases h

/-- **A drop ends the subscription of its guard**, unless its hub is busy. -/
theorem ended_of_not_busy (drops : List Drop) :
    ∀ drop ∈ drops, drop.guard.hub ∉ drop.busy →
      (w.release drops).registers drop.guard.hub drop.guard.token = false := by
  fun_induction release w drops with
  | case1 w => exact fun _ hmem => absurd hmem List.not_mem_nil
  | case2 w drop rest hr ih =>
    intro other hmem hfree
    rcases List.mem_cons.mp hmem with rfl | hmem
    · refine not_registers_release rest ?_
      unfold registers
      rw [hr]
    · exact ih other hmem hfree
  | case3 w drop rest r hr hbusy ih =>
    intro other hmem hfree
    rcases List.mem_cons.mp hmem with rfl | hmem
    · exact absurd hbusy hfree
    · exact ih other hmem hfree
  | case4 w drop rest r hr hbusy hs ih =>
    intro other hmem hfree
    rcases List.mem_cons.mp hmem with rfl | hmem
    · refine not_registers_release rest ?_
      simp [registers, hr, Registry.contains, hs]
    · exact ih other hmem hfree
  | case5 w drop rest r hr hbusy s hs freed ih =>
    intro other hmem hfree
    rcases List.mem_cons.mp hmem with rfl | hmem
    · exact not_registers_release _ (not_registers_unsubscribe hr)
    · exact ih other (List.mem_append_right _ hmem) hfree

/-- So does every drop while no hub is in the middle of a change. -/
theorem not_registers_dropAll {dropped : List Guard} (hmem : guard ∈ dropped) :
    (w.dropAll dropped).registers guard.hub guard.token = false :=
  ended_of_not_busy _ ⟨[], guard⟩ (List.mem_map_of_mem hmem) List.not_mem_nil

/-! ## Drops that leave guards behind -/

/-- What a callback owns that is freed by the drop of its guard. It is not freed while some round
is running it. -/
def burden (w : Hubs β) (guard : Guard) : List Guard :=
  match w.registryOf guard.hub with
  | some r =>
    match r.find? guard.token with
    | some s => if guard ∈ w.running then [] else s.callback.owned
    | none => []
  | none => []

/-- The burdens of some guards that are dropped one after the other. -/
def burdens (w : Hubs β) : List Guard → List Guard
  | [] => []
  | guard :: rest => w.burden guard ++ (w.drop guard).burdens rest

/-- Drops while the hub of the guard is busy do nothing. -/
theorem release_of_busy {drops : List Drop} (hbusy : ∀ drop ∈ drops, drop.guard.hub ∈ drop.busy) :
    w.release drops = w := by
  fun_induction release w drops with
  | case1 w => rfl
  | case2 w drop rest hr ih => exact ih fun d hd => hbusy d (List.mem_cons_of_mem _ hd)
  | case3 w drop rest r hr _ ih => exact ih fun d hd => hbusy d (List.mem_cons_of_mem _ hd)
  | case4 w drop rest r hr hfree hs ih => exact absurd (hbusy drop List.mem_cons_self) hfree
  | case5 w drop rest r hr hfree s hs freed ih =>
    exact absurd (hbusy drop List.mem_cons_self) hfree

/-- What is dropped while its hub is busy strays, if the hub lives. -/
theorem strayed_append_of_busy {drops rest : List Drop}
    (hbusy : ∀ drop ∈ drops, drop.guard.hub ∈ drop.busy)
    (hlive : ∀ drop ∈ drops, ∃ r, w.registryOf drop.guard.hub = some r) :
    w.strayed (drops ++ rest) = drops.map Drop.guard ++ w.strayed rest := by
  induction drops with
  | nil => rfl
  | cons drop drops ih =>
    obtain ⟨r, hr⟩ := hlive drop List.mem_cons_self
    rw [List.cons_append, strayed_of_busy hr (hbusy drop List.mem_cons_self),
      ih (fun d hd => hbusy d (List.mem_cons_of_mem _ hd))
        (fun d hd => hlive d (List.mem_cons_of_mem _ hd))]
    rfl

/-! ### On one hub

All guards are of the hub that is busy, so everything strays that the freed callback owns. -/

theorem unsubscribe_snd {r : Registry (Callback β)} {s : Subscriber (Callback β)} :
    (w.unsubscribe guard r s).2 = if guard ∈ w.running then [] else s.callback.owned := by
  unfold unsubscribe
  exact apply_ite Prod.snd (guard ∈ w.running) _ _

/-- Without a subscription there is nothing to drop. -/
theorem find?_of_not_registers (h : w.registers guard.hub guard.token = false)
    {r : Registry (Callback β)} (hr : w.registryOf guard.hub = some r) :
    r.find? guard.token = none := by
  cases hs : r.find? guard.token with
  | none => rfl
  | some s =>
    rw [registers_iff_find?.mpr ⟨r, s, hr, hs⟩] at h
    cases h

theorem burden_of_not_registers (h : w.registers guard.hub guard.token = false) :
    w.burden guard = [] := by
  unfold burden
  split
  · rename_i r hr
    rw [find?_of_not_registers h hr]
  · rfl

theorem drop_of_not_registers (h : w.registers guard.hub guard.token = false) :
    w.drop guard = w := by
  unfold drop dropAll
  rw [List.map_singleton, release_cons, release]
  split
  · rfl
  · rename_i r hr
    rw [if_neg List.not_mem_nil, find?_of_not_registers h hr]

theorem strayedBy_cons_of_not_registers (h : w.registers guard.hub guard.token = false)
    (rest : List Guard) : w.strayedBy (guard :: rest) = w.strayedBy rest := by
  unfold strayedBy
  rw [List.map_cons, strayed_cons]
  split
  · rfl
  · rename_i r hr
    rw [if_neg List.not_mem_nil, find?_of_not_registers h hr]

/-- The drops that follow the end of a subscription are all in vain. -/
theorem busy_of_lone {r : Registry (Callback β)} {s : Subscriber (Callback β)}
    (hlone : ∀ g ∈ s.callback.owned, g.hub = guard.hub) :
    ∀ drop ∈ (w.unsubscribe guard r s).2.map (fun g => (⟨[guard.hub], g⟩ : Drop)),
      drop.guard.hub ∈ drop.busy := by
  intro drop hmem
  obtain ⟨g, hg, rfl⟩ := List.mem_map.mp hmem
  rw [unsubscribe_snd] at hg
  split at hg
  · exact absurd hg List.not_mem_nil
  · exact List.mem_singleton.mpr (hlone g hg)

section

variable {r : Registry (Callback β)} {s : Subscriber (Callback β)}
  (hr : w.registryOf guard.hub = some r) (hs : r.find? guard.token = some s)
  (hlone : ∀ g ∈ s.callback.owned, g.hub = guard.hub)

include hr hs

theorem burden_of_find? : w.burden guard = (w.unsubscribe guard r s).2 := by
  rw [unsubscribe_snd]
  unfold burden
  rw [hr]
  dsimp only
  rw [hs]

include hlone

theorem drop_of_find? : w.drop guard = (w.unsubscribe guard r s).1 := by
  unfold drop dropAll
  rw [List.map_singleton, release_cons, hr]
  dsimp only
  rw [if_neg List.not_mem_nil, hs]
  dsimp only
  rw [List.append_nil]
  exact release_of_busy (busy_of_lone hlone)

theorem strayedBy_cons_of_find? (rest : List Guard) :
    w.strayedBy (guard :: rest) = w.burden guard ++ (w.drop guard).strayedBy rest := by
  have hlive : ∀ drop ∈ (w.unsubscribe guard r s).2.map (fun g => (⟨[guard.hub], g⟩ : Drop)),
      ∃ after, (w.unsubscribe guard r s).1.registryOf drop.guard.hub = some after := by
    intro drop hmem
    have hhub := busy_of_lone hlone drop hmem
    obtain ⟨g, -, rfl⟩ := List.mem_map.mp hmem
    rw [List.mem_singleton.mp hhub, registryOf_congr (hubs_unsubscribe w guard r s)]
    exact ⟨_, registryOf_setRegistry hr⟩
  rw [drop_of_find? hr hs hlone, burden_of_find? hr hs]
  unfold strayedBy
  rw [List.map_cons, strayed_of_registered hr List.not_mem_nil hs,
    strayed_append_of_busy (busy_of_lone hlone) hlive, List.map_map]
  congr 1
  exact List.map_id _

end

/-- **What strays on one hub** is what callbacks own that are freed by the drop of their guards. -/
theorem strayedBy_eq_burdens {hub : Nat} (hw : w.Sound) (hlone : ∀ g ∈ w.owned, g.hub = hub)
    (dropped : List Guard) (hdropped : ∀ g ∈ dropped, g.hub = hub) :
    w.strayedBy dropped = w.burdens dropped := by
  induction dropped generalizing w with
  | nil => exact strayed_nil w
  | cons guard rest ih =>
    have hrest : ∀ g ∈ rest, g.hub = hub := fun g hg => hdropped g (List.mem_cons_of_mem _ hg)
    unfold burdens
    by_cases hreg : w.registers guard.hub guard.token = true
    · obtain ⟨r, s, hr, hs⟩ := registers_iff_find?.mp hreg
      have howned := owned_unsubscribe hw hr hs
      have hfreed : ∀ g ∈ s.callback.owned, g.hub = guard.hub := by
        intro g hg
        rw [hdropped guard List.mem_cons_self]
        obtain ⟨x, hx, -, rfl⟩ := registryOf_eq_some.mp hr
        refine hlone g (List.mem_append_left _ (List.mem_flatMap.mpr ⟨x, ?_, ?_⟩))
        · exact List.mem_of_getElem? hx
        · exact List.mem_flatMap.mpr ⟨s, (Registry.mem_subscribers_of_find? hs).1, hg⟩
      rw [strayedBy_cons_of_find? hr hs hfreed, drop_of_find? hr hs hfreed]
      refine congrArg _ (ih ((evolves_unsubscribe hr s).sound hw) (fun g hg => ?_) hrest)
      exact hlone g (howned.mem_iff.mpr (List.mem_append_right _ hg))
    · have hreg : w.registers guard.hub guard.token = false := by simpa using hreg
      rw [strayedBy_cons_of_not_registers hreg, burden_of_not_registers hreg,
        drop_of_not_registers hreg]
      exact ih hw hlone hrest

/-! ## The law -/

/-- **What is registered on one hub** after a run in which the guards `strays` strayed, when its
registry is `r`. -/
structure DropLaw (held : τ → List Guard) (s : Hubs β × τ) (strays : List Guard)
    (r : Registry (Callback β)) : Prop where
  /-- A callback is registered if its guard is alive, and if its guard strayed. -/
  registered : ∀ token, token ∈ r.tokens ↔
    (⟨0, token⟩ : Guard) ∈ alive held s ∨ (⟨0, token⟩ : Guard) ∈ strays
  /-- The guards that strayed have been dropped. -/
  dropped : ∀ guard ∈ strays, guard ∉ alive held s
  /-- The number of subscribers. -/
  size : r.size = (alive held s).length + strays.length
  /-- Every registered callback has a guard exactly if no guard strayed. -/
  exact : (∀ token ∈ r.tokens, (⟨0, token⟩ : Guard) ∈ alive held s) ↔ strays = []
  /-- The drop of a guard ends its subscription. What strays by it is its burden. -/
  drop : ∀ guard ∈ held s.2, (s.1.drop guard).registers 0 guard.token = false ∧
    s.1.strayedBy [guard] = s.1.burden guard
  /-- When a round has run a callback whose subscription is over, the guards that it owns are
  dropped. This ends their subscriptions. What strays by it are their burdens. -/
  leave : ∀ guard, (∀ other ∈ (s.1.finish guard).2,
      (s.1.leave guard).registers 0 other.token = false) ∧
    (s.1.finish guard).1.strayedBy (s.1.finish guard).2 =
      (s.1.finish guard).1.burdens (s.1.finish guard).2
  /-- A round is a run itself. Of the callbacks registered at its beginning it invokes those whose
  guards, when their turn comes, are alive or have strayed, as long as the hub lives. -/
  rounds : ∀ invoke, (∀ guard s, ∃ more, Run held s more (invoke guard s)) →
    (∃ more, Run held s more (broadcast 0 invoke s).1) ∧ ∃ fired : List Nat,
      broadcast 0 (noting invoke) (s.1, s.2, []) =
        (((broadcast 0 invoke s).1.1, (broadcast 0 invoke s).1.2, fired.map (Guard.mk 0)),
          (broadcast 0 invoke s).2) ∧
      (∀ token ∈ fired, token ∈ r.tokens) ∧
      ∀ before token after, r.tokens = before ++ token :: after →
        ∃ more, Run held s more (midway 0 invoke before s) ∧
          (token ∈ fired ↔ (∃ r', (midway 0 invoke before s).1.registryOf 0 = some r') ∧
            ((⟨0, token⟩ : Guard) ∈ alive held (midway 0 invoke before s) ∨
              (⟨0, token⟩ : Guard) ∈ strays ++ more))

variable {held : τ → List Guard} {s : Hubs β × τ} {strays : List Guard}
  {r : Registry (Callback β)}

/-- On one hub the registered tokens are those of all guards. -/
theorem Balanced.perm_tokens {guards : List Guard} (hb : w.Balanced guards)
    (hone : w.hubs.length = 1) (hr : w.registryOf 0 = some r) :
    (r.tokens.map (Guard.mk 0)).Perm guards := by
  have hordered := hb.tidy.sound.ordered hr
  have hinj : Function.Injective (Guard.mk 0) := fun _ _ h => congrArg Guard.token h
  refine (List.perm_ext_iff_of_nodup (hordered.nodup.map hinj) hb.once).mpr ?_
  rintro ⟨hub, token⟩
  constructor
  · intro hmem
    obtain ⟨t, ht, heq⟩ := List.mem_map.mp hmem
    rw [← heq]
    exact (hb.registered 0 r hr t).mp ht
  · intro hmem
    obtain rfl : hub = 0 := by
      have hlt : hub < w.hubs.length := hb.made _ hmem
      omega
    exact List.mem_map_of_mem ((hb.registered 0 r hr token).mpr hmem)

/-- A round that has got to some turn is a run. -/
theorem run_midway {invoke : Guard → Hubs β × τ → Hubs β × τ} {hub : Nat}
    (hinvoke : ∀ guard s, ∃ more, Run held s more (invoke guard s))
    (hr : s.1.registryOf hub = some r) (before : List Nat) :
    ∃ more, Run held s more (midway hub invoke before s) := by
  obtain ⟨more, hpass⟩ := run_pass hub hinvoke before (s.1.share hub, s.2)
  exact ⟨more, (Step.share s.1 s.2 hub r hr).run.trans hpass⟩

/-- When a round has got to some turn, what is registered has a guard that is alive or one that has
strayed. -/
theorem registers_midway_iff {start : τ} {invoke : Guard → Hubs β × τ → Hubs β × τ} {hub : Nat}
    (hstart : held start = []) (hs : Run held (({} : Hubs β), start) strays s)
    (hinvoke : ∀ guard s, ∃ more, Run held s more (invoke guard s))
    (hr : s.1.registryOf hub = some r) (before : List Nat) (token : Nat) :
    ∃ more, Run held s more (midway hub invoke before s) ∧
      ((midway hub invoke before s).1.registers hub token = true ↔
        (∃ r', (midway hub invoke before s).1.registryOf hub = some r') ∧
          ((⟨hub, token⟩ : Guard) ∈ alive held (midway hub invoke before s) ∨
            (⟨hub, token⟩ : Guard) ∈ strays ++ more)) := by
  obtain ⟨more, hmid⟩ := run_midway hinvoke hr before
  have hbalanced := (hs.trans hmid).balanced hstart
  refine ⟨more, hmid, registers_iff.trans ?_⟩
  constructor
  · rintro ⟨r', hr', htoken⟩
    exact ⟨⟨r', hr'⟩, List.mem_append.mp ((hbalanced.registered hub r' hr' token).mp htoken)⟩
  · rintro ⟨⟨r', hr'⟩, hguard⟩
    exact ⟨r', hr', (hbalanced.registered hub r' hr' token).mpr (List.mem_append.mpr hguard)⟩

/-- **After every run on one hub the law of drops holds**, as long as the hub lives: the registered
callbacks are exactly those whose guards are alive, but for the guards that strayed. Fewer than
`2 ^ 64` subscriptions are meant: this is how many the counter of a hub can tell apart. -/
theorem drop_law {start : τ} (hstart : held start = [])
    (hs : Run held (({} : Hubs β), start) strays s) (hone : s.1.hubs.length = 1)
    (hr : s.1.registryOf 0 = some r) : DropLaw held s strays r := by
  have hb := hs.balanced hstart
  have hperm := hb.perm_tokens hone hr
  have hmem : ∀ token, token ∈ r.tokens ↔
      (⟨0, token⟩ : Guard) ∈ alive held s ∨ (⟨0, token⟩ : Guard) ∈ strays := fun token =>
    (hb.registered 0 r hr token).trans List.mem_append
  have hdropped : ∀ guard ∈ strays, guard ∉ alive held s := fun guard hstray halive =>
    (List.nodup_append.mp hb.once).2.2 guard halive guard hstray rfl
  have hlone : ∀ guard ∈ alive held s ++ strays, guard.hub = 0 := fun guard hguard => by
    have := hb.made guard hguard
    omega
  have hheld : ∀ guard ∈ held s.2, guard.hub = 0 := fun guard hguard =>
    hlone guard (List.mem_append_left _ (List.mem_append_left _ hguard))
  have howned : ∀ guard ∈ s.1.owned, guard.hub = 0 := fun guard hguard =>
    hlone guard (List.mem_append_left _ (List.mem_append_right _ hguard))
  refine ⟨hmem, hdropped, ?_, ?_, ?_, ?_, ?_⟩
  · have := hperm.length_eq
    rw [List.length_map, List.length_append, Registry.tokens, List.length_map] at this
    exact this
  · constructor
    · intro hall
      refine List.eq_nil_iff_forall_not_mem.mpr fun guard hstray => ?_
      obtain ⟨hub, token⟩ := guard
      obtain rfl : hub = 0 := hlone _ (List.mem_append_right _ hstray)
      exact hdropped _ hstray (hall token ((hmem token).mpr (.inr hstray)))
    · rintro rfl token htoken
      rcases (hmem token).mp htoken with halive | hstray
      · exact halive
      · exact absurd hstray List.not_mem_nil
  · intro guard hguard
    refine ⟨?_, ?_⟩
    · rw [← hheld guard hguard]
      exact not_registers_dropAll List.mem_cons_self
    · have hburden := strayedBy_eq_burdens hb.tidy.sound howned [guard] fun g hg => by
        rw [List.mem_singleton.mp hg]
        exact hheld guard hguard
      rw [hburden, burdens, burdens, List.append_nil]
  · intro guard
    have hfreed := owned_finish hb.tidy guard
    have hlater : ∀ g ∈ (s.1.finish guard).2, g.hub = 0 := fun g hg =>
      howned g (hfreed.mem_iff.mpr (List.mem_append_left _ hg))
    refine ⟨fun other hother => ?_, ?_⟩
    · rw [← hlater other hother]
      exact not_registers_dropAll hother
    · refine strayedBy_eq_burdens (hb.finish guard).tidy.sound (fun g hg => ?_) _ hlater
      exact howned g (hfreed.mem_iff.mpr (List.mem_append_right _ hg))
  · intro invoke hinvoke
    have hnodup := (hb.tidy.sound.ordered hr).nodup
    refine ⟨run_broadcast 0 hinvoke s, firedBy 0 invoke r.tokens s, broadcast_noting hr,
      fun token hfired => (firedBy_sublist 0 invoke s r.tokens).subset hfired,
      fun before token after hsplit => ?_⟩
    obtain ⟨more, hmid, hregisters⟩ := registers_midway_iff hstart hs hinvoke hr before token
    exact ⟨more, hmid, (mem_firedBy_iff hnodup hsplit).trans hregisters⟩

/-- Two callbacks have subscribed, and the second one owns the guard of the first. -/
def hooked : Hubs Unit :=
  (((create {}).1.subscribe 0 ⟨1⟩ ⟨(), []⟩).1.subscribe 0 ⟨2⟩ ⟨(), [⟨0, 0⟩]⟩).1

theorem run_hooked : Run id (({} : Hubs Unit), []) [] (hooked, [⟨0, 1⟩]) := by
  have hcreate : Run id (({} : Hubs Unit), []) [] ((create {}).1, []) :=
    (Step.create {} ([] : List Guard)).run
  have hfirst : Run id (({} : Hubs Unit), []) []
      (((create {}).1.subscribe 0 ⟨1⟩ ⟨(), []⟩).1, [⟨0, 0⟩]) :=
    hcreate.tail (.subscribe _ _ _ 0 ⟨1⟩ ⟨(), []⟩ ⟨0, 0⟩ [] (.refl _) rfl (.refl _))
  exact hfirst.tail
    (.subscribe _ _ _ 0 ⟨2⟩ ⟨(), [⟨0, 0⟩]⟩ ⟨0, 1⟩ [] (.refl _) rfl (.refl _))

/-- The drop of the second guard leaves the first one behind. -/
theorem run_unhooked : Run id (({} : Hubs Unit), []) [⟨0, 0⟩] (hooked.drop ⟨0, 1⟩, []) := by
  have hstrayed : hooked.strayedBy [⟨0, 1⟩] = [⟨0, 0⟩] := by cbv
  have hdrop : Step id (hooked, [⟨0, 1⟩]) [] (hooked.strayedBy [⟨0, 1⟩]) (hooked.drop ⟨0, 1⟩, []) :=
    .drop _ _ _ ⟨0, 1⟩ (.refl _)
  rw [hstrayed] at hdrop
  exact run_hooked.tail hdrop

/-- The law where a guard strayed: one subscriber, and no guard for it. -/
theorem drop_law_unhooked :
    ∃ r, (hooked.drop ⟨0, 1⟩).registryOf 0 = some r ∧ r.tokens = [0] ∧
      DropLaw id (hooked.drop ⟨0, 1⟩, []) [⟨0, 0⟩] r := by
  have htokens : ((hooked.drop ⟨0, 1⟩).registryOf 0).map Registry.tokens = some [0] := by cbv
  have hone : (hooked.drop ⟨0, 1⟩).hubs.length = 1 := by cbv
  obtain ⟨r, hr, htokens⟩ := Option.map_eq_some_iff.mp htokens
  exact ⟨r, hr, htokens, drop_law rfl run_unhooked hone hr⟩

/-- **It is not true that a guard that has been dropped is always unregistered**: after a run on
one hub there may be more subscribers than guards that are alive. -/
theorem more_subscribers_than_guards :
    ¬ ∀ (s : Hubs Unit × List Guard) (strays : List Guard) (r : Registry (Callback Unit)),
      Run id (({} : Hubs Unit), []) strays s → s.1.hubs.length = 1 → s.1.registryOf 0 = some r →
        r.size = (alive id s).length := by
  intro hclaim
  have hsize : ((hooked.drop ⟨0, 1⟩).registryOf 0).map Registry.size = some 1 := by cbv
  have hone : (hooked.drop ⟨0, 1⟩).hubs.length = 1 := by cbv
  have halive : (alive id (hooked.drop ⟨0, 1⟩, ([] : List Guard))).length = 0 := by cbv
  obtain ⟨r, hr, hsize⟩ := Option.map_eq_some_iff.mp hsize
  have := hclaim _ _ r run_unhooked hone hr
  rw [hsize, halive] at this
  cases this

end Hubs

/-- A script that does this. The round at the end invokes the callback whose guard is gone. -/
example : ((Bench.initial.trace [.subscribe "inner" ⟨1⟩ [] 0 [],
    .subscribe "outer" ⟨2⟩ [] 0 ["inner"], .dropSlot "outer", .broadcast]).map fun entry =>
      (entry.1, entry.2.live?, entry.2.2.records)) =
    [(.flag false, some 1, []), (.flag false, some 2, []), (.flag true, some 1, []),
      (.count 1, some 1, [.fired "inner"])] := by
  cbv

end ResultsBoard.Resize
