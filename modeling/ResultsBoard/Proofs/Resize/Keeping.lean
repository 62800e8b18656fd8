import ResultsBoard.Proofs.Resize.Ownership

/-!
# Programs that keep their guards

A program holds guards in its own state. It may move them into the callback of a new subscription,
and it may drop them, but it cannot copy them or make them up. `Run` is a course of events of such
a program. It comes with the guards that strayed on the way: they have been dropped, but their
subscriptions go on.

* `Step`: what such a program may do. It comes with its `Deed`s as well, which tell what it does to
  the registries.
* `run_broadcast`: a round of notifications is a run if every callback is.
* `Run.balanced`: after a run, the guards that are alive and those that strayed are in balance with
  the registered tokens.
-/

namespace ResultsBoard.Resize.Hubs

variable {β τ : Type} (held : τ → List Guard)

/-- The guards that are alive: those that the program holds and those that callbacks own. -/
def alive (s : Hubs β × τ) : List Guard := held s.2 ++ s.1.owned

/-- What a run does to the registries, but for the end of subscriptions. -/
inductive Deed (β : Type) where
  /-- A callback has subscribed for a plot, and this is its guard. -/
  | subscribed (guard : Guard) (plot : PlotId) (callback : Callback β)
  /-- The callback under a guard has changed. -/
  | retuned (guard : Guard) (f : Callback β → Callback β)

/-- What a program may do next that keeps its guards, what it does to the registries by it, and
which guards stray. The guards that it holds are `held`. -/
inductive Step : Hubs β × τ → List (Deed β) → List Guard → Hubs β × τ → Prop
  | create (w : Hubs β) (t : τ) : Step (w, t) [] [] (w.create.1, t)
  | share (w : Hubs β) (t : τ) (hub : Nat) (r : Registry (Callback β))
      (hr : w.registryOf hub = some r) : Step (w, t) [] [] (w.share hub, t)
  | unshare (w : Hubs β) (t : τ) (hub : Nat) :
    Step (w, t) [] ((w.loseHandle hub).1.strayedBy (w.loseHandle hub).2) (w.unshare hub, t)
  /-- The guards that the callback is to own are given away, and the new guard is kept. -/
  | subscribe (w : Hubs β) (t t' : τ) (hub : Nat) (plot : PlotId) (callback : Callback β)
      (guard : Guard) (rest : List Guard) (hgive : (held t).Perm (callback.owned ++ rest))
      (hsub : (w.subscribe hub plot callback).2 = some guard)
      (hget : (held t').Perm (guard :: rest)) :
    Step (w, t) [.subscribed guard plot callback] [] ((w.subscribe hub plot callback).1, t')
  | drop (w : Hubs β) (t t' : τ) (guard : Guard) (hgive : (held t).Perm (guard :: held t')) :
    Step (w, t) [] (w.strayedBy [guard]) (w.drop guard, t')
  /-- A callback changes what it is going to do. It cannot give away what it owns. -/
  | retune (w : Hubs β) (t : τ) (hub token : Nat) (r : Registry (Callback β))
      (f : Callback β → Callback β) (hr : w.registryOf hub = some r)
      (hf : ∀ c, (f c).owned = c.owned) :
    Step (w, t) [.retuned ⟨hub, token⟩ f] [] (w.setRegistry hub (r.modify token f), t)
  | enter (w : Hubs β) (t : τ) (guard : Guard) : Step (w, t) [] [] (w.enter guard, t)
  | leave (w : Hubs β) (t : τ) (guard : Guard) :
    Step (w, t) [] ((w.finish guard).1.strayedBy (w.finish guard).2) (w.leave guard, t)
  /-- The rest of the program's state changes. -/
  | note (w : Hubs β) (t t' : τ) (hsame : (held t).Perm (held t')) :
    Step (w, t) [] [] (w, t')

/-- A course of events of a program that keeps its guards, and the guards that stray on the way. -/
inductive Run : Hubs β × τ → List Guard → Hubs β × τ → Prop
  | refl (s : Hubs β × τ) : Run s [] s
  | tail {s s' s'' : Hubs β × τ} {deeds : List (Deed β)} {strays more : List Guard}
      (h : Run s strays s') (hstep : Step held s' deeds more s'') : Run s (strays ++ more) s''

variable {held} {s s' s'' : Hubs β × τ} {deeds : List (Deed β)} {strays more : List Guard}

theorem Step.run (h : Step held s deeds strays s') : Run held s strays s' := .tail (.refl s) h

theorem Run.trans (h : Run held s strays s') (h' : Run held s' more s'') :
    Run held s (strays ++ more) s'' := by
  induction h' with
  | refl =>
    rw [List.append_nil]
    exact h
  | tail _ hstep ih =>
    rw [← List.append_assoc]
    exact ih.tail hstep

theorem Step.course (h : Step held s deeds strays s') : Course s s' := by
  cases h with
  | create w t => exact (Move.create w t).course
  | share w t hub r hr => exact (Move.share w t hub).course
  | unshare w t hub => exact (Move.unshare w t hub).course
  | subscribe w t t' hub plot callback guard rest hgive hsub hget =>
    exact (Move.subscribe w t hub plot callback).course.trans (Move.note _ t t').course
  | drop w t t' guard hgive => exact (Move.drop w t guard).course.trans (Move.note _ t t').course
  | retune w t hub token r f hr hf => exact (Move.retune w t hub token r f hr).course
  | enter w t guard => exact (Move.enter w t guard).course
  | leave w t guard => exact (Move.leave w t guard).course
  | note w t t' hsame => exact (Move.note w t t').course

/-- To keep the guards is a restriction. -/
theorem Run.course (h : Run held s strays s') : Course s s' := by
  induction h with
  | refl => exact .refl _
  | tail _ hstep ih => exact ih.trans hstep.course

/-! ## Rounds are runs -/

section Rounds

variable {invoke : Guard → Hubs β × τ → Hubs β × τ} (hub : Nat)
  (hinvoke : ∀ guard s, ∃ strays, Run held s strays (invoke guard s))

include hinvoke

theorem run_turn (token : Nat) (s : Hubs β × τ) :
    ∃ strays, Run held s strays (turn hub invoke token s) := by
  obtain ⟨strays, hrun⟩ := hinvoke ⟨hub, token⟩ (s.1.enter ⟨hub, token⟩, s.2)
  have henter : Run held s [] (s.1.enter ⟨hub, token⟩, s.2) := (Step.enter s.1 s.2 _).run
  exact ⟨_, (henter.trans hrun).tail (Step.leave _ _ _)⟩

theorem run_pass (tokens : List Nat) (s : Hubs β × τ) :
    ∃ strays, Run held s strays
      (pass (fun s token => s.1.registers hub token) (turn hub invoke) tokens s).1 := by
  induction tokens generalizing s with
  | nil => exact ⟨[], .refl s⟩
  | cons token rest ih =>
    unfold pass
    split
    · obtain ⟨first, hfirst⟩ := run_turn hub hinvoke token s
      obtain ⟨later, hlater⟩ := ih (turn hub invoke token s)
      exact ⟨_, hfirst.trans hlater⟩
    · exact ih s

/-- **A round of notifications is a run**, if every callback that it may invoke is. -/
theorem run_broadcast (s : Hubs β × τ) :
    ∃ strays, Run held s strays (broadcast hub invoke s).1 := by
  unfold broadcast
  cases hr : s.1.registryOf hub with
  | none => exact ⟨[], .refl s⟩
  | some r =>
    have hshare : Run held s [] (s.1.share hub, s.2) := (Step.share s.1 s.2 hub r hr).run
    obtain ⟨strays, hpass⟩ := run_pass hub hinvoke r.tokens (s.1.share hub, s.2)
    exact ⟨_, (hshare.trans hpass).tail (Step.unshare _ _ hub)⟩

end Rounds

/-! ## Runs keep the balance -/

/-- Some of the guards are dropped, the others are kept or owned. -/
theorem Balanced.settle {w : Hubs β} {before dropped kept : List Guard}
    (hb : w.Balanced (before ++ strays)) (hsplit : before.Perm (dropped ++ (kept ++ w.owned))) :
    (w.dropAll dropped).Balanced
      (kept ++ (w.dropAll dropped).owned ++ (strays ++ w.strayedBy dropped)) := by
  have hturned : (before ++ strays).Perm (dropped ++ (w.owned ++ (kept ++ strays))) := by
    refine List.perm_iff_count.mpr fun g => ?_
    have := hsplit.count_eq g
    simp only [List.count_append] at this ⊢
    omega
  refine (hb.perm hturned).dropAll.perm (List.perm_iff_count.mpr fun g => ?_)
  simp only [List.count_append]
  omega

theorem Step.balanced (h : Step held s deeds more s')
    (hb : s.1.Balanced (alive held s ++ strays)) :
    s'.1.Balanced (alive held s' ++ (strays ++ more)) := by
  unfold alive at hb ⊢
  cases h with
  | create w t =>
    rw [List.append_nil, owned_create]
    exact hb.create
  | share w t hub r hr =>
    rw [List.append_nil]
    exact (hb.share hr).perm (((owned_share hr).symm.append_left _).append_right _)
  | unshare w t hub =>
    refine (hb.loseHandle hub).settle ?_
    exact ((owned_loseHandle w hub).append_left _).trans (List.perm_append_comm_assoc _ _ _)
  | subscribe w t t' hub plot callback guard rest hgive hsub hget =>
    refine (hb.subscribe hsub).perm (List.perm_iff_count.mpr fun g => ?_)
    have hgiven := hgive.count_eq g
    have hgot := hget.count_eq g
    have howned := (owned_subscribe hsub).count_eq g
    simp only [List.count_append, List.count_cons, List.count_nil] at hgiven hgot howned ⊢
    omega
  | drop w t t' guard hgive =>
    exact hb.settle (hgive.append_right _)
  | retune w t hub token r f hr hf =>
    rw [List.append_nil]
    exact (hb.retune hr).perm (((owned_retune hr hf).symm.append_left _).append_right _)
  | enter w t guard =>
    rw [List.append_nil]
    exact hb.enter guard
  | leave w t guard =>
    refine (hb.finish guard).settle ?_
    exact ((owned_finish hb.tidy guard).append_left _).trans (List.perm_append_comm_assoc _ _ _)
  | note w t t' hsame =>
    rw [List.append_nil]
    exact hb.perm ((hsame.append_right _).append_right _)

theorem balanced_empty : ({} : Hubs β).Balanced [] where
  tidy := ⟨fun _ hmem => absurd hmem List.not_mem_nil, List.nodup_nil,
    fun _ hmem => absurd hmem List.not_mem_nil⟩
  once := List.nodup_nil
  made _ hmem := absurd hmem List.not_mem_nil
  registered hub r hr token := by
    obtain ⟨x, hx, -, -⟩ := registryOf_eq_some.mp hr
    cases hx

/-- **After a run that begins without hubs and guards**, a living hub has registered the tokens of
its guards that are alive, those of its guards that strayed, and no others. -/
theorem Run.balanced {start : τ} (hstart : held start = [])
    (h : Run held (({} : Hubs β), start) strays s) : s.1.Balanced (alive held s ++ strays) := by
  induction h with
  | refl =>
    unfold alive
    rw [hstart]
    exact balanced_empty
  | tail _ hstep ih => exact hstep.balanced ih

end ResultsBoard.Resize.Hubs
