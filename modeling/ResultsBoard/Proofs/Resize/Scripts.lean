import ResultsBoard.Proofs.Resize.Course
import ResultsBoard.Resize.Script

/-!
# Scripts are courses

Whatever a script does, and whatever the callbacks of a script do when they fire, is a course of
events at the hubs: `course_act` for an action, `course_fire` for a callback, `course_notify` for a
round with the rounds nested in it.
-/

namespace ResultsBoard.Resize.Bench

open Hubs

/-- Any change of the desk. -/
theorem course_desk (w : Hubs Behaviour) (d d' : Desk) : Course (w, d) (w, d') :=
  (Move.note w d d').course

/-- At most one guard is dropped. -/
theorem course_dropAll_toList (w : Hubs Behaviour) (d : Desk) (old : Option Guard) :
    Course (w, d) (w.dropAll old.toList, d) := by
  cases old with
  | none =>
    have hnone : w.dropAll (none : Option Guard).toList = w := by
      unfold dropAll
      rw [Option.toList_none, List.map_nil, release]
    rw [hnone]
    exact .refl _
  | some guard => exact (Move.drop w d guard).course

section

variable {notify : Nat → Bench → Bench × Option Nat}
  (hnotify : ∀ hub b, Course b (notify hub b).1)

include hnotify

theorem course_act (b : Bench) (action : Action) : Course b (act notify b action).1 := by
  unfold act
  split
  · split
    · rename_i desk guard _
      exact (Move.drop b.1 b.2 guard).course.trans (course_desk _ _ desk)
    · exact .refl b
  · exact (Move.create b.1 b.2).course.trans (course_desk _ _ _)
  · split
    · exact .refl b
    · rename_i hub rest _
      exact (Move.unshare b.1 b.2 hub).course.trans (course_desk _ _ _)
  · split
    · exact .refl b
    · rename_i hub _
      exact (Move.share b.1 b.2 hub).course.trans (course_desk _ _ _)
  · exact .refl b
  · split
    · exact .refl b
    · exact hnotify _ b
  · rename_i slot plot onFire times owns
    split
    · exact .refl b
    · rename_i hub _
      -- the guards of the slots change hands, then the callback that owns them subscribes
      have htake := course_desk b.1 b.2 (b.2.takeAll owns).1
      have hsub := (Move.subscribe b.1 (b.2.takeAll owns).1 hub plot
        ⟨⟨slot, times, onFire⟩, (b.2.takeAll owns).2⟩).course
      dsimp only
      split
      · rename_i w heq
        rw [heq] at hsub
        exact htake.trans hsub
      · rename_i w guard heq
        rw [heq] at hsub
        exact ((htake.trans hsub).trans (course_desk w _ _)).trans (course_dropAll_toList w _ _)

theorem course_actAll (actions : List Action) (b : Bench) :
    Course b (actAll notify actions b) := by
  unfold actAll
  induction actions generalizing b with
  | nil => exact .refl b
  | cons action rest ih =>
    rw [List.foldl_cons]
    exact ((course_act hnotify b action).trans (course_desk _ _ _)).trans (ih _)

/-- A callback that fires. -/
theorem course_fire (guard : Guard) (b : Bench) : Course b (fire notify guard b) := by
  unfold fire
  split
  · exact .refl b
  · rename_i r s hfound
    have hr : b.1.registryOf guard.hub = some r := by
      cases hreg : b.1.registryOf guard.hub with
      | none => simp [hreg] at hfound
      | some r' =>
        simp only [hreg, Option.bind_some, Option.map_eq_some_iff, Prod.mk.injEq] at hfound
        obtain ⟨s', -, rfl, -⟩ := hfound
        rfl
    dsimp only
    split
    · exact course_desk b.1 b.2 _
    · have hrecord := course_desk b.1 b.2 (b.2.record (.fired s.callback.behaviour.slot))
      exact (hrecord.trans (Move.retune _ _ _ _ r _ hr).course).trans
        (course_actAll hnotify _ _)

end

/-- A round of notifications with the rounds nested in it. -/
theorem course_notify (depth hub : Nat) (b : Bench) : Course b (notify depth hub b).1 := by
  induction depth generalizing hub b with
  | zero => exact .refl b
  | succ depth ih => exact course_broadcast hub (course_fire ih) b

end ResultsBoard.Resize.Bench
