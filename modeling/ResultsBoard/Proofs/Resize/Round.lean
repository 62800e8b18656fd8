import Mathlib
import ResultsBoard.Proofs.Resize.Pass
import ResultsBoard.Proofs.Resize.Scripts

/-!
# The law of a round of notifications

While a round (`ResizeHub::broadcast`) runs, the callbacks that it invokes may subscribe, drop
guards and start rounds of their own, of the same hub as well. A round goes through the tokens that
were registered when it began, and by what its callbacks do it can only lose some of them.

* `noting`: a round that writes down which callbacks it invokes itself. Rounds that a callback
  starts do not write.
* `RoundLaw` lists what a round does, `round_law` proves it of every round that a program can
  start, whatever its callbacks do.
-/

namespace ResultsBoard.Resize

open Hubs

variable {β τ : Type}

/-- Invoke a callback, and write down its guard. -/
def noting (invoke : Guard → Hubs β × τ → Hubs β × τ) (guard : Guard)
    (s : Hubs β × τ × List Guard) : Hubs β × τ × List Guard :=
  let after := invoke guard (s.1, s.2.1)
  (after.1, after.2, s.2.2 ++ [guard])

/-- The moment in a round when the next turn comes, after the turns of some tokens. -/
def midway (hub : Nat) (invoke : Guard → Hubs β × τ → Hubs β × τ) (before : List Nat)
    (s : Hubs β × τ) : Hubs β × τ :=
  stateAt (fun s token => s.1.registers hub token) (turn hub invoke) before (s.1.share hub, s.2)

/-- **What a round does** that begins with the registry `r` and invokes `fired` itself, in this
order. -/
structure RoundLaw (hub : Nat) (invoke : Guard → Hubs β × τ → Hubs β × τ) (s : Hubs β × τ)
    (r : Registry (Callback β)) (fired : List Nat) : Prop where
  /-- These are the callbacks that the round invokes itself, and to write them down changes
  nothing. -/
  invoked : broadcast hub (noting invoke) (s.1, s.2, []) =
    (((broadcast hub invoke s).1.1, (broadcast hub invoke s).1.2, fired.map (Guard.mk hub)),
      (broadcast hub invoke s).2)
  /-- The round counts them. -/
  counted : (broadcast hub invoke s).2 = some fired.length
  /-- They are invoked in the order of their tokens, each once. -/
  ascending : fired.Pairwise (· < ·)
  /-- All of them were registered at the beginning. -/
  initial : ∀ token ∈ fired, token ∈ r.tokens
  /-- Of the tokens registered at the beginning, those are invoked that are registered when their
  turn comes. -/
  turns : ∀ before token after, r.tokens = before ++ token :: after →
    (token ∈ fired ↔ (midway hub invoke before s).1.registers hub token = true)
  /-- A subscription that has ended at any moment before its turn, by whatever callback or inner
  round, is left out. -/
  removed : ∀ before token after, r.tokens = before ++ token :: after → ∀ x, Course s x →
    Course x (midway hub invoke before s) → x.1.registers hub token = false → token ∉ fired
  /-- A subscription made at any moment after the beginning is not invoked. It is registered from
  then on, and as long as it is, every round begins with it. -/
  added : ∀ x plot callback guard, Course s x →
    (x.1.subscribe hub plot callback).2 = some guard → guard.token ∉ fired ∧
      (x.1.subscribe hub plot callback).1.registers hub guard.token = true ∧
      ∀ y : Hubs β × τ, Course ((x.1.subscribe hub plot callback).1, x.2) y →
        y.1.registers hub guard.token = true →
        ∃ later, y.1.registryOf hub = some later ∧ guard.token ∈ later.tokens
  /-- Every turn comes after the beginning. -/
  midway : ∀ before, Course s (Resize.midway hub invoke before s)
  /-- The round is itself something that a callback may do. -/
  course : Course s (broadcast hub invoke s).1

section

variable {hub : Nat} {invoke : Guard → Hubs β × τ → Hubs β × τ} {s : Hubs β × τ}
  {r : Registry (Callback β)}

/-- The tokens that a round invokes itself. -/
def firedBy (hub : Nat) (invoke : Guard → Hubs β × τ → Hubs β × τ) (tokens : List Nat)
    (s : Hubs β × τ) : List Nat :=
  Resize.invoked (fun s token => s.1.registers hub token) (turn hub invoke) tokens
    (s.1.share hub, s.2)

theorem broadcast_eq (hr : s.1.registryOf hub = some r) :
    broadcast hub invoke s =
      (((midway hub invoke r.tokens s).1.unshare hub, (midway hub invoke r.tokens s).2),
        some (firedBy hub invoke r.tokens s).length) := by
  unfold broadcast
  rw [hr]
  unfold firedBy
  rw [← count_pass]
  rfl

/-- A round that writes takes the same course, and writes what it invokes itself. -/
theorem pass_noting (tokens : List Nat) (w : Hubs β) (t : τ) (log : List Guard) :
    pass (fun s token => s.1.registers hub token) (turn hub (noting invoke)) tokens (w, t, log) =
      ((((stateAt (fun s token => s.1.registers hub token) (turn hub invoke) tokens (w, t)).1,
        (stateAt (fun s token => s.1.registers hub token) (turn hub invoke) tokens (w, t)).2,
        log ++ (Resize.invoked (fun s token => s.1.registers hub token) (turn hub invoke) tokens
          (w, t)).map (Guard.mk hub))),
        (Resize.invoked (fun s token => s.1.registers hub token) (turn hub invoke) tokens
          (w, t)).length) := by
  induction tokens generalizing w t log with
  | nil => simp [pass_nil, stateAt]
  | cons token rest ih =>
    rw [pass_cons, invoked_cons]
    unfold stateAt at ih ⊢
    rw [pass_cons]
    dsimp only
    split
    · have hturn : turn hub (noting invoke) token (w, t, log) =
          ((turn hub invoke token (w, t)).1, (turn hub invoke token (w, t)).2,
            log ++ [⟨hub, token⟩]) := rfl
      rw [hturn, ih]
      simp
    · exact ih w t log

/-- **To write changes nothing**, and what is written is what the round invokes itself. -/
theorem broadcast_noting (hr : s.1.registryOf hub = some r) :
    broadcast hub (noting invoke) (s.1, s.2, []) =
      (((broadcast hub invoke s).1.1, (broadcast hub invoke s).1.2,
        (firedBy hub invoke r.tokens s).map (Guard.mk hub)), (broadcast hub invoke s).2) := by
  rw [broadcast_eq hr]
  unfold broadcast
  rw [hr]
  dsimp only
  rw [pass_noting]
  rfl

/-- A round invokes tokens that were registered at its beginning, in their order. -/
theorem firedBy_sublist (hub : Nat) (invoke : Guard → Hubs β × τ → Hubs β × τ) (s : Hubs β × τ)
    (tokens : List Nat) : (firedBy hub invoke tokens s).Sublist tokens :=
  invoked_sublist _ _ tokens _

/-- A round invokes the tokens that are registered when their turn comes. -/
theorem mem_firedBy_iff {before after : List Nat} {token : Nat} (hnodup : r.tokens.Nodup)
    (hsplit : r.tokens = before ++ token :: after) :
    token ∈ firedBy hub invoke r.tokens s ↔
      (midway hub invoke before s).1.registers hub token = true := by
  unfold firedBy midway
  rw [hsplit] at hnodup ⊢
  exact mem_invoked_iff _ _ hnodup _

/-- Everything up to a turn of a round is a course. -/
theorem course_midway (hinvoke : ∀ guard s, Course s (invoke guard s)) (before : List Nat) :
    Course s (midway hub invoke before s) :=
  (Move.share s.1 s.2 hub).course.trans (course_pass hub hinvoke before _)

end

/-- **The law of a round.** Every round of notifications that a program starts at a living hub
obeys `RoundLaw`, whatever the callbacks do. Fewer than `2 ^ 64` subscriptions are meant: this is
how many the counter of a hub can tell apart. -/
theorem round_law {hub : Nat} {invoke : Guard → Hubs β × τ → Hubs β × τ} {start : τ}
    {s : Hubs β × τ} {r : Registry (Callback β)}
    (hinvoke : ∀ guard s, Course s (invoke guard s))
    (hs : Course (({} : Hubs β), start) s) (hr : s.1.registryOf hub = some r) :
    ∃ fired, RoundLaw hub invoke s r fired := by
  obtain ⟨x₀, hx₀, -, rfl⟩ := registryOf_eq_some.mp hr
  have hordered := hs.sound.ordered hr
  have hsub := firedBy_sublist hub invoke s x₀.registry.tokens
  have hturns : ∀ before token after, x₀.registry.tokens = before ++ token :: after →
      (token ∈ firedBy hub invoke x₀.registry.tokens s ↔
        (midway hub invoke before s).1.registers hub token = true) := fun _ _ _ hsplit =>
    mem_firedBy_iff hordered.nodup hsplit
  refine ⟨firedBy hub invoke x₀.registry.tokens s, broadcast_noting hr, ?_, ?_, ?_, hturns, ?_, ?_,
    course_midway hinvoke, ?_⟩
  · rw [broadcast_eq hr]
  · exact hordered.ascending.sublist hsub
  · exact fun token hmem => hsub.subset hmem
  · intro before token after hsplit x hx hxm hgone hfired
    have hturn := (hturns before token after hsplit).mp hfired
    obtain ⟨y, hy, hlater⟩ := hx.evolves.later hub x₀ hx₀
    have hold : token < y.registry.nextToken := by
      have := hordered.below token (by rw [hsplit]; simp)
      have := hlater.counter
      omega
    rw [hxm.evolves.not_registers (hs.trans hx).sound hy hold hgone] at hturn
    cases hturn
  · intro x plot callback guard hx hsub'
    obtain ⟨r', hr', rfl, hafter⟩ := subscribe_spec hsub'
    obtain ⟨y, hy, -, rfl⟩ := registryOf_eq_some.mp hr'
    refine ⟨fun hfired => ?_, registers_iff.mpr ⟨_, hafter, by simp⟩,
      fun y _ hreg => registers_iff.mp hreg⟩
    have hbelow := hordered.below _ (hsub.subset hfired)
    obtain ⟨y', hy', hlater⟩ := hx.evolves.later hub x₀ hx₀
    rw [hy] at hy'
    obtain rfl := Option.some.inj hy'
    exact absurd hbelow (Nat.not_lt_of_le hlater.counter)
  · exact course_broadcast hub hinvoke s

/-- Three callbacks. The first one, when it fires, drops the guard of the second, subscribes a
fourth and notifies again. -/
def Bench.unrest : Bench :=
  Bench.actAll (Bench.notify 0)
    [.subscribe "a" ⟨1⟩ [.dropSlot "b", .subscribe "d" ⟨4⟩ [] 0 [], .broadcast] 1 [],
      .subscribe "b" ⟨2⟩ [] 0 [], .subscribe "c" ⟨3⟩ [] 0 []] Bench.initial

theorem Bench.course_unrest : Course (({} : Hubs Behaviour), ({} : Desk)) Bench.unrest := by
  have hcreate : Course (({} : Hubs Behaviour), ({} : Desk)) ((create {}).1, {}) :=
    (Move.create {} ({} : Desk)).course
  have hstart : Course ((create {}).1, ({} : Desk)) Bench.initial := Bench.course_desk _ _ _
  exact (hcreate.trans hstart).trans (Bench.course_actAll (Bench.course_notify 0) _ _)

/-- The law at work: the second callback is left out, and the fourth one has to wait. -/
theorem round_law_unrest :
    ∃ r, Bench.unrest.1.registryOf 0 = some r ∧ r.tokens = [0, 1, 2] ∧
      RoundLaw 0 (Bench.fire (Bench.notify 1)) Bench.unrest r [0, 2] := by
  have htokens : (Bench.unrest.1.registryOf 0).map Registry.tokens = some [0, 1, 2] := by cbv
  obtain ⟨r, hr, htokens⟩ := Option.map_eq_some_iff.mp htokens
  obtain ⟨fired, hlaw⟩ :=
    round_law (Bench.course_fire (Bench.course_notify 1)) Bench.course_unrest hr
  have hwritten : (broadcast 0 (noting (Bench.fire (Bench.notify 1)))
      (Bench.unrest.1, Bench.unrest.2, [])).1.2.2 = [⟨0, 0⟩, ⟨0, 2⟩] := by cbv
  rw [hlaw.invoked] at hwritten
  have hfired : fired = [0, 2] := by
    have := congrArg (List.map Guard.token) hwritten
    simpa [List.map_map, Function.comp_def] using this
  exact ⟨r, hr, htokens, hfired ▸ hlaw⟩

end ResultsBoard.Resize
