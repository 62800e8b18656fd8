import ResultsBoard.Resize.Registry

/-!
# Hubs and guards

Several handles may share one hub; the hub lives as long as it has one. Subscribing gives a
guard, and dropping the guard ends the subscription, if the hub still lives. A callback may own
guards of other subscriptions. They are dropped when the callback is freed, which happens when it
is no longer registered and no round of notifications is running it.

A registry cannot be changed while it is being changed: a guard that is dropped because the end
of another subscription of the same hub has just freed its owner ends nothing. Such a drop carries
the hubs in the middle of a change, its `busy` hubs.
-/

namespace ResultsBoard.Resize

/-- The right to end the subscription under a token of a hub (`ResizeSubscription`). -/
structure Guard where
  hub : Nat
  token : Nat
  deriving DecidableEq, Repr

/-- A callback: what it does, and the guards that it owns. -/
structure Callback (β : Type) where
  behaviour : β
  owned : List Guard

/-- A hub (`ResizeHub`): how many handles it has, and its registry. -/
structure Hub (β : Type) where
  handles : Nat
  registry : Registry (Callback β)

/-- All hubs, numbered in the order of their creation. -/
structure Hubs (β : Type) where
  hubs : List (Hub β) := []
  /-- The callbacks that some round of notifications is running, the innermost first. -/
  running : List Guard := []
  /-- The callbacks whose subscription ended while they were running, with what they own. -/
  detached : List (Guard × List Guard) := []
  /-- The log lines so far. -/
  log : List LogLine := []

/-- The drop of a guard that is still to be done, with the hubs in the middle of a change. -/
structure Drop where
  busy : List Nat
  guard : Guard

namespace Hubs

variable {β : Type}

/-- The registry of a living hub. -/
def registryOf (w : Hubs β) (hub : Nat) : Option (Registry (Callback β)) :=
  match w.hubs[hub]? with
  | some h => if 0 < h.handles then some h.registry else none
  | none => none

/-- Replace the registry of a hub. -/
def setRegistry (w : Hubs β) (hub : Nat) (r : Registry (Callback β)) : Hubs β :=
  { w with hubs := w.hubs.modify hub fun h => { h with registry := r } }

/-- The number of subscribers of all hubs. -/
def total (w : Hubs β) : Nat := (w.hubs.flatMap fun h => h.registry.subscribers).length

/-- The number of subscribers of a living hub (`ResizeHub::len`). -/
def live? (w : Hubs β) (hub : Nat) : Option Nat := (w.registryOf hub).map Registry.size

/-- Add a log line. -/
def say (w : Hubs β) (line : LogLine) : Hubs β := { w with log := w.log ++ [line] }

/-- Register a callback with a living hub (`ResizeHub::subscribe`). Gives the guard of the
subscription. -/
def subscribe (w : Hubs β) (hub : Nat) (plot : PlotId) (callback : Callback β) :
    Hubs β × Option Guard :=
  match w.registryOf hub with
  | some r =>
    let after := r.subscribe plot callback
    ((w.setRegistry hub after).say (Registry.subscribedLine plot after.size),
      some ⟨hub, r.nextToken⟩)
  | none => (w, none)

/-- Strike a subscriber out of the registry of its hub. Gives the guards to be dropped because
the callback is freed: those that it owns, unless some round is running it, in which case they
are put aside. -/
def unsubscribe (w : Hubs β) (guard : Guard) (r : Registry (Callback β))
    (s : Subscriber (Callback β)) : Hubs β × List Guard :=
  let after := r.remove guard.token
  let w := (w.setRegistry guard.hub after).say (Registry.unsubscribedLine s.plot after.size)
  if guard ∈ w.running then
    ({ w with detached := w.detached ++ [(guard, s.callback.owned)] }, [])
  else (w, s.callback.owned)

/-- A hub with fewer subscribers makes fewer in all. -/
theorem total_modify_lt {w : Hubs β} {hub : Nat} {h : Hub β} (hh : w.hubs[hub]? = some h)
    {f : Hub β → Hub β} (hlt : (f h).registry.size < h.registry.size) :
    ({ w with hubs := w.hubs.modify hub f } : Hubs β).total < w.total := by
  obtain ⟨hhub, rfl⟩ := List.getElem?_eq_some_iff.mp hh
  have hsplit : w.hubs = w.hubs.take hub ++ w.hubs[hub] :: w.hubs.drop (hub + 1) := by
    rw [List.getElem_cons_drop, List.take_append_drop]
  unfold total
  conv => rhs; rw [hsplit]
  rw [List.modify_eq_take_cons_drop hhub]
  simp only [List.flatMap_append, List.flatMap_cons, List.length_append]
  unfold Registry.size at hlt
  omega

/-- The end of a subscription leaves fewer subscribers. -/
theorem total_unsubscribe_lt {w : Hubs β} {guard : Guard} {r : Registry (Callback β)}
    {s : Subscriber (Callback β)} (hr : w.registryOf guard.hub = some r)
    (hs : r.find? guard.token = some s) : (w.unsubscribe guard r s).1.total < w.total := by
  have hlt := Registry.size_remove_lt hs
  unfold registryOf at hr
  split at hr
  · rename_i h hh
    split at hr
    · obtain rfl := Option.some.inj hr
      have htotal : (w.setRegistry guard.hub (h.registry.remove guard.token)).total < w.total :=
        total_modify_lt hh hlt
      unfold unsubscribe
      simp only
      split <;> exact htotal
    · cases hr
  · cases hr

/-- Do the given drops in order (`ResizeSubscription::drop`). A drop of a guard whose hub is gone or
busy does nothing, and so does one whose token is not registered. Any other ends the subscription,
and if that frees the callback, the guards that it owns are dropped next, while the hub is busy. -/
def release (w : Hubs β) : List Drop → Hubs β
  | [] => w
  | drop :: rest =>
    match _hr : w.registryOf drop.guard.hub with
    | none => w.release rest
    | some r =>
      if drop.guard.hub ∈ drop.busy then w.release rest
      else
        match hs : r.find? drop.guard.token with
        | none => w.release rest
        | some s =>
          let freed := (w.unsubscribe drop.guard r s).2
          (w.unsubscribe drop.guard r s).1.release
            (freed.map (fun guard => ⟨drop.guard.hub :: drop.busy, guard⟩) ++ rest)
termination_by drops => (w.total, drops.length)
decreasing_by
  · exact Prod.Lex.right _ (by simp)
  · exact Prod.Lex.right _ (by simp)
  · exact Prod.Lex.right _ (by simp)
  · exact Prod.Lex.left _ _ (total_unsubscribe_lt _hr hs)

/-- Drop guards while no hub is in the middle of a change. -/
def dropAll (w : Hubs β) (guards : List Guard) : Hubs β :=
  w.release (guards.map fun guard => ⟨[], guard⟩)

/-- Drop a guard while no hub is in the middle of a change. -/
def drop (w : Hubs β) (guard : Guard) : Hubs β := w.dropAll [guard]

/-- A new hub with one handle. Gives its number. -/
def create (w : Hubs β) : Hubs β × Nat :=
  ({ w with hubs := w.hubs ++ [⟨1, {}⟩] }, w.hubs.length)

/-- One more handle of a hub. -/
def share (w : Hubs β) (hub : Nat) : Hubs β :=
  { w with hubs := w.hubs.modify hub fun h => { h with handles := h.handles + 1 } }

/-- Take a handle away. A hub without handles is gone. Gives the guards to be dropped because its
callbacks are freed, in the order of their tokens: those that they own. -/
def loseHandle (w : Hubs β) (hub : Nat) : Hubs β × List Guard :=
  let w := { w with hubs := w.hubs.modify hub fun h => { h with handles := h.handles - 1 } }
  match w.hubs[hub]? with
  | some h =>
    if h.handles = 0 then
      (w.setRegistry hub { h.registry with subscribers := [] },
        h.registry.subscribers.flatMap fun s => s.callback.owned)
    else (w, [])
  | none => (w, [])

/-- One handle less. If it was the last one, the guards that the callbacks of the hub own are
dropped. -/
def unshare (w : Hubs β) (hub : Nat) : Hubs β :=
  let (w, freed) := w.loseHandle hub
  w.dropAll freed

/-- A round begins to run the callback under a token. -/
def enter (w : Hubs β) (guard : Guard) : Hubs β := { w with running := guard :: w.running }

/-- A round is done with the callback under a token. Gives the guards to be dropped because the
callback is freed: those that it owns, if its subscription ended meanwhile and no other round is
running it. -/
def finish (w : Hubs β) (guard : Guard) : Hubs β × List Guard :=
  let w := { w with running := w.running.erase guard }
  match w.detached.lookup guard with
  | some owned =>
    if guard ∈ w.running then (w, [])
    else ({ w with detached := w.detached.filter fun d => d.1 ≠ guard }, owned)
  | none => (w, [])

/-- A round has run the callback under a token. If that frees the callback, the guards that it
owns are dropped. -/
def leave (w : Hubs β) (guard : Guard) : Hubs β :=
  let (w, freed) := w.finish guard
  w.dropAll freed

/-- Whether a token of a hub is registered. -/
def registers (w : Hubs β) (hub token : Nat) : Bool :=
  match w.registryOf hub with
  | some r => r.contains token
  | none => false

end Hubs

/-- The turn of a token in a round: its callback is run. It may do anything to the hubs and to the
rest of the state. -/
def turn {β τ : Type} (hub : Nat) (invoke : Guard → Hubs β × τ → Hubs β × τ) (token : Nat)
    (s : Hubs β × τ) : Hubs β × τ :=
  let guard : Guard := ⟨hub, token⟩
  let s := invoke guard (s.1.enter guard, s.2)
  (s.1.leave guard, s.2)

/-- Notify the subscribers of a hub (`ResizeHub::broadcast`): one round over the tokens registered
at its start. `invoke` runs the callback with a token. The round holds a handle of the hub. Gives
how many callbacks this round invoked. -/
def broadcast {β τ : Type} (hub : Nat) (invoke : Guard → Hubs β × τ → Hubs β × τ)
    (s : Hubs β × τ) : (Hubs β × τ) × Option Nat :=
  match s.1.registryOf hub with
  | none => (s, none)
  | some r =>
    let (s, count) := pass (fun s token => s.1.registers hub token) (turn hub invoke) r.tokens
      (s.1.share hub, s.2)
    ((s.1.unshare hub, s.2), some count)

end ResultsBoard.Resize
