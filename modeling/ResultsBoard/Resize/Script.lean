import ResultsBoard.Reply
import ResultsBoard.Resize.Hubs

/-!
# Scripts of hub operations

A bench is a stack of hub handles and a set of named slots for guards. An action works on the top
handle and on the slots; the callback of a subscription is a list of actions, which it runs on its
first firings. Since a callback may notify again, rounds nest; every nested round has used up a
firing of some callback, so `Bench.allowance` bounds how deep they nest.
-/

namespace ResultsBoard.Resize

/-- An operation on a bench. -/
inductive Action where
  /-- Subscribe with the top handle and put the guard into a slot. The callback runs its actions
  on its first `times` firings and owns the guards that were in the slots `owns`. -/
  | subscribe (slot : String) (plot : PlotId) (onFire : List Action) (times : Nat)
      (owns : List String)
  /-- Drop the guard in a slot. -/
  | dropSlot (slot : String)
  /-- Notify with the top handle. -/
  | broadcast
  /-- Count the subscribers of the top handle. -/
  | size
  /-- Push another handle of the hub of the top handle. -/
  | cloneHub
  /-- Push a handle of a new hub. -/
  | newHub
  /-- Drop the top handle. -/
  | dropHub
  deriving Inhabited

/-- The name of an action in a record. -/
def Action.name : Action → String
  | subscribe .. => "subscribe"
  | dropSlot _ => "drop"
  | broadcast => "broadcast"
  | size => "len"
  | cloneHub => "clone_hub"
  | newHub => "new_hub"
  | dropHub => "drop_hub"

/-- What a callback records. -/
inductive Record where
  /-- It was invoked. -/
  | fired (slot : String)
  /-- It has run an action. -/
  | did (action : String) (reply : Reply)
  deriving DecidableEq, Repr

/-- What a callback does: record the slot it was named for, and as long as firings are left, run
its actions. -/
structure Behaviour where
  slot : String
  firings : Nat
  actions : List Action

mutual

/-- A bound for how many firings with actions can come of an action. -/
def Action.weight : Action → Nat
  | .subscribe _ _ onFire times _ => times * (1 + Action.weights onFire)
  | _ => 0

/-- A bound for how many firings with actions can come of some actions. -/
def Action.weights : List Action → Nat
  | [] => 0
  | action :: rest => action.weight + Action.weights rest

end

/-- The handles, the last one on top, the guards in the slots, and the records of the callbacks. -/
structure Desk where
  stack : List Nat := []
  slots : List (String × Guard) := []
  records : List Record := []

/-- The hubs, and what is on the desk. -/
abbrev Bench := Hubs Behaviour × Desk

namespace Desk

/-- Take a guard out of a slot. -/
def take (d : Desk) (slot : String) : Desk × Option Guard :=
  ({ d with slots := d.slots.filter fun s => s.1 ≠ slot }, d.slots.lookup slot)

/-- Take the guards out of some slots; an empty slot gives none. -/
def takeAll (d : Desk) (slots : List String) : Desk × List Guard :=
  slots.foldl (fun (d, guards) slot =>
    let (d, guard) := d.take slot
    (d, guards ++ guard.toList)) (d, [])

/-- Put a guard into a slot. Gives the guard that was there. -/
def put (d : Desk) (slot : String) (guard : Guard) : Desk × Option Guard :=
  let (d, old) := d.take slot
  ({ d with slots := d.slots ++ [(slot, guard)] }, old)

/-- Add a record. -/
def record (d : Desk) (r : Record) : Desk := { d with records := d.records ++ [r] }

end Desk

namespace Bench

/-- A new hub, and a handle of it on the stack. -/
def initial : Bench :=
  let (w, hub) := Hubs.create {}
  (w, { stack := [hub] })

/-- The hub of the top handle. -/
def top? (b : Bench) : Option Nat := b.2.stack.head?

/-- A bound for how many firings with actions the registered callbacks have left. -/
def allowance (b : Bench) : Nat :=
  (b.1.hubs.flatMap fun h => h.registry.subscribers).foldl (fun bound s =>
    bound + s.callback.behaviour.firings * (1 + Action.weights s.callback.behaviour.actions)) 0

/-- Run one action; `notify` notifies the subscribers of a hub. -/
def act (notify : Nat → Bench → Bench × Option Nat) (b : Bench) (action : Action) : Bench × Reply :=
  match action with
  | .dropSlot slot =>
    match b.2.take slot with
    | (desk, some guard) => ((b.1.drop guard, desk), .flag true)
    | (_, none) => (b, .flag false)
  | .newHub =>
    let (w, hub) := b.1.create
    ((w, { b.2 with stack := hub :: b.2.stack }), .count (b.2.stack.length + 1))
  | .dropHub =>
    match b.2.stack with
    | [] => (b, .flag false)
    | hub :: rest => ((b.1.unshare hub, { b.2 with stack := rest }), .flag true)
  | .cloneHub =>
    match b.top? with
    | none => (b, .nothing)
    | some hub =>
      ((b.1.share hub, { b.2 with stack := hub :: b.2.stack }), .count (b.2.stack.length + 1))
  | .size =>
    (b, (b.top?.bind b.1.live?).elim .nothing .count)
  | .broadcast =>
    match b.top? with
    | none => (b, .nothing)
    | some hub =>
      let (b, count) := notify hub b
      (b, count.elim .nothing .count)
  | .subscribe slot plot onFire times owns =>
    match b.top? with
    | none => (b, .nothing)
    | some hub =>
      let (desk, owned) := b.2.takeAll owns
      match b.1.subscribe hub plot ⟨⟨slot, times, onFire⟩, owned⟩ with
      | (w, none) => ((w, desk), .nothing)
      | (w, some guard) =>
        let (desk, old) := desk.put slot guard
        ((w.dropAll old.toList, desk), .flag old.isSome)

/-- Run some actions and record what each of them gave. -/
def actAll (notify : Nat → Bench → Bench × Option Nat) (actions : List Action) (b : Bench) :
    Bench :=
  actions.foldl (fun b action =>
    let (b, reply) := act notify b action
    (b.1, b.2.record (.did action.name reply))) b

/-- The callback with a guard fires. -/
def fire (notify : Nat → Bench → Bench × Option Nat) (guard : Guard) (b : Bench) : Bench :=
  match (b.1.registryOf guard.hub).bind fun r => (r.find? guard.token).map fun s => (r, s) with
  | none => b
  | some (r, s) =>
    let behaviour := s.callback.behaviour
    let b : Bench := (b.1, b.2.record (.fired behaviour.slot))
    match behaviour.firings with
    | 0 => b
    | firings + 1 =>
      let r := r.modify guard.token fun callback =>
        ⟨{ behaviour with firings }, callback.owned⟩
      actAll notify behaviour.actions (b.1.setRegistry guard.hub r, b.2)

/-- Notify the subscribers of a hub, with rounds nested at most `depth` deep. -/
def notify : Nat → Nat → Bench → Bench × Option Nat
  | 0, _, b => (b, none)
  | depth + 1, hub, b => Resize.broadcast hub (fire (notify depth)) b

/-- Run an action of the outermost script. -/
def run (b : Bench) (action : Action) : Bench × Reply :=
  act (notify (b.allowance + 1)) b action

/-- The number of subscribers of the top handle. -/
def live? (b : Bench) : Option Nat := b.top?.bind b.1.live?

/-- The bench with an empty log and no records. -/
def quiet (b : Bench) : Bench := ({ b.1 with log := [] }, { b.2 with records := [] })

/-- Run one action after another. Gives what each of them replied, and the bench after it with the
records and the log of that action alone. -/
def trace (b : Bench) : List Action → List (Reply × Bench)
  | [] => []
  | action :: rest =>
    let (after, reply) := b.quiet.run action
    (reply, after) :: trace after rest

end Bench

end ResultsBoard.Resize
