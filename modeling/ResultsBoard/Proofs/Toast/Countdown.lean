import Mathlib.Data.List.Induction
import ResultsBoard.Toast

/-!
# The countdown of the toast

Parts of the board hold handles of one toast (`GlobalState`); a handle can be copied, and everything
is done through some handle. A history is a list of operations through handles, with time passing
between them.

* `Shared`, `run`: toasts and the handles that refer to them. `run_eq`: in a history all handles
  refer to the same toast, so it does not matter through which one an operation goes.
* `Tracks`: the timers of a toast are no more than the message and when it is due. Every operation
  keeps this, whatever timers have run or been dropped before.
* `Shown`: what a history says about the message. `shown_*`: what one operation more makes of it.
* `countdown_law`: the message on the screen is the last one, if nothing has cleared it and its time
  is not over.
-/

namespace ResultsBoard.Toast

variable {t : Toast} {timeout : UInt32} {message : String} {due : Nat}

/-! ## Histories -/

/-- An operation through a handle, or the passing of time. -/
inductive Op where
  | display (handle : Nat) (message : String)
  | clear (handle : Nat)
  /-- Copy the handle. -/
  | share (handle : Nat)
  | advance (milliseconds : Nat)
  deriving DecidableEq, Repr

/-- The handle that an operation goes through. -/
def Op.handle? : Op → Option Nat
  | display handle _ | clear handle | share handle => some handle
  | advance _ => none

/-- Whether an operation copies a handle. -/
def Op.shares : Op → Bool
  | share _ => true
  | display _ _ | clear _ | advance _ => false

/-- Whether an operation decides which message is shown. -/
def Op.decides : Op → Bool
  | display _ _ | clear _ => true
  | share _ | advance _ => false

/-- Toasts, and handles that refer to them by their numbers. -/
structure Shared where
  toasts : List Toast
  handles : List Nat

namespace Shared

/-- A new toast with one handle. -/
def new (timeout : UInt32) : Shared := ⟨[{ timeout }], [0]⟩

/-- The toast that a handle refers to. -/
def toast? (w : Shared) (handle : Nat) : Option Toast :=
  w.handles[handle]?.bind fun number => w.toasts[number]?

/-- Apply an operation to the toast that a handle refers to. -/
def through (w : Shared) (handle : Nat) (f : Toast → Toast) : Shared :=
  match w.handles[handle]? with
  | none => w
  | some number => { w with toasts := w.toasts.modify number f }

/-- One more handle of the toast that a handle refers to. -/
def share (w : Shared) (handle : Nat) : Shared :=
  match w.handles[handle]? with
  | none => w
  | some number => { w with handles := w.handles ++ [number] }

/-- Carry out an operation. -/
def perform (w : Shared) : Op → Shared
  | .display handle message => w.through handle fun t => t.display message
  | .clear handle => w.through handle clear
  | .share handle => w.share handle
  | .advance milliseconds => { w with toasts := w.toasts.map fun t => t.advance milliseconds }

/-- The toasts and handles after some operations. -/
def run (w : Shared) (ops : List Op) : Shared := ops.foldl perform w

end Shared

/-- The number of handles after some operations. -/
def handlesAfter (ops : List Op) : Nat := 1 + ops.countP Op.shares

/-- Every operation goes through a handle that there is at that time. -/
def Held (ops : List Op) : Prop :=
  ∀ i, ∀ hi : i < ops.length, ∀ handle ∈ ops[i].handle?, handle < handlesAfter (ops.take i)

instance (ops : List Op) : Decidable (Held ops) :=
  inferInstanceAs (Decidable (∀ i, ∀ hi : i < ops.length, ∀ handle ∈ ops[i].handle?,
    handle < handlesAfter (ops.take i)))

/-- The time that has passed. -/
def clock : List Op → Nat
  | [] => 0
  | .advance milliseconds :: rest => milliseconds + clock rest
  | _ :: rest => clock rest

/-- Every passing of time has left the clock below the timeout. -/
def InTime (timeout : UInt32) (ops : List Op) : Prop :=
  ∀ early milliseconds late, ops = early ++ .advance milliseconds :: late →
    clock (early ++ [.advance milliseconds]) < timeout.toNat

/-- **What a history says about the message**: it has been displayed, through some handle, nothing
has been displayed or cleared since, and no passing of time has brought the clock as far as the
timeout past that. -/
def Shown (timeout : UInt32) (ops : List Op) (message : String) : Prop :=
  ∃ before handle after, ops = before ++ .display handle message :: after ∧
    (∀ op ∈ after, op.decides = false) ∧ InTime timeout after

/-! ## Handles -/

/-- What an operation does to the toast that it reaches. -/
def Op.act (t : Toast) : Op → Toast
  | .display _ message => t.display message
  | .clear _ => t.clear
  | .share _ => t
  | .advance milliseconds => t.advance milliseconds

theorem Held.of_concat {ops : List Op} {op : Op} (h : Held (ops ++ [op])) :
    Held ops ∧ ∀ handle ∈ op.handle?, handle < handlesAfter ops := by
  constructor
  · intro i hi handle hhandle
    have hlonger : i < (ops ++ [op]).length := by
      rw [List.length_append]
      omega
    have hlt := h i hlonger handle (by rw [List.getElem_append_left hi]; exact hhandle)
    rwa [List.take_append_of_le_length (Nat.le_of_lt hi)] at hlt
  · intro handle hhandle
    have hlt := h ops.length (by simp) handle (by simpa using hhandle)
    rwa [List.take_left'] at hlt
    rfl

theorem handlesAfter_concat (ops : List Op) (op : Op) :
    handlesAfter (ops ++ [op]) = handlesAfter ops + if op.shares then 1 else 0 := by
  unfold handlesAfter
  rw [List.countP_append, List.countP_singleton, Nat.add_assoc]

/-- A handle that refers to the only toast. -/
theorem Shared.through_eq {count handle : Nat} (h : handle < count) (f : Toast → Toast) :
    (⟨[t], List.replicate count 0⟩ : Shared).through handle f =
      ⟨[f t], List.replicate count 0⟩ := by
  unfold through
  simp [h]

/-- **All handles refer to the same toast**, and every operation reaches it. -/
theorem Shared.run_eq (timeout : UInt32) {ops : List Op} (h : Held ops) :
    (new timeout).run ops =
      ⟨[ops.foldl Op.act { timeout }], List.replicate (handlesAfter ops) 0⟩ := by
  induction ops using List.reverseRecOn with
  | nil => rfl
  | append_singleton ops op ih =>
    obtain ⟨hprev, hhandle⟩ := h.of_concat
    unfold run at ih ⊢
    rw [List.foldl_append, List.foldl_append, ih hprev, handlesAfter_concat]
    cases op with
    | display handle message => exact through_eq (hhandle handle rfl) _
    | clear handle => exact through_eq (hhandle handle rfl) _
    | share handle =>
      have hlt := hhandle handle rfl
      show share _ handle = _
      unfold share
      simp [hlt, Op.act, Op.shares, List.replicate_succ']
    | advance milliseconds => rfl

/-! ## The timers -/

/-- **What the timers of a toast come to**: no message and no timer, or a message and one timer,
which the toast holds. -/
inductive Tracks (t : Toast) : Option (String × Nat) → Prop where
  | hidden (hmessage : t.message = none) (hpending : t.pending = []) : Tracks t none
  | shown (message : String) (due number : Nat) (hmessage : t.message = some message)
      (hheld : t.held = some number) (hpending : t.pending = [⟨number, due⟩]) :
      Tracks t (some (message, due))

variable {shown : Option (String × Nat)}

/-- Whether the timer has run or not, none is left when the toast drops it. -/
theorem Tracks.dropHeld (h : Tracks t shown) : t.dropHeld.pending = [] := by
  unfold Toast.dropHeld
  cases h with
  | hidden _ hpending => rw [hpending]; rfl
  | shown message due number _ hheld hpending => simp [hpending, hheld]

theorem Tracks.display (h : Tracks t shown) (message : String) :
    Tracks (t.display message) (some (message, t.now + t.timeout.toNat)) := by
  refine .shown message _ t.nextTimer rfl rfl ?_
  show t.dropHeld.pending ++ _ = _
  rw [h.dropHeld]
  rfl

theorem Tracks.clear (h : Tracks t shown) : Tracks t.clear none := .hidden rfl h.dropHeld

/-- Time passes: the message goes when it is due, and the timer with it. -/
theorem Tracks.advance (h : Tracks t shown) (milliseconds : Nat) :
    Tracks (t.advance milliseconds)
      (shown.filter fun shown => t.now + milliseconds < shown.2) := by
  unfold Toast.advance
  cases h with
  | hidden hmessage hpending => exact .hidden (by simp [hmessage, hpending]) (by simp [hpending])
  | shown message due number hmessage hheld hpending =>
    by_cases hdue : due ≤ t.now + milliseconds
    · have hover : ¬ t.now + milliseconds < due := Nat.not_lt.mpr hdue
      rw [Option.filter_some, if_neg (by simpa using hover)]
      exact .hidden (by simp [hpending, hdue]) (by simp [hpending, hdue])
    · have hlt : t.now + milliseconds < due := Nat.lt_of_not_le hdue
      rw [Option.filter_some, if_pos (by simpa using hlt)]
      exact .shown message due number (by simp [hpending, hdue, hmessage]) hheld
        (by simp [hpending, hdue])

/-! ## What a history says -/

/-- The message that a history says is shown, and when it is due. -/
def Due (timeout : UInt32) (ops : List Op) (message : String) (due : Nat) : Prop :=
  ∃ before handle after, ops = before ++ .display handle message :: after ∧
    (∀ op ∈ after, op.decides = false) ∧ InTime timeout after ∧
      due = clock before + timeout.toNat

theorem shown_iff (timeout : UInt32) (ops : List Op) (message : String) :
    Shown timeout ops message ↔ ∃ due, Due timeout ops message due := by
  constructor
  · rintro ⟨before, handle, after, heq, hafter, htime⟩
    exact ⟨_, before, handle, after, heq, hafter, htime, rfl⟩
  · rintro ⟨_, before, handle, after, heq, hafter, htime, -⟩
    exact ⟨before, handle, after, heq, hafter, htime⟩

theorem clock_append (first second : List Op) :
    clock (first ++ second) = clock first + clock second := by
  induction first with
  | nil => exact (Nat.zero_add _).symm
  | cons op rest ih =>
    cases op with
    | advance milliseconds =>
      show milliseconds + clock (rest ++ second) = milliseconds + clock rest + clock second
      rw [ih, Nat.add_assoc]
    | _ => exact ih

/-- An item of a list with one more at the end is that one, or it stands before it. -/
theorem cons_split_concat {ops before after : List Op} {op x : Op} :
    ops ++ [op] = before ++ x :: after ↔
      (after = [] ∧ before = ops ∧ x = op) ∨
        ∃ rest, after = rest ++ [op] ∧ ops = before ++ x :: rest := by
  rcases List.eq_nil_or_concat after with rfl | ⟨rest, last, rfl⟩
  · rw [List.append_singleton_inj]
    constructor
    · rintro ⟨rfl, rfl⟩
      exact .inl ⟨rfl, rfl, rfl⟩
    · rintro (⟨-, rfl, rfl⟩ | ⟨rest, hrest, -⟩)
      · exact ⟨rfl, rfl⟩
      · exact absurd hrest (by simp)
  · rw [List.concat_eq_append, ← List.cons_append, ← List.append_assoc,
      List.append_singleton_inj]
    constructor
    · rintro ⟨rfl, rfl⟩
      exact .inr ⟨rest, rfl, rfl⟩
    · rintro (⟨hnil, -, -⟩ | ⟨rest', hrest, hops⟩)
      · exact absurd hnil (by simp)
      · obtain ⟨rfl, rfl⟩ := List.append_singleton_inj.mp hrest
        exact ⟨hops, rfl⟩

theorem inTime_nil (timeout : UInt32) : InTime timeout [] := by
  intro early milliseconds late heq
  exact absurd heq (by simp)

theorem inTime_share {ops : List Op} (handle : Nat) :
    InTime timeout (ops ++ [.share handle]) ↔ InTime timeout ops := by
  constructor
  · intro h early milliseconds late heq
    exact h early milliseconds (late ++ [.share handle])
      (cons_split_concat.mpr (.inr ⟨late, rfl, heq⟩))
  · intro h early milliseconds late heq
    rcases cons_split_concat.mp heq with ⟨-, -, hx⟩ | ⟨rest, -, hops⟩
    · cases hx
    · exact h early milliseconds rest hops

theorem inTime_advance {ops : List Op} (milliseconds : Nat) :
    InTime timeout (ops ++ [.advance milliseconds]) ↔
      InTime timeout ops ∧ clock ops + milliseconds < timeout.toNat := by
  have hclock : clock (ops ++ [.advance milliseconds]) = clock ops + milliseconds :=
    clock_append _ _
  rw [← hclock]
  constructor
  · intro h
    refine ⟨fun early ms late heq => ?_, h ops milliseconds [] rfl⟩
    exact h early ms (late ++ [.advance milliseconds])
      (cons_split_concat.mpr (.inr ⟨late, rfl, heq⟩))
  · rintro ⟨h, hlast⟩ early ms late heq
    rcases cons_split_concat.mp heq with ⟨-, rfl, hx⟩ | ⟨rest, -, hops⟩
    · cases hx
      exact hlast
    · exact h early ms rest hops

theorem due_display {ops : List Op} {handle : Nat} {last : String} :
    Due timeout (ops ++ [.display handle last]) message due ↔
      last = message ∧ clock ops + timeout.toNat = due := by
  constructor
  · rintro ⟨before, other, after, heq, hafter, -, rfl⟩
    rcases cons_split_concat.mp heq with ⟨-, rfl, hx⟩ | ⟨rest, rfl, -⟩
    · cases hx
      exact ⟨rfl, rfl⟩
    · have hidle := hafter (.display handle last)
        (List.mem_append_right _ (List.mem_singleton_self _))
      cases hidle
  · rintro ⟨rfl, rfl⟩
    exact ⟨ops, handle, [], rfl, fun _ hop => absurd hop List.not_mem_nil, inTime_nil timeout, rfl⟩

theorem not_due_clear {ops : List Op} {handle : Nat} :
    ¬ Due timeout (ops ++ [.clear handle]) message due := by
  rintro ⟨before, other, after, heq, hafter, -, -⟩
  rcases cons_split_concat.mp heq with ⟨-, -, hx⟩ | ⟨rest, rfl, -⟩
  · cases hx
  · have hidle := hafter (.clear handle) (List.mem_append_right _ (List.mem_singleton_self _))
    cases hidle

/-- An operation that decides nothing leaves the message with what is in time. -/
theorem due_concat {ops : List Op} {op : Op} (hop : op.decides = false) :
    Due timeout (ops ++ [op]) message due ↔
      ∃ before handle after, ops = before ++ .display handle message :: after ∧
        (∀ op ∈ after, op.decides = false) ∧ InTime timeout (after ++ [op]) ∧
          due = clock before + timeout.toNat := by
  constructor
  · rintro ⟨before, handle, after, heq, hafter, htime, rfl⟩
    rcases cons_split_concat.mp heq with ⟨-, -, hx⟩ | ⟨rest, rfl, hops⟩
    · rw [← hx] at hop
      cases hop
    · exact ⟨before, handle, rest, hops, fun x hx => hafter x (List.mem_append_left _ hx), htime,
        rfl⟩
  · rintro ⟨before, handle, after, hops, hafter, htime, rfl⟩
    refine ⟨before, handle, after ++ [op], cons_split_concat.mpr (.inr ⟨after, rfl, hops⟩), ?_,
      htime, rfl⟩
    intro x hx
    rcases List.mem_append.mp hx with hx | hx
    · exact hafter x hx
    · rw [List.mem_singleton.mp hx]
      exact hop

theorem due_share {ops : List Op} {handle : Nat} :
    Due timeout (ops ++ [.share handle]) message due ↔ Due timeout ops message due := by
  rw [due_concat rfl]
  simp only [inTime_share]
  rfl

theorem due_advance {ops : List Op} {milliseconds : Nat} :
    Due timeout (ops ++ [.advance milliseconds]) message due ↔
      Due timeout ops message due ∧ clock ops + milliseconds < due := by
  rw [due_concat rfl]
  simp only [inTime_advance]
  constructor
  · rintro ⟨before, handle, after, rfl, hafter, ⟨htime, hlt⟩, rfl⟩
    refine ⟨⟨before, handle, after, rfl, hafter, htime, rfl⟩, ?_⟩
    rw [clock_append]
    show clock before + clock after + milliseconds < _
    omega
  · rintro ⟨⟨before, handle, after, rfl, hafter, htime, rfl⟩, hlt⟩
    refine ⟨before, handle, after, rfl, hafter, ⟨htime, ?_⟩, rfl⟩
    rw [clock_append] at hlt
    have hlt' : clock before + clock after + milliseconds < clock before + timeout.toNat := hlt
    omega

/-! ## The law -/

/-- The clock of the toast is that of the history. -/
theorem now_foldl (timeout : UInt32) (ops : List Op) :
    (ops.foldl Op.act { timeout }).now = clock ops ∧
      (ops.foldl Op.act { timeout }).timeout = timeout := by
  induction ops using List.reverseRecOn with
  | nil => exact ⟨rfl, rfl⟩
  | append_singleton ops op ih =>
    rw [List.foldl_append, clock_append]
    cases op with
    | advance milliseconds => exact ⟨congrArg (· + milliseconds) ih.1, ih.2⟩
    | _ => exact ih

/-- **The timers agree with the history**: there is one for the message that is shown, until it is
due. -/
theorem tracks_foldl (timeout : UInt32) (ops : List Op) :
    ∃ shown, Tracks (ops.foldl Op.act { timeout }) shown ∧
      ∀ message due, shown = some (message, due) ↔ Due timeout ops message due := by
  induction ops using List.reverseRecOn with
  | nil =>
    refine ⟨none, .hidden rfl rfl, fun message due => ⟨fun h => absurd h (by simp), ?_⟩⟩
    rintro ⟨before, handle, after, heq, -⟩
    exact absurd heq (by simp)
  | append_singleton ops op ih =>
    obtain ⟨shown, htracks, hshown⟩ := ih
    obtain ⟨hnow, htimeout⟩ := now_foldl timeout ops
    rw [List.foldl_append]
    cases op with
    | display handle last =>
      refine ⟨_, htracks.display last, fun message due => ?_⟩
      rw [due_display, hnow, htimeout, Option.some.injEq, Prod.mk.injEq]
    | clear handle =>
      refine ⟨none, htracks.clear, fun message due => ?_⟩
      exact ⟨fun h => absurd h (by simp), fun h => absurd h not_due_clear⟩
    | share handle =>
      refine ⟨shown, htracks, fun message due => ?_⟩
      rw [due_share, hshown]
    | advance milliseconds =>
      refine ⟨_, htracks.advance milliseconds, fun message due => ?_⟩
      rw [due_advance, ← hshown, hnow, Option.filter_eq_some_iff, decide_eq_true_eq]

/-- **The countdown of the toast.** A toast is made with any timeout and used through any of its
handles. After every history, whichever handle one looks through, the message is the last one
displayed if nothing has been displayed or cleared since and its time is not over, and there is
none otherwise; and there is one timer while there is a message and none otherwise. -/
theorem countdown_law (timeout : UInt32) {ops : List Op} (hheld : Held ops) {handle : Nat}
    (hhandle : handle < handlesAfter ops) :
    ∃ t, ((Shared.new timeout).run ops).toast? handle = some t ∧
      (∀ message, t.message = some message ↔ Shown timeout ops message) ∧
      t.pending.length = if t.message.isSome then 1 else 0 := by
  refine ⟨ops.foldl Op.act { timeout }, ?_, ?_⟩
  · rw [Shared.run_eq timeout hheld]
    simp [Shared.toast?, hhandle]
  · obtain ⟨shown, htracks, hshown⟩ := tracks_foldl timeout ops
    simp only [shown_iff, ← hshown]
    cases htracks with
    | hidden hmessage hpending => simp [hmessage, hpending]
    | shown message due number hmessage hheld hpending =>
      simp [hmessage, hpending]

/-- A newer message through a copied handle: the timer of the first one does not take it away. -/
theorem countdown_law_restarted :
    let ops : List Op := [.display 0 "first", .advance 150, .share 0, .display 1 "second",
      .advance 100]
    Held ops ∧ 1 < handlesAfter ops ∧ Shown 200 ops "second" ∧
      ∃ t, ((Shared.new 200).run ops).toast? 1 = some t ∧ t.message = some "second" ∧
        t.pending.length = 1 := by
  intro ops
  have hheld : Held ops := by decide
  have hcopied : 1 < handlesAfter ops := by decide
  obtain ⟨t, htoast, hmessage, hpending⟩ := countdown_law 200 hheld hcopied
  have hshown : Shown 200 ops "second" := by
    refine ⟨[.display 0 "first", .advance 150, .share 0], 1, [.advance 100], rfl, by decide, ?_⟩
    rw [← List.nil_append [Op.advance 100]]
    exact (inTime_advance 100).mpr ⟨inTime_nil 200, by decide⟩
  have hsecond := (hmessage "second").mpr hshown
  refine ⟨hheld, hcopied, hshown, t, htoast, hsecond, ?_⟩
  rw [hpending, hsecond]
  rfl

end ResultsBoard.Toast
