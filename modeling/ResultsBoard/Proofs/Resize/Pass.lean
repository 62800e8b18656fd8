import Mathlib.Data.List.Nodup
import ResultsBoard.Resize.Registry

/-!
# What a pass invokes

A pass, the loop of `ResizeHub::broadcast`, goes through a snapshot of tokens, and whatever it
invokes may change what is registered.

* `noted` lets a pass write down which tokens it invokes itself; `pass_noted` says that this changes
  nothing else.
* `mem_invoked_iff`: a token of the snapshot is invoked exactly if it is registered when its turn
  comes, that is, after the pass over the tokens before it.
* `pass_of_registered`: a pass that changes nothing about what is registered invokes the whole
  snapshot.
* `pass_rel`: a pass keeps what each of its invocations keeps.
-/

namespace ResultsBoard.Resize

variable {σ : Type} (registered : σ → Nat → Bool) (invoke : Nat → σ → σ)

/-- Invoke, and write down the token. -/
def noted (token : Nat) (s : σ × List Nat) : σ × List Nat := (invoke token s.1, s.2 ++ [token])

/-- The tokens that a pass invokes itself, in order. -/
def invoked (tokens : List Nat) (s : σ) : List Nat :=
  (pass (fun s token => registered s.1 token) (noted invoke) tokens (s, [])).1.2

/-- The state when the turn of the next token comes, after the pass over the tokens before it. -/
def stateAt (before : List Nat) (s : σ) : σ := (pass registered invoke before s).1

theorem pass_nil (s : σ) : pass registered invoke [] s = (s, 0) := rfl

theorem pass_cons (token : Nat) (rest : List Nat) (s : σ) :
    pass registered invoke (token :: rest) s =
      if registered s token then
        ((pass registered invoke rest (invoke token s)).1,
          (pass registered invoke rest (invoke token s)).2 + 1)
      else pass registered invoke rest s := rfl

/-- What has been written down before stays in front. -/
theorem pass_noted_log (tokens : List Nat) (s : σ) (log : List Nat) :
    (pass (fun s token => registered s.1 token) (noted invoke) tokens (s, log)).1.2 =
      log ++ invoked registered invoke tokens s := by
  induction tokens generalizing s log with
  | nil => exact (List.append_nil log).symm
  | cons token rest ih =>
    unfold invoked
    simp only [pass_cons]
    cases registered s token with
    | true =>
      simp only [if_true, noted]
      rw [ih, ih, List.nil_append, List.append_assoc]
    | false =>
      simp only [Bool.false_eq_true, if_false]
      rw [ih]
      rfl

@[simp] theorem invoked_nil (s : σ) : invoked registered invoke [] s = [] := rfl

theorem invoked_cons (token : Nat) (rest : List Nat) (s : σ) :
    invoked registered invoke (token :: rest) s =
      if registered s token then token :: invoked registered invoke rest (invoke token s)
      else invoked registered invoke rest s := by
  unfold invoked
  simp only [pass_cons]
  split
  · simp only [noted]
    rw [pass_noted_log]
    rfl
  · rfl

/-- **Writing down changes nothing**: neither the state nor the count. -/
theorem pass_noted (tokens : List Nat) (s : σ) (log : List Nat) :
    pass (fun s token => registered s.1 token) (noted invoke) tokens (s, log) =
      (((pass registered invoke tokens s).1, log ++ invoked registered invoke tokens s),
        (pass registered invoke tokens s).2) := by
  induction tokens generalizing s log with
  | nil => simp [pass_nil]
  | cons token rest ih =>
    simp only [pass_cons, invoked_cons]
    split
    · simp only [noted]
      rw [ih]
      simp
    · exact ih s log

/-- A pass counts what it invokes. -/
theorem count_pass (tokens : List Nat) (s : σ) :
    (pass registered invoke tokens s).2 = (invoked registered invoke tokens s).length := by
  induction tokens generalizing s with
  | nil => rfl
  | cons token rest ih =>
    simp only [pass_cons, invoked_cons]
    split
    · simp only [List.length_cons]
      rw [ih]
    · exact ih s

theorem invoked_append (first second : List Nat) (s : σ) :
    invoked registered invoke (first ++ second) s =
      invoked registered invoke first s ++
        invoked registered invoke second (stateAt registered invoke first s) := by
  induction first generalizing s with
  | nil => rfl
  | cons token rest ih =>
    unfold stateAt at ih ⊢
    simp only [List.cons_append, invoked_cons, pass_cons]
    split
    · rw [ih, List.cons_append]
    · exact ih s

/-- A pass invokes tokens of its snapshot, in the order of the snapshot. -/
theorem invoked_sublist (tokens : List Nat) (s : σ) :
    (invoked registered invoke tokens s).Sublist tokens := by
  induction tokens generalizing s with
  | nil => exact List.Sublist.slnil
  | cons token rest ih =>
    rw [invoked_cons]
    split
    · exact (ih _).cons_cons token
    · exact (ih s).cons token

/-- **A token is invoked exactly if it is registered when its turn comes.** -/
theorem mem_invoked_iff {before after : List Nat} {token : Nat}
    (hnodup : (before ++ token :: after).Nodup) (s : σ) :
    token ∈ invoked registered invoke (before ++ token :: after) s ↔
      registered (stateAt registered invoke before s) token = true := by
  obtain ⟨-, hafter, hbefore⟩ := List.nodup_append.mp hnodup
  have hnotBefore : token ∉ invoked registered invoke before s := fun hmem =>
    hbefore token ((invoked_sublist registered invoke before s).subset hmem) token
      List.mem_cons_self rfl
  have hnotAfter : ∀ s, token ∉ invoked registered invoke after s := fun s hmem =>
    (List.nodup_cons.mp hafter).1 ((invoked_sublist registered invoke after s).subset hmem)
  rw [invoked_append, List.mem_append, invoked_cons]
  constructor
  · rintro (hmem | hmem)
    · exact absurd hmem hnotBefore
    · split at hmem
      · rename_i hreg
        exact hreg
      · exact absurd hmem (hnotAfter _)
  · intro hreg
    rw [if_pos hreg]
    exact .inr List.mem_cons_self

/-- **A pass that changes nothing about what is registered invokes the whole snapshot**, each token
once and in order. -/
theorem pass_of_registered
    (hkeep : ∀ token s other, registered (invoke token s) other = registered s other)
    (tokens : List Nat) (s : σ) (hreg : ∀ token ∈ tokens, registered s token = true) :
    pass registered invoke tokens s =
        (tokens.foldl (fun s token => invoke token s) s, tokens.length) ∧
      invoked registered invoke tokens s = tokens := by
  induction tokens generalizing s with
  | nil => exact ⟨rfl, rfl⟩
  | cons token rest ih =>
    have hhead := hreg token List.mem_cons_self
    obtain ⟨hpass, hinvoked⟩ := ih (invoke token s) fun other hmem => by
      rw [hkeep]
      exact hreg other (List.mem_cons_of_mem token hmem)
    rw [pass_cons, invoked_cons, if_pos hhead, if_pos hhead, hpass, hinvoked]
    exact ⟨rfl, rfl⟩

/-- A pass is one invocation after another, so it keeps what each of them keeps. -/
theorem pass_rel {R : σ → σ → Prop} (hrefl : ∀ s, R s s)
    (htrans : ∀ {s s' s''}, R s s' → R s' s'' → R s s'')
    (hinvoke : ∀ token s, R s (invoke token s)) (tokens : List Nat) (s : σ) :
    R s (pass registered invoke tokens s).1 := by
  induction tokens generalizing s with
  | nil => exact hrefl s
  | cons token rest ih =>
    rw [pass_cons]
    split
    · exact htrans (hinvoke token s) (ih _)
    · exact ih s

end ResultsBoard.Resize
