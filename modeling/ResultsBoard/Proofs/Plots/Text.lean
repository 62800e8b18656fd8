import Mathlib.Data.List.Basic
import ResultsBoard.Plots

/-!
# Ids as texts

The text of an id is its number in decimal, so different ids have different texts. The same holds
of whatever is made of the text and something around it: the elements that the plots draw into, and
the beginnings of their messages.
-/

namespace ResultsBoard.PlotId

variable {a b : PlotId}

theorem toList_text (id : PlotId) : id.text.toList = Nat.toDigits 10 id.value.toNat :=
  Nat.toList_repr

/-- **The text of an id tells which id it is.** -/
theorem text_injective : Function.Injective text := by
  intro a b h
  have hdigits : Nat.toDigits 10 a.value.toNat = Nat.toDigits 10 b.value.toNat := by
    rw [← toList_text, ← toList_text, h]
  have hvalue := congrArg (Nat.ofDigitChars 10 · 0) hdigits
  simp only [Nat.ofDigitChars_ten_toDigits] at hvalue
  have hword : a.value = b.value := UInt32.toNat_inj.mp hvalue
  cases a
  cases b
  exact congrArg PlotId.mk hword

theorem colon_not_mem_text (id : PlotId) : ':' ∉ id.text.toList := by
  rw [toList_text]
  intro hmem
  exact absurd (Nat.isDigit_of_mem_toDigits (by decide) (by decide) hmem) (by decide)

/-- A colon ends the text of an id, whatever follows. -/
theorem takeWhile_text_colon (id : PlotId) (rest : List Char) :
    (id.text.toList ++ ':' :: rest).takeWhile (· ≠ ':') = id.text.toList := by
  have hdigits : ∀ c ∈ id.text.toList, decide (c ≠ ':') = true := fun c hc =>
    decide_eq_true fun heq => colon_not_mem_text id (heq ▸ hc)
  rw [List.takeWhile_append_of_pos hdigits, List.takeWhile_cons_of_neg (by decide),
    List.append_nil]

/-- Texts that begin with an id and a colon are about the same plot if they are equal, or if one
begins with the other. -/
theorem eq_of_text_colon {before xs ys : List Char}
    (h : before ++ (a.text.toList ++ ':' :: xs) <+: before ++ (b.text.toList ++ ':' :: ys)) :
    a = b := by
  obtain ⟨more, hmore⟩ := (List.prefix_append_right_inj before).mp h
  rw [List.append_assoc, List.cons_append] at hmore
  have htexts := congrArg (List.takeWhile (· ≠ ':')) hmore
  rw [takeWhile_text_colon, takeWhile_text_colon] at htexts
  exact text_injective (String.toList_inj.mp htexts)

/-- Different plots draw into different elements. -/
theorem renderTarget_injective : Function.Injective renderTarget := by
  intro a b h
  refine text_injective ?_
  unfold renderTarget at h
  exact String.append_right_inj _ |>.mp h

/-- The order of the ids is that of their numbers. -/
theorem compare_eq_lt_iff : compare a b = .lt ↔ a.value < b.value :=
  show compareOfLessAndEq a.value b.value = .lt ↔ _ from compareOfLessAndEq_eq_lt

end ResultsBoard.PlotId
