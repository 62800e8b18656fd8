import Mathlib.Algebra.Group.Nat.Defs
import ResultsBoard.Proofs.Settings.Start

/-!
# The schedule of the waits

The waits between the attempts of a fetch (`DashboardConfig::retry_delay_ms`) are computed in words
of 32 bits, in which neither the power of two nor the product need fit. Both then become the
greatest word, and since no wait is longer than the greatest delay, which is a word itself, the
result is the one of unbounded numbers.

* `toNat_twoTo`, `toNat_saturatingMul`: what is computed in words, up to the greatest one.
* `toNat_retryDelay`: the wait before each attempt, exactly.
* `Schedule`: how the waits of valid settings grow.
* `BackOffLaw`, `backOff_law`: both.
-/

namespace ResultsBoard.Settings

variable {s : Settings} {a b : UInt32}

/-! ## Words -/

theorem toNat_le_maxWord (a : UInt32) : a.toNat ≤ maxWord.toNat := Nat.le_of_lt_succ a.toNat_lt

/-- **The power is exact** as long as it is a word. -/
theorem toNat_twoTo (n : UInt32) : (twoTo n).toNat = min (2 ^ n.toNat) maxWord.toNat := by
  unfold twoTo
  by_cases h : n < 32
  · have hn : n.toNat < 32 := UInt32.lt_iff_toNat_lt.mp h
    have hword : 2 ^ n.toNat < 2 ^ 32 := Nat.pow_lt_pow_right (by decide) hn
    have hfits : 2 ^ n.toNat ≤ maxWord.toNat := Nat.le_of_lt_succ hword
    rw [if_pos h, UInt32.toNat_shiftLeft, Nat.mod_eq_of_lt hn, UInt32.toNat_one, Nat.one_shiftLeft,
      Nat.min_eq_left hfits]
    exact Nat.mod_eq_of_lt hword
  · have hn : 32 ≤ n.toNat := UInt32.le_iff_toNat_le.mp (UInt32.not_lt.mp h)
    have hword : 2 ^ 32 ≤ 2 ^ n.toNat := Nat.pow_le_pow_right (by decide) hn
    rw [if_neg h, Nat.min_eq_right]
    exact Nat.le_of_lt (Nat.lt_of_lt_of_le maxWord.toNat_lt hword)

/-- **So is the product.** -/
theorem toNat_saturatingMul (a b : UInt32) :
    (saturatingMul a b).toNat = min (a.toNat * b.toNat) maxWord.toNat := by
  unfold saturatingMul
  by_cases h : a.toNat * b.toNat < UInt32.size
  · have hfits : a.toNat * b.toNat ≤ maxWord.toNat := Nat.le_of_lt_succ h
    rw [if_pos h, UInt32.toNat_mul, Nat.min_eq_left hfits]
    exact Nat.mod_eq_of_lt h
  · rw [if_neg h, Nat.min_eq_right]
    exact Nat.le_of_lt (Nat.lt_of_lt_of_le maxWord.toNat_lt (Nat.le_of_not_lt h))

/-- A factor that is too great for a word makes no difference below the greatest one: the product
with it is at least as great, unless there is nothing to multiply. -/
theorem min_mul_min (base power word cap : Nat) (hcap : cap ≤ word) :
    min (min (base * min power word) word) cap = min (base * power) cap := by
  rw [Nat.min_assoc, Nat.min_eq_right hcap]
  rcases Nat.le_total power word with hpower | hpower
  · rw [Nat.min_eq_left hpower]
  · rw [Nat.min_eq_right hpower]
    rcases Nat.eq_zero_or_pos base with rfl | hbase
    · rw [Nat.zero_mul, Nat.zero_mul]
    · have hword : word ≤ base * word := Nat.le_mul_of_pos_left word hbase
      have hless : base * word ≤ base * power := Nat.mul_le_mul_left base hpower
      rw [Nat.min_eq_right (by omega), Nat.min_eq_right (by omega)]

/-! ## Waits -/

/-- **The wait before an attempt**: the base delay, doubled for each attempt before it, and never
more than the greatest delay. -/
theorem toNat_retryDelay (s : Settings) (attempt : UInt32) :
    (s.retryDelay attempt).toNat =
      min (s.retryBaseDelay.toNat * 2 ^ attempt.toNat) s.retryMaxDelay.toNat := by
  unfold retryDelay
  rw [UInt32.toNat_min, toNat_saturatingMul, toNat_twoTo]
  exact min_mul_min _ _ _ _ (toNat_le_maxWord _)

/-- No wait is longer than the greatest delay. -/
theorem retryDelay_le_max (s : Settings) (a : UInt32) : s.retryDelay a ≤ s.retryMaxDelay := by
  rw [UInt32.le_iff_toNat_le, toNat_retryDelay]
  exact Nat.min_le_right _ _

/-- No wait is shorter than the one before it. -/
theorem retryDelay_mono (s : Settings) (h : a ≤ b) : s.retryDelay a ≤ s.retryDelay b := by
  have hpower : 2 ^ a.toNat ≤ 2 ^ b.toNat :=
    Nat.pow_le_pow_right (by decide) (UInt32.le_iff_toNat_le.mp h)
  have hproduct := Nat.mul_le_mul_left s.retryBaseDelay.toNat hpower
  rw [UInt32.le_iff_toNat_le, toNat_retryDelay, toNat_retryDelay]
  omega

theorem retryDelay_zero (h : s.retryBaseDelay ≤ s.retryMaxDelay) :
    s.retryDelay 0 = s.retryBaseDelay := by
  rw [← UInt32.toNat_inj, toNat_retryDelay, UInt32.toNat_zero, Nat.pow_zero, Nat.mul_one]
  exact Nat.min_eq_left (UInt32.le_iff_toNat_le.mp h)

/-- No wait is shorter than the first one. -/
theorem base_le_retryDelay (h : s.retryBaseDelay ≤ s.retryMaxDelay) (a : UInt32) :
    s.retryBaseDelay ≤ s.retryDelay a := by
  have hzero : 0 ≤ a := UInt32.zero_le
  rw [← retryDelay_zero h]
  exact retryDelay_mono s hzero

/-- The wait before the next attempt is twice as long, up to the greatest delay. -/
theorem toNat_retryDelay_next (s : Settings) (hnext : b.toNat = a.toNat + 1) :
    (s.retryDelay b).toNat = min (2 * (s.retryDelay a).toNat) s.retryMaxDelay.toNat := by
  rw [toNat_retryDelay, toNat_retryDelay, hnext, Nat.pow_succ, ← Nat.mul_assoc]
  omega

/-- The greatest delay stays. -/
theorem retryDelay_eq_max (s : Settings) (hle : a ≤ b) (h : s.retryDelay a = s.retryMaxDelay) :
    s.retryDelay b = s.retryMaxDelay :=
  UInt32.le_antisymm (retryDelay_le_max s b) (h ▸ retryDelay_mono s hle)

/-- It is reached after as many attempts as a word has bits, if not before. -/
theorem retryDelay_of_le (hpositive : 0 < s.retryBaseDelay) (ha : 32 ≤ a) :
    s.retryDelay a = s.retryMaxDelay := by
  have hbase : 0 < s.retryBaseDelay.toNat := UInt32.lt_iff_toNat_lt.mp hpositive
  have hpower : 2 ^ 32 ≤ 2 ^ a.toNat :=
    Nat.pow_le_pow_right (by decide) (UInt32.le_iff_toNat_le.mp ha)
  have hproduct : 2 ^ a.toNat ≤ s.retryBaseDelay.toNat * 2 ^ a.toNat :=
    Nat.le_mul_of_pos_left _ hbase
  have hword := s.retryMaxDelay.toNat_lt
  rw [← UInt32.toNat_inj, toNat_retryDelay]
  exact Nat.min_eq_right (by omega)

/-! ## The law -/

/-- **How the waits of valid settings grow.** -/
structure Schedule (s : Settings) : Prop where
  first : s.retryDelay 0 = s.retryBaseDelay
  /-- Each wait is twice the one before it, up to the greatest delay, -/
  doubles : ∀ a b : UInt32, b.toNat = a.toNat + 1 →
    (s.retryDelay b).toNat = min (2 * (s.retryDelay a).toNat) s.retryMaxDelay.toNat
  /-- which is reached -/
  reached : ∀ a, 32 ≤ a → s.retryDelay a = s.retryMaxDelay
  /-- and stays. -/
  stays : ∀ a b, a ≤ b → s.retryDelay a = s.retryMaxDelay → s.retryDelay b = s.retryMaxDelay
  rises : ∀ a b, a ≤ b → s.retryDelay a ≤ s.retryDelay b
  between : ∀ a, s.retryBaseDelay ≤ s.retryDelay a ∧ s.retryDelay a ≤ s.retryMaxDelay
  positive : ∀ a, 0 < s.retryDelay a

theorem schedule_of_valid (h : s.validate = .ok ()) : Schedule s := by
  obtain ⟨hpositive, hordered, -⟩ := (validate_iff s).mp h
  exact {
    first := retryDelay_zero hordered
    doubles := fun _ _ => toNat_retryDelay_next s
    reached := fun _ => retryDelay_of_le hpositive
    stays := fun _ _ => retryDelay_eq_max s
    rises := fun _ _ => retryDelay_mono s
    between := fun a => ⟨base_le_retryDelay hordered a, retryDelay_le_max s a⟩
    positive := fun a => UInt32.lt_of_lt_of_le hpositive (base_le_retryDelay hordered a) }

/-- **The waits between attempts**, of all settings and of valid ones. -/
structure BackOffLaw (s : Settings) : Prop where
  /-- In words they are what they are in numbers without bound. -/
  formula : ∀ attempt, (s.retryDelay attempt).toNat =
    min (s.retryBaseDelay.toNat * 2 ^ attempt.toNat) s.retryMaxDelay.toNat
  schedule : s.validate = .ok () → Schedule s

/-- **The back-off is exact in 32 bits**, and that of valid settings doubles until it is the
greatest delay and stays there. -/
theorem backOff_law (s : Settings) : BackOffLaw s := ⟨toNat_retryDelay s, schedule_of_valid⟩

/-- The next doubling would not fit into a word. -/
theorem backOff_law_widest : ∃ s : Settings, s.validate = .ok () ∧ Schedule s ∧
    s.retryDelay 30 = 3221225472 ∧ s.retryDelay 31 = maxWord := by
  let s : Settings := ⟨defaultApiBase, 2, 3, maxWord, 5000, "info"⟩
  have hvalid : Settings.validate ⟨defaultApiBase, 2, 3, maxWord, 5000, "info"⟩ = .ok () := rfl
  exact ⟨s, hvalid, (backOff_law s).schedule hvalid, by decide, by decide⟩

end ResultsBoard.Settings
