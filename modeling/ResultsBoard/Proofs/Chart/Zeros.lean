import Mathlib
import ResultsBoard.Chart.Bounds

/-!
# The two zeros

Floating-point numbers have a zero of either sign. The two count as equal, but a computation can
tell them apart: `x - y` is `0.0` or `-0.0` depending on the signs, and so is `x + y`. `Alike` says
that two numbers are the same or both zero, and the lemmas say where the sign of a zero gets lost.

Everything follows from the parts of a number (`unpacked`): every operation is computed on the parts
of its arguments and then rounded into a number again.

* `alike_of_beq`: numbers that count as equal are alike. `Alike.lt_congr`, `Alike.beq_congr`,
  `Alike.isFinite_congr`: alike numbers compare in the same way.
* `Alike.sub`, `Alike.mul_right`, `Alike.div_right`: operations on alike numbers give alike numbers.
* `Alike.sub_eq`, `Alike.add_left_eq`: where an operation gives the same number for either zero.
* `Unsigned`: numbers without a minus sign. `Alike.add_eq`: to add one of them to a zero loses the
  sign of the zero.
-/

namespace ResultsBoard.Chart

open Float.Model (UnpackedFloat)
open Float.Model.UnpackedFloat (Sign packComponents unpackSign)

/-- The parts of a number. -/
def unpacked (x : Float) : UnpackedFloat := x.toModel.unpack

/-- The number with these parts, rounded. -/
def packed (f : UnpackedFloat) : Float := .ofModel (.pack f)

/-- A zero of either sign. -/
def IsZero (x : Float) : Prop := ∃ sign, unpacked x = .zero sign

/-- **The same number, or two zeros.** -/
def Alike (x y : Float) : Prop := unpacked x = unpacked y ∨ IsZero x ∧ IsZero y

/-- Parts without a minus sign. -/
def NoMinus : UnpackedFloat → Prop
  | .infinity sign | .zero sign | .finite sign _ _ _ => sign = .positive
  | .notANumber => True

/-- A number without a minus sign, or not a number at all. -/
def Unsigned (x : Float) : Prop := NoMinus (unpacked x)

variable {x x' y y' z : Float}

/-! ## Parts -/

theorem sub_eq (x y : Float) :
    x - y = packed (.sub .binary64 (unpacked x) (unpacked y)) := rfl

theorem add_eq (x y : Float) :
    x + y = packed (.add .binary64 (unpacked x) (unpacked y)) := rfl

theorem mul_eq (x y : Float) :
    x * y = packed (.mul .binary64 (unpacked x) (unpacked y)) := rfl

theorem div_eq (x y : Float) :
    x / y = packed (.div .binary64 (unpacked x) (unpacked y)) := rfl

/-- The sign of a zero is not rounded away. -/
theorem unpacked_packed_zero (sign : Sign) : unpacked (packed (.zero sign)) = .zero sign := by
  cases sign <;> rfl

theorem isZero_packed_zero (sign : Sign) : IsZero (packed (.zero sign)) :=
  ⟨sign, unpacked_packed_zero sign⟩

theorem Alike.refl (x : Float) : Alike x x := .inl rfl

/-- The same parts, or those of two zeros, are rounded into alike numbers. -/
theorem alike_packed {f g : UnpackedFloat} (h : f = g ∨ ∃ s t, f = .zero s ∧ g = .zero t) :
    Alike (packed f) (packed g) := by
  rcases h with rfl | ⟨s, t, rfl, rfl⟩
  · exact .refl _
  · exact .inr ⟨isZero_packed_zero s, isZero_packed_zero t⟩

/-! ## Comparisons -/

/-- Nothing compares differently with zeros of different signs. -/
theorem compare_zero_left (s t : Sign) (f : UnpackedFloat) :
    UnpackedFloat.compare (.zero s) f = UnpackedFloat.compare (.zero t) f := by
  cases f with
  | infinity sign => cases sign <;> rfl
  | notANumber => rfl
  | zero sign => rfl
  | finite sign m e hm => cases sign <;> rfl

theorem compare_zero_right (s t : Sign) (f : UnpackedFloat) :
    UnpackedFloat.compare f (.zero s) = UnpackedFloat.compare f (.zero t) := by
  cases f with
  | infinity sign => cases sign <;> rfl
  | notANumber => rfl
  | zero sign => rfl
  | finite sign m e hm => cases sign <;> rfl

theorem Alike.compare_congr (hx : Alike x x') (hy : Alike y y') :
    (unpacked x).compare (unpacked y) = (unpacked x').compare (unpacked y') := by
  have hleft : ∀ f, (unpacked x).compare f = (unpacked x').compare f := by
    intro f
    rcases hx with hx | ⟨⟨s, hs⟩, t, ht⟩
    · rw [hx]
    · rw [hs, ht]
      exact compare_zero_left s t f
  rw [hleft]
  rcases hy with hy | ⟨⟨s, hs⟩, t, ht⟩
  · rw [hy]
  · rw [hs, ht]
    exact compare_zero_right s t _

theorem lt_iff (x y : Float) : x < y ↔ (unpacked x).compare (unpacked y) = some .lt := by
  show decide ((unpacked x).lt (unpacked y) = true) = true ↔ _
  rw [decide_eq_true_iff]
  exact beq_iff_eq

theorem beq_iff (x y : Float) :
    (x == y) = true ↔ (unpacked x).compare (unpacked y) = some .eq := by
  show ((unpacked x).compare (unpacked y) == some .eq) = true ↔ _
  exact beq_iff_eq

theorem Alike.lt_congr (hx : Alike x x') (hy : Alike y y') : x < y ↔ x' < y' := by
  rw [lt_iff, lt_iff, hx.compare_congr hy]

theorem Alike.beq_congr (hx : Alike x x') (hy : Alike y y') : (x == y) = (x' == y') := by
  rw [Bool.eq_iff_iff, beq_iff, beq_iff, hx.compare_congr hy]

theorem Alike.isFinite_congr (h : Alike x x') : x.isFinite = x'.isFinite := by
  show (unpacked x).isFinite = (unpacked x').isFinite
  rcases h with h | ⟨⟨s, hs⟩, t, ht⟩
  · rw [h]
  · rw [hs, ht]
    rfl

/-- **Numbers that count as equal are alike.** -/
theorem alike_of_beq (h : (x == y) = true) : Alike x y := by
  have hpositive : IsZero 0 := ⟨.positive, rfl⟩
  have hnegative : IsZero (-0) := ⟨.negative, rfl⟩
  obtain ⟨-, -, heq | ⟨hx, hy⟩ | ⟨hx, hy⟩⟩ := Float.beq_iff_ne_nan_and_eq.mp h
  · rw [heq]
    exact .refl y
  · rw [hx, hy]
    exact .inr ⟨hpositive, hnegative⟩
  · rw [hx, hy]
    exact .inr ⟨hnegative, hpositive⟩

/-- Two zeros count as equal. -/
theorem beq_of_zeros (hx : IsZero x) (hy : IsZero y) : (x == y) = true := by
  obtain ⟨s, hs⟩ := hx
  obtain ⟨t, ht⟩ := hy
  rw [beq_iff, hs, ht]
  rfl

theorem swap_compare_finite (m m' : Nat) (e e' : Int) :
    ((compare e e').then (compare m m')).swap = (compare e' e).then (compare m' m) := by
  rw [Ordering.swap_then, ← Std.OrientedCmp.eq_swap, ← Std.OrientedCmp.eq_swap]

/-- To compare the other way round turns the answer round. -/
theorem compare_swap (f g : UnpackedFloat) : g.compare f = (f.compare g).map Ordering.swap := by
  rcases f with ⟨_ | _⟩ | _ | _ | ⟨_ | _, m, e, hm⟩ <;>
    rcases g with ⟨_ | _⟩ | _ | _ | ⟨_ | _, m', e', hm'⟩ <;> try rfl
  · show some ((compare e' e).then (compare m' m)).swap = some (Ordering.swap (Ordering.swap _))
    rw [Ordering.swap_swap, swap_compare_finite]
  · show some ((compare e' e).then (compare m' m)) = some (Ordering.swap _)
    rw [swap_compare_finite]

theorem lt_asymm (h : x < y) : ¬ y < x := by
  rw [lt_iff] at h ⊢
  rw [compare_swap, h]
  intro h
  cases h

theorem lt_irrefl (x : Float) : ¬ x < x := fun h => lt_asymm h h

/-! ## Operations -/

/-- To take a zero from another number, or to add one to it, only rounds the number. -/
theorem sub_zero_eq (hx : ¬ IsZero x) (hy : IsZero y) : x - y = packed (unpacked x) := by
  obtain ⟨t, ht⟩ := hy
  rw [sub_eq, ht]
  cases hparts : unpacked x with
  | zero s => exact absurd ⟨s, hparts⟩ hx
  | _ => rfl

theorem add_zero_eq (hx : ¬ IsZero x) (hy : IsZero y) : x + y = packed (unpacked x) := by
  obtain ⟨t, ht⟩ := hy
  rw [add_eq, ht]
  cases hparts : unpacked x with
  | zero s => exact absurd ⟨s, hparts⟩ hx
  | _ => rfl

/-- Another number taken from a zero of either sign gives the same. -/
theorem zero_sub_congr (hx : IsZero x) (hx' : IsZero x') (hy : ¬ IsZero y) : x - y = x' - y := by
  obtain ⟨s, hs⟩ := hx
  obtain ⟨s', hs'⟩ := hx'
  rw [sub_eq, sub_eq, hs, hs']
  cases hparts : unpacked y with
  | zero t => exact absurd ⟨t, hparts⟩ hy
  | _ => rfl

theorem isZero_sub (hx : IsZero x) (hy : IsZero y) : IsZero (x - y) := by
  obtain ⟨s, hs⟩ := hx
  obtain ⟨t, ht⟩ := hy
  rw [sub_eq, hs, ht]
  cases s <;> cases t <;> exact isZero_packed_zero _

theorem Alike.isZero_iff (h : Alike x x') : IsZero x ↔ IsZero x' := by
  rcases h with h | ⟨hx, hx'⟩
  · unfold IsZero
    rw [h]
  · exact ⟨fun _ => hx', fun _ => hx⟩

/-- **The difference of alike numbers is the same**, unless all of them are zero. -/
theorem Alike.sub_eq (hx : Alike x x') (hy : Alike y y') (h : ¬ (IsZero x ∧ IsZero y)) :
    x - y = x' - y' := by
  rcases hy with hy | ⟨hy, hy'⟩
  · rcases hx with hx | ⟨hx, hx'⟩
    · rw [Chart.sub_eq, Chart.sub_eq, hx, hy]
    · rw [zero_sub_congr hx hx' fun hzero => h ⟨hx, hzero⟩, Chart.sub_eq, Chart.sub_eq, hy]
  · have hnonzero : ¬ IsZero x := fun hzero => h ⟨hzero, hy⟩
    rcases hx with hx | ⟨hx, -⟩
    · have hnonzero' : ¬ IsZero x' := fun hzero => hnonzero ((Alike.isZero_iff (.inl hx)).mpr hzero)
      rw [sub_zero_eq hnonzero hy, sub_zero_eq hnonzero' hy', hx]
    · exact absurd hx hnonzero

theorem Alike.sub (hx : Alike x x') (hy : Alike y y') : Alike (x - y) (x' - y') := by
  by_cases h : IsZero x ∧ IsZero y
  · exact .inr ⟨isZero_sub h.1 h.2, isZero_sub (hx.isZero_iff.mp h.1) (hy.isZero_iff.mp h.2)⟩
  · rw [hx.sub_eq hy h]
    exact .refl _

/-- To add to a number other than zero loses the sign of a zero. -/
theorem Alike.add_left_eq (h : Alike x x') (hz : ¬ IsZero z) : z + x = z + x' := by
  rcases h with h | ⟨hx, hx'⟩
  · rw [add_eq, add_eq, h]
  · rw [add_zero_eq hz hx, add_zero_eq hz hx']

theorem Alike.mul_right (h : Alike x x') (z : Float) : Alike (x * z) (x' * z) := by
  rcases h with h | ⟨⟨s, hs⟩, t, ht⟩
  · rw [mul_eq, mul_eq, h]
    exact .refl _
  · rw [mul_eq, mul_eq, hs, ht]
    refine alike_packed ?_
    cases unpacked z with
    | infinity sign => exact .inl rfl
    | notANumber => exact .inl rfl
    | zero sign => exact .inr ⟨_, _, rfl, rfl⟩
    | finite sign m e hm => exact .inr ⟨_, _, rfl, rfl⟩

theorem Alike.div_right (h : Alike x x') (z : Float) : Alike (x / z) (x' / z) := by
  rcases h with h | ⟨⟨s, hs⟩, t, ht⟩
  · rw [div_eq, div_eq, h]
    exact .refl _
  · rw [div_eq, div_eq, hs, ht]
    refine alike_packed ?_
    cases unpacked z with
    | infinity sign => exact .inr ⟨_, _, rfl, rfl⟩
    | notANumber => exact .inl rfl
    | zero sign => exact .inl rfl
    | finite sign m e hm => exact .inr ⟨_, _, rfl, rfl⟩

/-! ## Numbers without a minus sign -/

theorem noMinus_unpack_packComponents (exponent : BitVec 11) (mantissa : BitVec 52) :
    NoMinus (.unpack .binary64 (packComponents .binary64 .positive exponent mantissa)) := by
  have hsign : Sign.ofBitVec
      (unpackSign (packComponents .binary64 .positive exponent mantissa)) = .positive := by
    rw [UnpackedFloat.unpackSign_packComponents]
    rfl
  unfold UnpackedFloat.unpack
  dsimp only
  rw [hsign]
  split
  · split
    · rfl
    · trivial
  · split
    · split
      · rfl
      · rfl
    · rfl

/-- **The sign is not rounded away.** -/
theorem unsigned_packed {f : UnpackedFloat} (h : NoMinus f) : Unsigned (packed f) := by
  have hcomponents := noMinus_unpack_packComponents
  show NoMinus (.unpack .binary64 (UnpackedFloat.pack .binary64 f))
  cases f with
  | notANumber => exact hcomponents _ _
  | infinity sign =>
    obtain rfl : sign = .positive := h
    exact hcomponents _ _
  | zero sign =>
    obtain rfl : sign = .positive := h
    exact hcomponents _ _
  | finite sign m e hm =>
    obtain rfl : sign = .positive := h
    unfold UnpackedFloat.pack
    dsimp only
    split
    · exact hcomponents _ _
    · split
      · exact hcomponents _ _
      · exact hcomponents _ _

theorem noMinus_roundWithAccuracy (mantissa : Nat) (exponent : Int)
    (accuracy : UnpackedFloat.Accuracy) :
    NoMinus (.roundWithAccuracy .binary64 .positive mantissa exponent accuracy) := by
  unfold UnpackedFloat.roundWithAccuracy
  dsimp only
  split <;> rfl

theorem noMinus_mul {f g : UnpackedFloat} (hf : NoMinus f) (hg : NoMinus g) :
    NoMinus (.mul .binary64 f g) := by
  cases f with
  | notANumber => exact trivial
  | infinity s =>
    obtain rfl : s = .positive := hf
    cases g with
    | notANumber => exact trivial
    | zero t => exact trivial
    | infinity t =>
      obtain rfl : t = .positive := hg
      rfl
    | finite t m e hm =>
      obtain rfl : t = .positive := hg
      rfl
  | zero s =>
    obtain rfl : s = .positive := hf
    cases g with
    | notANumber => exact trivial
    | infinity t => exact trivial
    | zero t =>
      obtain rfl : t = .positive := hg
      rfl
    | finite t m e hm =>
      obtain rfl : t = .positive := hg
      rfl
  | finite s m e hm =>
    obtain rfl : s = .positive := hf
    cases g with
    | notANumber => exact trivial
    | infinity t =>
      obtain rfl : t = .positive := hg
      rfl
    | zero t =>
      obtain rfl : t = .positive := hg
      rfl
    | finite t m' e' hm' =>
      obtain rfl : t = .positive := hg
      exact noMinus_roundWithAccuracy _ _ _

theorem unsigned_mul (hx : Unsigned x) (hy : Unsigned y) : Unsigned (x * y) :=
  unsigned_packed (noMinus_mul hx hy)

/-- A number is not less than a zero only if it has no minus sign, or if it is a zero itself. -/
theorem unsigned_of_not_lt_zero (hx : ¬ IsZero x) (hy : IsZero y) (h : ¬ x < y) : Unsigned x := by
  obtain ⟨t, ht⟩ := hy
  rw [lt_iff, ht] at h
  unfold Unsigned
  cases hparts : unpacked x with
  | zero s => exact absurd ⟨s, hparts⟩ hx
  | notANumber => trivial
  | infinity s =>
    rw [hparts] at h
    cases s with
    | positive => rfl
    | negative => exact absurd rfl h
  | finite s m e hm =>
    rw [hparts] at h
    cases s with
    | positive => rfl
    | negative => exact absurd rfl h

/-- A zero of either sign, increased by a number without a minus sign, gives the same. -/
theorem zero_add_congr (hx : IsZero x) (hx' : IsZero x') (hy : Unsigned y) : x + y = x' + y := by
  obtain ⟨s, hs⟩ := hx
  obtain ⟨s', hs'⟩ := hx'
  unfold Unsigned at hy
  rw [add_eq, add_eq, hs, hs']
  cases hparts : unpacked y with
  | zero t =>
    rw [hparts] at hy
    obtain rfl : t = .positive := hy
    cases s <;> cases s' <;> rfl
  | _ => rfl

theorem Alike.add_eq (hx : Alike x x') (hy : Unsigned y) : x + y = x' + y := by
  rcases hx with hx | ⟨hx, hx'⟩
  · rw [Chart.add_eq, Chart.add_eq, hx]
  · exact zero_add_congr hx hx' hy

end ResultsBoard.Chart
