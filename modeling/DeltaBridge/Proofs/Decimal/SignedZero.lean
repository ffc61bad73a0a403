import DeltaBridge.Decimal.Places
import DeltaBridge.Proofs.Decimal.Range

/-!
# The sign of a zero

The two zeros are one number. In the arithmetic of the rules and in rounding they stay one: the
results are both zeros or the same double. Rounding to decimal places never goes beyond the doubles.

* `IsZero`: the zeros; `SameNumber`: the same double, or both zeros;
* `SameNumber.add`, `SameNumber.mul`, ..: arithmetic; `SameNumber.beq_or_isNaN`: comparison;
* `roundPlaces?_of_isZero`, **`SameNumber.roundPlaces?`**: rounding;
* **`exists_roundPlaces?`**: to places after the point everything can be rounded.
-/

namespace DeltaBridge

open Float.Model Float.Model.UnpackedFloat

/-- The double is a zero. -/
def IsZero (x : Float) : Prop := ∃ s, x.toModel.unpack = .zero s

/-- The doubles are one number: they differ in the sign of a zero at most. -/
def SameNumber (x y : Float) : Prop := x = y ∨ IsZero x ∧ IsZero y

/-! ## Arithmetic -/

section Arithmetic

variable {x y : Float}

theorem SameNumber.refl (x : Float) : SameNumber x x := .inl rfl

theorem isZero_pack (s : Sign) : IsZero (.ofModel (.pack (.zero s))) := ⟨s, by cases s <;> rfl⟩

theorem IsZero.neg (h : IsZero x) : IsZero (-x) := by
  obtain ⟨s, hs⟩ := h
  have hneg : -x = .ofModel (.pack (.zero (-s))) := by
    show Float.ofModel (.pack x.toModel.unpack.neg) = _
    rw [hs]
    rfl
  rw [hneg]
  exact isZero_pack (-s)

theorem IsZero.isFinite (h : IsZero x) : x.isFinite = true := by
  obtain ⟨s, hs⟩ := h
  show x.toModel.unpack.isFinite = true
  rw [hs]
  rfl

/-- An operation of the model that makes zeros of both zeros, or the same of them, keeps numbers the
same. -/
theorem SameNumber.pack (op : UnpackedFloat → UnpackedFloat) (h : SameNumber x y)
    (hop : ∀ s s', op (.zero s) = op (.zero s') ∨
      ∃ r r', op (.zero s) = .zero r ∧ op (.zero s') = .zero r') :
    SameNumber (.ofModel (.pack (op x.toModel.unpack)))
      (.ofModel (.pack (op y.toModel.unpack))) := by
  rcases h with rfl | ⟨⟨s, hs⟩, ⟨s', hs'⟩⟩
  · exact .refl _
  rw [hs, hs']
  rcases hop s s' with heq | ⟨r, r', hr, hr'⟩
  · rw [heq]
    exact .refl _
  · rw [hr, hr']
    exact .inr ⟨isZero_pack r, isZero_pack r'⟩

variable (h : SameNumber x y) (c : Float)
include h

theorem SameNumber.add : SameNumber (x + c) (y + c) := by
  refine h.pack (fun u => UnpackedFloat.add .binary64 u c.toModel.unpack) fun s s' => ?_
  cases c.toModel.unpack with
  | zero r => cases s <;> cases s' <;> cases r <;> exact .inr ⟨_, _, rfl, rfl⟩
  | notANumber | infinity _ | finite _ _ _ _ => exact .inl rfl

theorem SameNumber.sub : SameNumber (x - c) (y - c) := by
  refine h.pack (fun u => UnpackedFloat.sub .binary64 u c.toModel.unpack) fun s s' => ?_
  cases c.toModel.unpack with
  | zero r => cases s <;> cases s' <;> cases r <;> exact .inr ⟨_, _, rfl, rfl⟩
  | notANumber | infinity _ | finite _ _ _ _ => exact .inl rfl

theorem SameNumber.mul : SameNumber (x * c) (y * c) := by
  refine h.pack (fun u => UnpackedFloat.mul .binary64 u c.toModel.unpack) fun s s' => ?_
  cases c.toModel.unpack with
  | zero _ | finite _ _ _ _ => exact .inr ⟨_, _, rfl, rfl⟩
  | notANumber | infinity _ => exact .inl rfl

theorem SameNumber.div : SameNumber (x / c) (y / c) := by
  refine h.pack (fun u => UnpackedFloat.div .binary64 u c.toModel.unpack) fun s s' => ?_
  cases c.toModel.unpack with
  | infinity _ | finite _ _ _ _ => exact .inr ⟨_, _, rfl, rfl⟩
  | notANumber | zero _ => exact .inl rfl

omit h in
theorem beq_self_or_isNaN (x : Float) : (x == x) = true ∨ x.isNaN = true := by
  show (x.toModel.unpack.compare x.toModel.unpack == some .eq) = true ∨
    x.toModel.unpack.isNaN = true
  cases x.toModel.unpack with
  | notANumber => exact .inr rfl
  | infinity s => cases s <;> exact .inl rfl
  | zero s => exact .inl rfl
  | finite s m e hm =>
    left
    cases s <;> simp [UnpackedFloat.compare]

/-- One number is equal to itself in a comparison, unless it is none. -/
theorem SameNumber.beq_or_isNaN : (x == y) = true ∨ x.isNaN = true ∧ y.isNaN = true := by
  rcases h with rfl | ⟨⟨s, hs⟩, ⟨s', hs'⟩⟩
  · exact (beq_self_or_isNaN x).imp_right fun hx => ⟨hx, hx⟩
  · left
    show (x.toModel.unpack.compare y.toModel.unpack == some .eq) = true
    rw [hs, hs']
    rfl

end Arithmetic

/-! ## Rounding -/

section Rounding

variable {x y : Float}

theorem unitsAt_zero (q places : ℤ) : unitsAt 0 q places = 0 := by
  unfold unitsAt divideToEven
  simp

theorem isZero_ofScientific (s : Bool) (e : ℕ) : IsZero (.ofScientific 0 s e) := by
  rw [ofScientific_zero]
  exact isZero_pack .positive

theorem isZero_ofUnits (negative : Bool) (places : ℤ) : IsZero (ofUnits negative 0 places) := by
  have hzero := isZero_ofScientific (0 < places) places.natAbs
  cases negative with
  | false => exact hzero
  | true => exact hzero.neg

theorem Numeral.isZero_toFloat {n : Numeral} (h : readDigits (n.whole ++ n.fraction) = 0) :
    IsZero n.toFloat := by
  unfold toFloat
  simp only [h]
  split
  · exact (isZero_ofScientific _ _).neg
  · exact isZero_ofScientific _ _

/-- A zero is rounded to a zero. -/
theorem roundPlaces?_of_isZero (h : IsZero x) (places : ℤ) :
    ∃ z, roundPlaces? x places = some z ∧ IsZero z := by
  obtain ⟨s, hs⟩ := h
  have hbinary : Binary.ofFloat x = .finite (Binary.isNegative s) 0 Binary.leastExponent := by
    rw [Binary.ofFloat, hs]
  unfold roundPlaces?
  simp only [hbinary, unitsAt_zero]
  split
  · exact ⟨x, rfl, s, hs⟩
  split
  · exact ⟨_, rfl, isZero_ofUnits _ 0⟩
  · have hz := isZero_ofUnits (Binary.isNegative s) places
    exact ⟨_, if_pos hz.isFinite, hz⟩

/-- **One number is rounded to one number**, if it can be rounded. -/
theorem SameNumber.roundPlaces? (h : SameNumber x y) (places : ℤ) :
    (∃ x' y', DeltaBridge.roundPlaces? x places = some x' ∧
      DeltaBridge.roundPlaces? y places = some y' ∧ SameNumber x' y') ∨
    DeltaBridge.roundPlaces? x places = none ∧ DeltaBridge.roundPlaces? y places = none := by
  rcases h with rfl | ⟨hx, hy⟩
  · cases hz : DeltaBridge.roundPlaces? x places with
    | none => exact .inr ⟨rfl, rfl⟩
    | some z => exact .inl ⟨z, z, rfl, rfl, .refl z⟩
  · obtain ⟨x', hx', hxz⟩ := roundPlaces?_of_isZero hx places
    obtain ⟨y', hy', hyz⟩ := roundPlaces?_of_isZero hy places
    exact .inl ⟨x', y', hx', hy', .inr ⟨hxz, hyz⟩⟩

theorem unitsAt_mul_le (m : ℕ) (q : ℤ) {places : ℤ} (hp : 0 ≤ places) :
    (unitsAt m q places : ℚ) * 10 ^ (-places) ≤ if 0 ≤ q then (m : ℚ) * 2 ^ q else m + 1 := by
  obtain ⟨p, rfl⟩ := Int.eq_ofNat_of_zero_le hp
  have hten : (0 : ℚ) < 10 ^ p := by positivity
  have hdown : (10 : ℚ) ^ (-(p : ℤ)) = (10 ^ p)⁻¹ := by rw [zpow_neg, zpow_natCast]
  have hunits : unitsAt m q p = divideToEven (m * 2 ^ q.toNat * 10 ^ p) (2 ^ (-q).toNat) := by
    show divideToEven (m * 2 ^ q.toNat * 10 ^ (p : ℤ).toNat)
      (2 ^ (-q).toNat * 10 ^ (-(p : ℤ)).toNat) = _
    rw [Int.toNat_natCast, show (-(p : ℤ)).toNat = 0 by omega, pow_zero, mul_one]
  rw [hdown, ← div_eq_mul_inv, div_le_iff₀ hten, hunits]
  split
  · -- the units are whole
    rename_i hq
    obtain ⟨k, rfl⟩ := Int.eq_ofNat_of_zero_le hq
    rw [show (-(k : ℤ)).toNat = 0 by omega, pow_zero, divideToEven_one, Int.toNat_natCast]
    push_cast
    rw [zpow_natCast]
  · rename_i hq
    rw [show q.toNat = 0 by omega, pow_zero, mul_one]
    have hle : divideToEven (m * 10 ^ p) (2 ^ (-q).toNat) ≤ m * 10 ^ p + 1 :=
      (divideToEven_le _ _).trans (Nat.succ_le_succ (Nat.div_le_self _ _))
    have hone : (1 : ℚ) ≤ 10 ^ p := one_le_pow₀ (by norm_num)
    have hle : (divideToEven (m * 10 ^ p) (2 ^ (-q).toNat) : ℚ) ≤ m * 10 ^ p + 1 := by
      exact_mod_cast hle
    linarith

theorem unitsAt_lt {m : ℕ} {q : ℤ} (hm : m < 2 ^ 53) (hq : q ≤ greatestExponent) {places : ℤ}
    (hp : 0 ≤ places) :
    (unitsAt m q places : ℚ) * 10 ^ (-places) < 2 ^ 1024 - 2 ^ 970 := by
  refine (unitsAt_mul_le m q hp).trans_lt ?_
  have hm : (m : ℚ) + 1 ≤ (2 ^ 53 : ℕ) := by exact_mod_cast hm
  have htwo : (2 : ℚ) ≤ 2 ^ greatestExponent := by
    have h := two_zpow_le (show (1 : ℤ) ≤ greatestExponent by decide)
    rwa [zpow_one] at h
  have hpow := two_zpow_le hq
  rw [threshold_eq]
  generalize (2 : ℚ) ^ greatestExponent = g at htwo hpow ⊢
  push_cast at hm ⊢
  split
  · calc (m : ℚ) * 2 ^ q ≤ m * g := mul_le_mul_of_nonneg_left hpow (Nat.cast_nonneg m)
      _ < (2 ^ 53 - 1 / 2) * g := mul_lt_mul_of_pos_right (by linarith) (by linarith)
  · calc (m : ℚ) + 1 ≤ 2 ^ 53 := hm
      _ < (2 ^ 53 - 1 / 2) * 2 := by norm_num
      _ ≤ (2 ^ 53 - 1 / 2) * g := mul_le_mul_of_nonneg_left htwo (by norm_num)

theorem isFinite_ofUnits {m : ℕ} {q : ℤ} (hm : m < 2 ^ 53) (hq : q ≤ greatestExponent)
    {places : ℤ} (hp : 0 ≤ places) (negative : Bool) :
    (ofUnits negative (unitsAt m q places) places).isFinite = true := by
  have hfinite : (Float.ofScientific (unitsAt m q places) (0 < places) places.natAbs).isFinite =
      true := by
    have h := (isFinite_ofScientific_iff _ _).2 (unitsAt_lt hm hq hp)
    rwa [Int.natAbs_neg, show decide (-places < 0) = decide (0 < places) by simp] at h
  cases negative with
  | false => exact hfinite
  | true => exact (isFinite_neg _).trans hfinite

/-- **To places after the point every double can be rounded.** -/
theorem exists_roundPlaces? {places : ℤ} (hp : 0 ≤ places) (x : Float) :
    ∃ y, DeltaBridge.roundPlaces? x places = some y := by
  cases hu : x.toModel.unpack with
  | notANumber => exact ⟨x, by rw [DeltaBridge.roundPlaces?, Binary.ofFloat, hu]⟩
  | infinity s => exact ⟨x, by rw [DeltaBridge.roundPlaces?, Binary.ofFloat, hu]⟩
  | zero s =>
    obtain ⟨z, hz, -⟩ := roundPlaces?_of_isZero ⟨s, hu⟩ places
    exact ⟨z, hz⟩
  | finite s m q hm =>
    have hd := isDouble_of_unpack hu
    have hfinite := isFinite_ofUnits hd.lt hd.greatest hp (Binary.isNegative s)
    unfold DeltaBridge.roundPlaces?
    simp only [Binary.ofFloat, hu, if_pos hfinite]
    split
    · exact ⟨_, rfl⟩
    · split <;> exact ⟨_, rfl⟩

end Rounding

end DeltaBridge
