import DeltaBridge.Decimal.Numeral
import DeltaBridge.Proofs.Decimal.Packing
import DeltaBridge.Proofs.Decimal.Rounding

/-!
# Reading decimals

Products and quotients are rounded once, so a decimal is read as the double nearest to it: an
integer and a power of ten that both are doubles are multiplied or divided as such, any others as
long integers.

* `rounds_mul`, `rounds_div`: products and quotients;
* `rounds_ofScientific`: long integers; `exactly_toFloat`, `exactly_powerOfTen`: short ones;
* **`nearest_ofScientific`**: reading a decimal gives the nearest double.
-/

namespace DeltaBridge

open Float.Model Float.Model.UnpackedFloat

/-! ## Products and quotients -/

theorem le_log2 {m k : ℕ} (h : 2 ^ k ≤ m) : k ≤ m.log2 :=
  (Nat.le_log2 (by have := Nat.two_pow_pos k; omega)).2 h

theorem le_targetExponent {m : ℕ} (h : 2 ^ 52 ≤ m) (e : ℤ) :
    e ≤ Format.binary64.targetExponent (totalExponent m e) := by
  have := le_log2 h
  rw [targetExponent_eq]
  omega

theorem rounds_exact {m : ℕ} {e : ℤ} (s : Sign) (h : 2 ^ 52 ≤ m) :
    Rounds s (m * 2 ^ e) (roundWithAccuracy .binary64 s m e .exact) := by
  refine rounds_roundWithAccuracy s ?_ (le_targetExponent h e)
  rw [mul_div_assoc, div_self (two_zpow_pos e).ne', mul_one]
  exact denotes_exact m

section Operations

variable {m₁ m₂ : ℕ} (e₁ e₂ : ℤ) (h₁ : 0 < m₁) (h₂ : 0 < m₂)

include h₁ h₂

/-- **A product is the double nearest to it**, if it has 53 bits. -/
theorem rounds_mul (s₁ s₂ : Sign) (hm : 2 ^ 52 ≤ m₁ * m₂) :
    Rounds (s₁ * s₂) (m₁ * 2 ^ e₁ * (m₂ * 2 ^ e₂))
      (mul .binary64 (.finite s₁ m₁ e₁ h₁) (.finite s₂ m₂ e₂ h₂)) := by
  have h := rounds_exact (e := e₁ + e₂) (s₁ * s₂) hm
  rw [Nat.cast_mul, two_zpow_add, mul_mul_mul_comm] at h
  exact h

/-- The quotient has enough bits: the dividend was shifted for it. -/
theorem le_targetExponent_div {k : ℕ} {t : ℤ}
    (ht : t = min (e₁ - e₂)
      (Format.binary64.targetExponent (totalExponent m₁ e₁ - totalExponent m₂ e₂)))
    (hk : (k : ℤ) = e₁ - e₂ - t) :
    t ≤ Format.binary64.targetExponent (totalExponent ((m₁ <<< k) / m₂) t) := by
  rw [targetExponent_eq]
  have ht : t ≤ max ((m₁.log2 : ℤ) + e₁ - (m₂.log2 + e₂) - 53) Binary.leastExponent := by
    rw [ht]
    refine (min_le_right _ _).trans (le_of_eq ?_)
    simp only [Format.targetExponent, totalExponent, Format.mantissaBits, Format.minExponent,
      Binary.leastExponent]
    omega
  rcases le_or_gt t Binary.leastExponent with hl | hl
  · exact hl.trans (le_max_right _ _)
  have hbits : 52 + (m₂.log2 + 1) ≤ m₁.log2 + k := by omega
  have hq : 2 ^ 52 ≤ (m₁ <<< k) / m₂ := by
    rw [Nat.le_div_iff_mul_le h₂, Nat.shiftLeft_eq]
    calc 2 ^ 52 * m₂ ≤ 2 ^ 52 * 2 ^ (m₂.log2 + 1) := Nat.mul_le_mul_left _ Nat.lt_log2_self.le
      _ = 2 ^ (52 + (m₂.log2 + 1)) := (pow_add _ _ _).symm
      _ ≤ 2 ^ (m₁.log2 + k) := Nat.pow_le_pow_right (by decide) hbits
      _ = 2 ^ m₁.log2 * 2 ^ k := pow_add _ _ _
      _ ≤ m₁ * 2 ^ k := Nat.mul_le_mul_right _ (Nat.log2_self_le h₁.ne')
  have := le_log2 hq
  omega

/-- **A quotient is the double nearest to it.** -/
theorem rounds_div (s₁ s₂ : Sign) :
    Rounds (s₁ / s₂) (m₁ * 2 ^ e₁ / (m₂ * 2 ^ e₂))
      (div .binary64 (.finite s₁ m₁ e₁ h₁) (.finite s₂ m₂ e₂ h₂)) := by
  show Rounds _ _ (roundWithAccuracy .binary64 (s₁ / s₂) _ _ _)
  generalize ht : min (e₁ - e₂)
    (Format.binary64.targetExponent (totalExponent m₁ e₁ - totalExponent m₂ e₂)) = t
  have hk : (((e₁ - e₂ - t).toNat : ℕ) : ℤ) = e₁ - e₂ - t := Int.toNat_of_nonneg (by omega)
  generalize (e₁ - e₂ - t).toNat = k at hk ⊢
  refine rounds_roundWithAccuracy _ ?_ (le_targetExponent_div e₁ e₂ h₁ h₂ ht.symm hk)
  have hq : (m₂ : ℚ) ≠ 0 := by exact_mod_cast h₂.ne'
  have hx : (m₁ : ℚ) * 2 ^ e₁ / (m₂ * 2 ^ e₂) / 2 ^ t = ((m₁ <<< k : ℕ) : ℚ) / m₂ := by
    have hpow : (2 : ℚ) ^ e₁ = 2 ^ k * (2 ^ e₂ * 2 ^ t) := by
      rw [← zpow_natCast, ← two_zpow_add, ← two_zpow_add]
      congr 1
      omega
    have he := (two_zpow_pos e₂).ne'
    have ht := (two_zpow_pos t).ne'
    rw [hpow, Nat.shiftLeft_eq]
    push_cast
    field_simp
  rw [hx]
  exact denotes_div _ h₂

end Operations

/-! ## Long integers -/

theorem pack_of_greatestExponent_lt (s : Sign) {m : ℕ} {e : ℤ} (h0 : 0 < m)
    (he : greatestExponent < e) :
    Float.Model.pack (.finite s m e h0) = .pack (.infinity s) := by
  have hbias : ((Format.binary64.exponentBias : ℕ) : ℤ) = 1023 := rfl
  have hp : UnpackedFloat.pack .binary64 (.finite s m e h0) = packedInfinity .binary64 s := by
    unfold greatestExponent at he
    unfold UnpackedFloat.pack
    simp only [hbias]
    rw [if_pos (by omega)]
  show (⟨⟨UnpackedFloat.pack .binary64 (.finite s m e h0)⟩, _⟩ : Float.Model) = _
  simp only [hp]
  rfl

theorem two_pow_le_of_hasUnit {x : ℚ} {e : ℤ} {n : ℕ} (hu : HasUnit x e)
    (hn : Nearest (x / 2 ^ e) n) (he : e ≠ Binary.leastExponent) : 2 ^ 52 ≤ n := by
  have hlow : (2 : ℚ) ^ 52 ≤ x / 2 ^ e := by
    rw [le_div_iff₀ (two_zpow_pos e)]
    calc (2 : ℚ) ^ 52 * 2 ^ e = 2 ^ (e + 52) := by rw [two_zpow_add, mul_comm]; norm_num
      _ ≤ x := hu.low.resolve_left he
  have hhigh := hn.high
  have hlt : (2 : ℚ) ^ 52 < n + 1 := by linarith
  have hlt : 2 ^ 52 < n + 1 := by exact_mod_cast hlt
  exact Nat.le_of_lt_succ hlt

theorem pack_of_large {s : Sign} {x : ℚ} {u : UnpackedFloat} (h : Rounds s x u)
    (hx : 2 ^ (1024 : ℤ) ≤ x) : Float.Model.pack u = .pack (.infinity s) := by
  obtain ⟨e, n, he, hn, rfl⟩ := h
  have h1024 : (1024 : ℤ) < e + 53 :=
    (zpow_lt_zpow_iff_right₀ (by norm_num : (1 : ℚ) < 2)).1 (hx.trans_lt he.high)
  have hleast : e ≠ Binary.leastExponent := by
    unfold Binary.leastExponent
    omega
  have hge := two_pow_le_of_hasUnit he hn hleast
  have h0 : n ≠ 0 := by omega
  unfold carried
  rw [dif_neg h0]
  split
  · exact pack_of_greatestExponent_lt s _ (by unfold greatestExponent; omega)
  · exact pack_of_greatestExponent_lt s _ (by unfold greatestExponent; omega)

theorem rounds_zero {x : ℚ} (s : Sign) (h0 : 0 ≤ x) (hx : x ≤ 2 ^ (-1075 : ℤ)) :
    Rounds s x (.zero s) := by
  have hp := two_zpow_pos Binary.leastExponent
  refine ⟨Binary.leastExponent, 0, ⟨le_rfl, hx.trans_lt ?_, .inl rfl⟩, ⟨?_, ?_, by simp⟩, rfl⟩
  · exact zpow_lt_zpow_right₀ (by norm_num) (by decide)
  · have := div_nonneg h0 hp.le
    push_cast
    linarith
  · have hhalf : (2 : ℚ) ^ (-1075 : ℤ) = 1 / 2 * 2 ^ Binary.leastExponent := by
      rw [show (-1075 : ℤ) = -1 + Binary.leastExponent from rfl, two_zpow_add]
      norm_num
    rw [div_le_iff₀ hp]
    push_cast
    linarith

theorem ten_zpow_pos (e : ℤ) : (0 : ℚ) < 10 ^ e := zpow_pos (by norm_num) e

theorem two_zpow_le_ten_zpow {e : ℤ} (h : 0 ≤ e) : (2 : ℚ) ^ e ≤ 10 ^ e :=
  zpow_le_zpow_left₀ h (by norm_num) (by norm_num)

theorem ten_zpow_le_two_zpow {e : ℤ} (h : e ≤ 0) : (10 : ℚ) ^ e ≤ 2 ^ e := by
  have := two_zpow_le_ten_zpow (e := -e) (by omega)
  rw [zpow_neg, zpow_neg] at this
  exact (inv_le_inv₀ (two_zpow_pos e) (ten_zpow_pos e)).1 this

/-- A long integer is shifted by 53 bits before it is multiplied by a power of ten. -/
theorem rounds_mul_pow {m : ℕ} (hm : 0 < m) {e : ℤ} (he : 0 ≤ e) :
    Rounds .positive (m * 10 ^ e)
      (mul .binary64 (.finite .positive (m <<< 53) (-53) (by simpa using hm))
        (.finite .positive (10 ^ e.toNat) 0 (Nat.pow_pos (by decide)))) := by
  have h53 : 2 ^ 52 ≤ m <<< 53 := by
    rw [Nat.shiftLeft_eq]
    omega
  have hx : ((m <<< 53 : ℕ) : ℚ) * 2 ^ (-53 : ℤ) * ((10 ^ e.toNat : ℕ) * 2 ^ (0 : ℤ)) =
      m * 10 ^ e := by
    rw [Nat.shiftLeft_eq]
    push_cast
    rw [mul_one, ← zpow_natCast, Int.toNat_of_nonneg he, mul_assoc (m : ℚ)]
    norm_num
  have h10 : 0 < 10 ^ e.toNat := Nat.pow_pos (by decide)
  have := rounds_mul (-53) 0 (by simpa using hm) h10 .positive .positive
    (h53.trans (Nat.le_mul_of_pos_right _ h10))
  rwa [hx] at this

theorem rounds_div_pow {m : ℕ} (hm : 0 < m) {e : ℤ} (he : e ≤ 0) :
    Rounds .positive (m * 10 ^ e)
      (div .binary64 (.finite .positive m 0 hm)
        (.finite .positive (10 ^ (-e).toNat) 0 (Nat.pow_pos (by decide)))) := by
  have hx : (m : ℚ) * 2 ^ (0 : ℤ) / ((10 ^ (-e).toNat : ℕ) * 2 ^ (0 : ℤ)) = m * 10 ^ e := by
    push_cast
    rw [mul_one, mul_one, ← zpow_natCast, Int.toNat_of_nonneg (by omega), zpow_neg, div_inv_eq_mul]
  have := rounds_div 0 0 hm (Nat.pow_pos (by decide) : 0 < 10 ^ (-e).toNat) .positive
    .positive
  rwa [hx] at this

/-- Any decimal that is read as a long integer is read as the double nearest to it. -/
theorem rounds_ofScientific {m : ℕ} (hm : 0 < m) (e : ℤ) :
    ∃ u, Rounds .positive (m * 10 ^ e) u ∧ Float.Model.ofScientific m e = .pack u := by
  unfold Float.Model.ofScientific UnpackedFloat.ofScientific
  rw [dif_neg hm.ne']
  split
  · rename_i hlarge
    have h2048 : 2048 < e := hlarge
    have hmul := rounds_mul_pow hm (e := e) (by omega)
    refine ⟨_, hmul, (pack_of_large hmul ?_).symm⟩
    have hm1 : (1 : ℚ) ≤ m := by exact_mod_cast hm
    calc (2 : ℚ) ^ (1024 : ℤ) ≤ 2 ^ e := two_zpow_le (by omega)
      _ ≤ 10 ^ e := two_zpow_le_ten_zpow (by omega)
      _ ≤ m * 10 ^ e := le_mul_of_one_le_left (ten_zpow_pos e).le hm1
  split
  · rename_i hsmall
    have h2048 : e < -(2048 + m.log2) := hsmall
    have hlog : (m : ℚ) ≤ 2 ^ ((m.log2 : ℤ) + 1) := by exact_mod_cast Nat.lt_log2_self.le
    have he : (10 : ℚ) ^ e ≤ 2 ^ e := ten_zpow_le_two_zpow (by omega)
    have h10 := ten_zpow_pos e
    refine ⟨_, rounds_zero .positive (mul_nonneg (Nat.cast_nonneg m) h10.le) ?_, rfl⟩
    calc (m : ℚ) * 10 ^ e ≤ 2 ^ ((m.log2 : ℤ) + 1) * 2 ^ e :=
          mul_le_mul hlog he h10.le (two_zpow_pos _).le
      _ = 2 ^ ((m.log2 : ℤ) + 1 + e) := (two_zpow_add _ _).symm
      _ ≤ 2 ^ (-1075 : ℤ) := two_zpow_le (by omega)
  split
  · rename_i he
    exact ⟨_, rounds_mul_pow hm he, rfl⟩
  · rename_i he
    exact ⟨_, rounds_div_pow hm (by omega), rfl⟩

/-! ## Short integers -/

theorem roundWithAccuracy_of_lt {m : ℕ} {e : ℤ} (s : Sign) (h0 : 0 < m) (hm : m < 2 ^ 53)
    (he : Binary.leastExponent ≤ e) :
    roundWithAccuracy .binary64 s m e .exact = .finite s m e h0 := by
  have hr : (⟨m, false, false⟩ : ExtendedMantissa).roundedMantissa = m := rfl
  rw [roundWithAccuracy, shiftToTargetExponent_of_lt hm he]
  simp only [hr, shiftToTargetExponent_of_lt hm he, dif_neg h0.ne']

/-- A positive double as its exact value, with a mantissa of 53 bits. -/
def Exactly (x : Float) (value : ℚ) : Prop :=
  ∃ m e h, x.toModel.unpack = .finite .positive m e h ∧ 2 ^ 52 ≤ m ∧ (m : ℚ) * 2 ^ e = value

/-- The integer with zeros after its last bit, so that there are 53 bits. -/
def full (m : ℕ) : ℕ := m <<< (52 - m.log2)

theorem full_bounds {m : ℕ} (h0 : 0 < m) (hm : m < 2 ^ 53) : 2 ^ 52 ≤ full m ∧ full m < 2 ^ 53 := by
  have hlog : m.log2 < 53 := (Nat.log2_lt h0.ne').2 hm
  rw [full, Nat.shiftLeft_eq]
  constructor
  · calc 2 ^ 52 = 2 ^ m.log2 * 2 ^ (52 - m.log2) := by rw [← Nat.pow_add]; congr 1; omega
      _ ≤ m * 2 ^ (52 - m.log2) := Nat.mul_le_mul_right _ (Nat.log2_self_le h0.ne')
  · calc m * 2 ^ (52 - m.log2) < 2 ^ (m.log2 + 1) * 2 ^ (52 - m.log2) :=
          Nat.mul_lt_mul_of_pos_right Nat.lt_log2_self (Nat.two_pow_pos _)
      _ = 2 ^ 53 := by rw [← Nat.pow_add]; congr 1; omega

theorem full_pos {m : ℕ} (h0 : 0 < m) : 0 < full m := Nat.shiftLeft_pos_iff.2 h0

/-- The double `m * 2 ^ e`. -/
def packFull (m : ℕ) (h0 : 0 < m) (e : ℤ) : Float.Model :=
  .pack (.finite .positive (full m) (e - (52 - m.log2 : ℕ)) (full_pos h0))

theorem isDouble_full {m : ℕ} (h0 : 0 < m) (hm : m < 2 ^ 53) {e : ℤ} (he : 0 ≤ e ∧ e ≤ 22) :
    IsDouble (full m) (e - (52 - m.log2 : ℕ)) := by
  obtain ⟨hl, hh⟩ := full_bounds h0 hm
  refine ⟨full_pos h0, hh, ?_, ?_, .inr hl⟩
  · unfold Binary.leastExponent
    omega
  · unfold greatestExponent
    omega

theorem exactly_packFull {m : ℕ} (h0 : 0 < m) (hm : m < 2 ^ 53) {e : ℤ} (he : 0 ≤ e ∧ e ≤ 22) :
    Exactly (.ofModel (packFull m h0 e)) (m * 2 ^ e) := by
  refine ⟨_, _, full_pos h0, unpack_pack_finite (isDouble_full h0 hm he), (full_bounds h0 hm).1, ?_⟩
  rw [full, Nat.shiftLeft_eq, sub_eq_add_neg, two_zpow_add, zpow_neg, zpow_natCast]
  push_cast
  field_simp

/-- An integer below `2 ^ 53` is a double. -/
theorem exactly_toFloat {m : ℕ} (h0 : 0 < m) (hm : m < 2 ^ 53) : Exactly m.toUInt64.toFloat m := by
  have hto : m.toUInt64.toNat = m := UInt64.toNat_ofNat_of_lt' (hm.trans (by decide))
  have hlog : m.log2 < 53 := (Nat.log2_lt h0.ne').2 hm
  have htarget : Format.binary64.targetExponent (totalExponent m 0) = -(52 - m.log2 : ℕ) := by
    rw [targetExponent_eq]
    unfold Binary.leastExponent
    omega
  have hround : UnpackedFloat.round .binary64 .positive m 0 =
      .finite .positive (full m) (0 - (52 - m.log2 : ℕ)) (full_pos h0) := by
    unfold UnpackedFloat.round
    rw [htarget]
    simp only [decreaseExponent, sub_neg_eq_add, zero_add, Int.toNat_natCast]
    exact roundWithAccuracy_of_lt _ _ (full_bounds h0 hm).2
      (isDouble_full h0 hm (by decide : (0 : ℤ) ≤ 0 ∧ (0 : ℤ) ≤ 22)).least
  have hof : m.toUInt64.toFloat = .ofModel (packFull m h0 0) := by
    show Float.ofModel (.pack (UnpackedFloat.ofUInt64 .binary64 m.toUInt64)) = _
    unfold UnpackedFloat.ofUInt64 UnpackedFloat.ofNat UnpackedFloat.ofInt UnpackedFloat.normalize
    rw [hto, Int.compare_eq_gt.2 (by omega)]
    simp only [Int.toNat_natCast, hround]
    rfl
  have := exactly_packFull h0 hm (by decide : (0 : ℤ) ≤ 0 ∧ (0 : ℤ) ≤ 22)
  rw [zpow_zero, mul_one] at this
  rw [hof]
  exact this

theorem powerOfTen_eq : ∀ e : Fin 23, Float.exactlyRepresentablePowersOfTen[e] =
    .ofModel (packFull (5 ^ (e : ℕ)) (Nat.pow_pos (by decide)) (e : ℕ)) := by
  decide +kernel

/-- The first powers of ten are doubles. -/
theorem exactly_powerOfTen {e : ℕ} (he : e < 23) :
    Exactly Float.exactlyRepresentablePowersOfTen[e] (10 ^ e) := by
  have h5 : 5 ^ e < 2 ^ 53 :=
    (Nat.pow_le_pow_right (by decide) (by omega : e ≤ 22)).trans_lt (by decide)
  have := exactly_packFull (Nat.pow_pos (by decide) : 0 < 5 ^ e) h5 (e := e) (by omega)
  have hentry : Float.exactlyRepresentablePowersOfTen[e] = _ := powerOfTen_eq ⟨e, he⟩
  rw [hentry]
  rwa [zpow_natCast, Nat.cast_pow, ← mul_pow, show ((5 : ℕ) : ℚ) * 2 = 10 by norm_num] at this

/-! ## Decimals -/

theorem Exactly.mul {x y : Float} {a b : ℚ} (hx : Exactly x a) (hy : Exactly y b) :
    ∃ u, Rounds .positive (a * b) u ∧ x * y = .ofModel (.pack u) := by
  obtain ⟨m, e, h, hu, hm, rfl⟩ := hx
  obtain ⟨n, f, k, hv, -, rfl⟩ := hy
  refine ⟨_, rounds_mul e f h k .positive .positive
    (hm.trans (Nat.le_mul_of_pos_right m k)), ?_⟩
  rw [← hu, ← hv]
  rfl

theorem Exactly.div {x y : Float} {a b : ℚ} (hx : Exactly x a) (hy : Exactly y b) :
    ∃ u, Rounds .positive (a / b) u ∧ x / y = .ofModel (.pack u) := by
  obtain ⟨m, e, h, hu, -, rfl⟩ := hx
  obtain ⟨n, f, k, hv, -, rfl⟩ := hy
  refine ⟨_, rounds_div e f h k .positive .positive, ?_⟩
  rw [← hu, ← hv]
  rfl

/-- **Reading a positive decimal gives the double nearest to it.** -/
theorem nearest_ofScientific {m : ℕ} (hm : 0 < m) (s : Bool) (e : ℕ) :
    ∃ u, Rounds .positive (m * 10 ^ (if s then -(e : ℤ) else e)) u ∧
      Float.ofScientific m s e = .ofModel (.pack u) := by
  by_cases h : m < 2 ^ 53 ∧ e ≤ 22
  · have hx := exactly_toFloat hm h.1
    have hy := exactly_powerOfTen (e := e) (by omega)
    rw [Float.ofScientific, dif_pos h]
    cases s with
    | true =>
      simp only [if_true]
      rw [zpow_neg, zpow_natCast, ← div_eq_mul_inv]
      exact hx.div hy
    | false =>
      simp only [Bool.false_eq_true, if_false]
      rw [zpow_natCast]
      exact hx.mul hy
  · rw [Float.ofScientific, dif_neg h]
    cases s with
    | true =>
      obtain ⟨u, hu, hp⟩ := rounds_ofScientific hm (-(e : ℤ))
      refine ⟨u, hu, ?_⟩
      rw [← hp]
      cases e <;> rfl
    | false =>
      obtain ⟨u, hu, hp⟩ := rounds_ofScientific hm e
      refine ⟨u, hu, ?_⟩
      rw [← hp]
      rfl

theorem unpack_toFloat_zero : (Nat.toUInt64 0).toFloat.toModel.unpack = .zero .positive := rfl

theorem Exactly.zero_div {y : Float} {b : ℚ} (hy : Exactly y b) :
    (Nat.toUInt64 0).toFloat / y = .ofModel (.pack (.zero .positive)) := by
  obtain ⟨n, f, k, hv, -, -⟩ := hy
  show Float.ofModel (.pack (UnpackedFloat.div .binary64 _ _)) = _
  rw [unpack_toFloat_zero, hv]
  rfl

theorem Exactly.zero_mul {y : Float} {b : ℚ} (hy : Exactly y b) :
    (Nat.toUInt64 0).toFloat * y = .ofModel (.pack (.zero .positive)) := by
  obtain ⟨n, f, k, hv, -, -⟩ := hy
  show Float.ofModel (.pack (UnpackedFloat.mul .binary64 _ _)) = _
  rw [unpack_toFloat_zero, hv]
  rfl

theorem ofScientific_zero (s : Bool) (e : ℕ) :
    Float.ofScientific 0 s e = .ofModel (.pack (.zero .positive)) := by
  by_cases h : 0 < 2 ^ 53 ∧ e ≤ 22
  · have hy := exactly_powerOfTen (e := e) (by omega)
    rw [Float.ofScientific, dif_pos h]
    cases s with
    | true => exact hy.zero_div
    | false => exact hy.zero_mul
  · rw [Float.ofScientific, dif_neg h]
    cases s <;> rfl

end DeltaBridge
