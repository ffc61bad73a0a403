import DeltaBridge.Decimal.Binary
import Mathlib

/-!
# Rounding to doubles

The double nearest to a positive rational: a unit that depends on the size of the rational, and the
whole number of units nearest to it. That is what the arithmetic of doubles computes from a mantissa
and two bits for what was cut off.

* `Nearest`: the integer nearest to a rational, `Nearest.unique`;
* `Denotes`: the rationals that a mantissa and its two bits may stand for, `Denotes.nearest`,
  `Denotes.shiftRight`;
* `HasUnit`, `Rounds`: the unit, and the nearest double; `Rounds.unique`;
* **`rounds_roundWithAccuracy`**: what is computed is the nearest double.
-/

namespace DeltaBridge

open Float.Model Float.Model.UnpackedFloat

/-! ## The nearest integer -/

/-- The integer nearest to a rational; of two equally near ones it is the even one. -/
structure Nearest (x : ℚ) (n : ℕ) : Prop where
  low : n - 1 / 2 ≤ x
  high : x ≤ n + 1 / 2
  /-- An odd integer is not one of two equally near ones. -/
  odd : n % 2 = 1 → n - 1 / 2 < x ∧ x < n + 1 / 2

theorem Nearest.le {x : ℚ} {m n : ℕ} (hm : Nearest x m) (hn : Nearest x n) : n ≤ m := by
  by_contra hlt
  have hmn : m + 1 ≤ n := by omega
  have h₁ : (m : ℚ) + 1 ≤ n := by exact_mod_cast hmn
  have h₂ := hm.high
  have h₃ := hn.low
  have heq : n = m + 1 := by
    have : (n : ℚ) ≤ m + 1 := by linarith
    exact Nat.le_antisymm (by exact_mod_cast this) hmn
  -- the rational is halfway between the two, and one of them is odd
  rcases Nat.mod_two_eq_zero_or_one m with h | h
  · have := (hn.odd (by omega)).1
    linarith
  · have := (hm.odd h).2
    linarith

theorem Nearest.unique {x : ℚ} {m n : ℕ} (hm : Nearest x m) (hn : Nearest x n) : m = n :=
  Nat.le_antisymm (hn.le hm) (hm.le hn)

/-! ## Mantissas with two bits more -/

/-- The mantissa is the integer part of the rational; of the rest, the bits say whether it is zero,
below a half, a half, or more. -/
def Denotes (em : ExtendedMantissa) (x : ℚ) : Prop :=
  match em.roundBit, em.stickyBit with
  | false, false => x = em.mantissa
  | false, true => em.mantissa < x ∧ x < em.mantissa + 1 / 2
  | true, false => x = em.mantissa + 1 / 2
  | true, true => em.mantissa + 1 / 2 < x ∧ x < em.mantissa + 1

section Denoting

variable {em : ExtendedMantissa} {x : ℚ}

theorem denotes_exact (m : ℕ) : Denotes (.ofMantissaAndAccuracy m .exact) m := rfl

theorem denotes_div (n : ℕ) {d : ℕ} (hd : 0 < d) :
    Denotes (.ofMantissaAndAccuracy (n / d) (accuracyOfFraction (n % d) d)) (n / d) := by
  have hq : (0 : ℚ) < d := by exact_mod_cast hd
  have hsplit : (n : ℚ) / d = (n / d : ℕ) + ((n % d : ℕ) : ℚ) / d := by
    have h : (n : ℚ) = d * (n / d : ℕ) + (n % d : ℕ) := by exact_mod_cast (Nat.div_add_mod n d).symm
    rw [h]
    field_simp
  have hlt : n % d < d := Nat.mod_lt n hd
  rw [hsplit]
  generalize n / d = m
  generalize n % d = r at hlt
  have hone : (r : ℚ) / d < 1 := (div_lt_one hq).2 (by exact_mod_cast hlt)
  unfold accuracyOfFraction
  split
  · rename_i h0
    simp [Denotes, ExtendedMantissa.ofMantissaAndAccuracy, h0]
  · rename_i h0
    have hpos : (0 : ℚ) < r / d := div_pos (by exact_mod_cast Nat.pos_of_ne_zero h0) hq
    cases hc : compare (2 * r) d with
    | lt =>
      have hc : 2 * (r : ℚ) < d := by exact_mod_cast Nat.compare_eq_lt.1 hc
      have : (r : ℚ) / d < 1 / 2 := by rw [div_lt_iff₀ hq]; linarith
      show (m : ℚ) < m + r / d ∧ m + (r : ℚ) / d < m + 1 / 2
      exact ⟨by linarith, by linarith⟩
    | eq =>
      have hc : 2 * (r : ℚ) = d := by exact_mod_cast Nat.compare_eq_eq.1 hc
      have : (r : ℚ) / d = 1 / 2 := by rw [div_eq_iff hq.ne']; linarith
      rw [this]
      rfl
    | gt =>
      have hc : (d : ℚ) < 2 * r := by exact_mod_cast Nat.compare_eq_gt.1 hc
      have : 1 / 2 < (r : ℚ) / d := by rw [lt_div_iff₀ hq]; linarith
      show (m : ℚ) + 1 / 2 < m + r / d ∧ m + (r : ℚ) / d < m + 1
      exact ⟨by linarith, by linarith⟩

theorem Denotes.le (h : Denotes em x) : em.mantissa ≤ x := by
  obtain ⟨m, r, s⟩ := em
  cases r <;> cases s <;> simp only [Denotes] at h ⊢ <;> linarith

theorem Denotes.lt (h : Denotes em x) : x < em.mantissa + 1 := by
  obtain ⟨m, r, s⟩ := em
  cases r <;> cases s <;> simp only [Denotes] at h ⊢ <;> linarith

/-- Shifting halves: the last bit of the mantissa becomes the first of the two bits. -/
theorem Denotes.shiftRightOne (h : Denotes em x) : Denotes em.shiftRightOne (x / 2) := by
  obtain ⟨m, r, s⟩ := em
  have hm : ((m % 2 : ℕ) : ℚ) + 2 * (m / 2 : ℕ) = m := by exact_mod_cast Nat.mod_add_div m 2
  show Denotes ⟨m / 2, m % 2 != 0, r || s⟩ (x / 2)
  generalize m / 2 = n at hm ⊢
  rcases Nat.mod_two_eq_zero_or_one m with h2 | h2 <;> rw [h2] at hm ⊢ <;> push_cast at hm
  · show Denotes ⟨n, false, r || s⟩ (x / 2)
    cases r <;> cases s <;> simp only [Denotes, Bool.or_false, Bool.or_true] at h ⊢
    · linarith
    all_goals exact ⟨by linarith, by linarith⟩
  · show Denotes ⟨n, true, r || s⟩ (x / 2)
    cases r <;> cases s <;> simp only [Denotes, Bool.or_false, Bool.or_true] at h ⊢
    · linarith
    all_goals exact ⟨by linarith, by linarith⟩

theorem Denotes.shiftRight (h : Denotes em x) (k : ℕ) : Denotes (em >>> k) (x / 2 ^ k) := by
  induction k with
  | zero =>
    rw [pow_zero, div_one]
    exact h
  | succ k ih =>
    rw [pow_succ, ← div_div]
    exact ih.shiftRightOne

/-- Rounding by the bits gives the nearest integer. -/
theorem Denotes.nearest (h : Denotes em x) : Nearest x em.roundedMantissa := by
  obtain ⟨m, r, s⟩ := em
  cases r <;> cases s <;> simp only [Denotes] at h
  · show Nearest x m
    exact ⟨by linarith, by linarith, fun _ => ⟨by linarith, by linarith⟩⟩
  · show Nearest x m
    exact ⟨by linarith, by linarith, fun _ => ⟨by linarith, by linarith⟩⟩
  · show Nearest x (m + m % 2)
    rcases Nat.mod_two_eq_zero_or_one m with h2 | h2 <;> rw [h2]
    · exact ⟨by push_cast; linarith, by push_cast; linarith, fun h => by omega⟩
    · exact ⟨by push_cast; linarith, by push_cast; linarith, fun h => by omega⟩
  · show Nearest x (m + 1)
    have hc : ((m + 1 : ℕ) : ℚ) = m + 1 := by push_cast; rfl
    exact ⟨by linarith, by linarith, fun _ => ⟨by linarith, by linarith⟩⟩

end Denoting

/-! ## The unit -/

theorem two_zpow_pos (e : ℤ) : (0 : ℚ) < 2 ^ e := zpow_pos (by norm_num) e

theorem two_zpow_add (e f : ℤ) : (2 : ℚ) ^ (e + f) = 2 ^ e * 2 ^ f := zpow_add₀ (by norm_num) e f

theorem two_zpow_le {e f : ℤ} (h : e ≤ f) : (2 : ℚ) ^ e ≤ 2 ^ f :=
  zpow_le_zpow_right₀ (by norm_num) h

/-- The doubles near the rational are multiples of `2 ^ unit`. -/
structure HasUnit (x : ℚ) (unit : ℤ) : Prop where
  least : Binary.leastExponent ≤ unit
  high : x < 2 ^ (unit + 53)
  low : unit = Binary.leastExponent ∨ 2 ^ (unit + 52) ≤ x

theorem HasUnit.le {x : ℚ} {t u : ℤ} (ht : HasUnit x t) (hu : HasUnit x u) : u ≤ t := by
  rcases hu.low with h | h
  · rw [h]
    exact ht.least
  · have := (zpow_lt_zpow_iff_right₀ (by norm_num : (1 : ℚ) < 2)).1 (h.trans_lt ht.high)
    omega

theorem HasUnit.unique {x : ℚ} {t u : ℤ} (ht : HasUnit x t) (hu : HasUnit x u) : t = u :=
  Int.le_antisymm (hu.le ht) (ht.le hu)

theorem targetExponent_eq (m : ℕ) (e : ℤ) :
    Format.binary64.targetExponent (totalExponent m e) =
      max (m.log2 + e - 52) Binary.leastExponent := by
  simp only [Format.targetExponent, totalExponent, Format.mantissaBits, Format.minExponent,
    Binary.leastExponent]
  omega

/-- The exponent to which a mantissa is shifted is the unit of what it denotes. -/
theorem hasUnit_targetExponent {m : ℕ} {e : ℤ} {x : ℚ} (hl : m ≤ x) (hh : x < m + 1)
    (he : e ≤ Format.binary64.targetExponent (totalExponent m e)) :
    HasUnit (x * 2 ^ e) (Format.binary64.targetExponent (totalExponent m e)) := by
  rw [targetExponent_eq] at he ⊢
  have hpos := two_zpow_pos e
  refine ⟨le_max_right _ _, ?_, ?_⟩
  · have hm : (m : ℚ) + 1 ≤ 2 ^ ((m.log2 : ℤ) + 1) := by exact_mod_cast Nat.lt_log2_self
    calc x * 2 ^ e < 2 ^ ((m.log2 : ℤ) + 1) * 2 ^ e := by gcongr; linarith
      _ = 2 ^ ((m.log2 : ℤ) + 1 + e) := (two_zpow_add _ _).symm
      _ ≤ _ := two_zpow_le (by omega)
  · rcases le_or_gt ((m.log2 : ℤ) + e - 52) Binary.leastExponent with h | h
    · exact .inl (max_eq_right h)
    · right
      have h0 : m ≠ 0 := by
        rintro rfl
        simp only [Nat.log2_zero] at he h
        omega
      have hm : (2 : ℚ) ^ (m.log2 : ℤ) ≤ m := by exact_mod_cast Nat.log2_self_le h0
      calc (2 : ℚ) ^ (max ((m.log2 : ℤ) + e - 52) Binary.leastExponent + 52)
          = 2 ^ ((m.log2 : ℤ) + e) := by rw [max_eq_left h.le]; congr 1; omega
        _ = 2 ^ (m.log2 : ℤ) * 2 ^ e := two_zpow_add _ _
        _ ≤ x * 2 ^ e := by gcongr; linarith

/-! ## The nearest double -/

/-- The number of `units` of `2 ^ e`, which are at most `2 ^ 53`. -/
def carried (s : Sign) (units : ℕ) (e : ℤ) : UnpackedFloat :=
  if h : units = 0 then .zero s
  else if units < 2 ^ 53 then .finite s units e (Nat.pos_of_ne_zero h)
  else .finite s (2 ^ 52) (e + 1) (by decide)

/-- The double with the sign `s` that is nearest to the size `x`, with no bound on exponents. -/
def Rounds (s : Sign) (x : ℚ) (u : UnpackedFloat) : Prop :=
  ∃ e n, HasUnit x e ∧ Nearest (x / 2 ^ e) n ∧ u = carried s n e

theorem Rounds.unique {s : Sign} {x : ℚ} {u v : UnpackedFloat} (hu : Rounds s x u)
    (hv : Rounds s x v) : u = v := by
  obtain ⟨e, n, he, hn, rfl⟩ := hu
  obtain ⟨f, m, hf, hm, rfl⟩ := hv
  obtain rfl := he.unique hf
  rw [hn.unique hm]

theorem shiftToTargetExponent_eq {m : ℕ} {e : ℤ} (a : Accuracy)
    (he : e ≤ Format.binary64.targetExponent (totalExponent m e)) :
    shiftToTargetExponent .binary64 m e a =
      (ExtendedMantissa.ofMantissaAndAccuracy m a >>>
          (Format.binary64.targetExponent (totalExponent m e) - e).toNat,
        Format.binary64.targetExponent (totalExponent m e)) := by
  unfold shiftToTargetExponent shiftToExponent
  simp only [Int.toNat_of_nonneg (Int.sub_nonneg.2 he), add_sub_cancel]

theorem shiftToTargetExponent_of_lt {m : ℕ} {e : ℤ} (hm : m < 2 ^ 53)
    (he : Binary.leastExponent ≤ e) :
    shiftToTargetExponent .binary64 m e .exact = (⟨m, false, false⟩, e) := by
  have hlog : m.log2 ≤ 52 := by
    rcases Nat.eq_zero_or_pos m with rfl | hpos
    · simp
    · have := (Nat.log2_lt hpos.ne').2 hm
      omega
  have h0 : (Format.binary64.targetExponent (totalExponent m e) - e).toNat = 0 := by
    rw [targetExponent_eq]
    omega
  rw [shiftToTargetExponent, shiftToExponent, h0]
  simp only [Nat.cast_zero, add_zero]
  rfl

theorem shiftToTargetExponent_two_pow {e : ℤ} (he : Binary.leastExponent ≤ e) :
    shiftToTargetExponent .binary64 (2 ^ 53) e .exact = (⟨2 ^ 52, false, false⟩, e + 1) := by
  have h1 : (Format.binary64.targetExponent (totalExponent (2 ^ 53) e) - e).toNat = 1 := by
    rw [targetExponent_eq, Nat.log2_two_pow]
    omega
  rw [shiftToTargetExponent, shiftToExponent, h1]
  rfl

/-- **The double that is computed is the nearest one.** The mantissa must have enough bits: its
exponent is at most the one that it is shifted to. -/
theorem rounds_roundWithAccuracy {m : ℕ} {e : ℤ} {a : Accuracy} {x : ℚ} (s : Sign)
    (hx : Denotes (.ofMantissaAndAccuracy m a) (x / 2 ^ e))
    (he : e ≤ Format.binary64.targetExponent (totalExponent m e)) :
    Rounds s x (roundWithAccuracy .binary64 s m e a) := by
  have hm : (ExtendedMantissa.ofMantissaAndAccuracy m a).mantissa = m := by
    rcases a with _ | (_ | _ | _) <;> rfl
  have hu := hasUnit_targetExponent (hm ▸ hx.le) (hm ▸ hx.lt) he
  rw [div_mul_cancel₀ _ (two_zpow_pos e).ne'] at hu
  have h₁ := shiftToTargetExponent_eq a he
  generalize Format.binary64.targetExponent (totalExponent m e) = t at he hu h₁
  have hn := (hx.shiftRight (t - e).toNat).nearest
  have hdiv : x / 2 ^ e / 2 ^ (t - e).toNat = x / 2 ^ t := by
    rw [div_div, ← zpow_natCast, Int.toNat_of_nonneg (by omega), ← two_zpow_add,
      add_sub_cancel]
  rw [hdiv] at hn
  have hle : (ExtendedMantissa.ofMantissaAndAccuracy m a >>> (t - e).toNat).roundedMantissa ≤
      2 ^ 53 := by
    have hlt : x / 2 ^ t < 2 ^ 53 := by
      rw [div_lt_iff₀ (two_zpow_pos t)]
      calc x < 2 ^ (t + 53) := hu.high
        _ = 2 ^ 53 * 2 ^ t := by rw [two_zpow_add, mul_comm]; norm_num
    have := hn.low
    rw [← Nat.lt_add_one_iff]
    have h : ((ExtendedMantissa.ofMantissaAndAccuracy m a >>> (t - e).toNat).roundedMantissa : ℚ) <
      2 ^ 53 + 1 := by linarith
    exact_mod_cast h
  refine ⟨t, _, hu, hn, ?_⟩
  rw [roundWithAccuracy, h₁]
  simp only
  generalize (ExtendedMantissa.ofMantissaAndAccuracy m a >>> (t - e).toNat).roundedMantissa = n
    at hle
  unfold carried
  rcases Nat.lt_or_eq_of_le hle with hlt | rfl
  · rw [shiftToTargetExponent_of_lt hlt hu.least]
    simp only [hlt, if_true]
  · rw [shiftToTargetExponent_two_pow hu.least]
    rfl

end DeltaBridge
