import DeltaBridge.Proofs.Decimal.SignedZero

/-!
# Arithmetic that goes beyond the doubles

The exact result of an operation on doubles is rounded once, so the result is finite exactly if the
exact one is below the middle after the greatest double. A product may well go beyond that. A sum
with a number that is small compared to the last unit of the greatest double does not, and neither
does a quotient by a number of at least one.

* `magnitude`: the size of a double, `magnitude_le`; `Exactly.magnitude_eq`;
* `rounds_round`, `isFinite_normalize`: how a sum is rounded;
* **`isFinite_mul_iff`**: products; `isFinite_add`, `isFinite_sub`, `isFinite_div`: the others;
* `isFinite_of_roundPlaces?`: rounding to decimal places.
-/

namespace DeltaBridge

open Float.Model Float.Model.UnpackedFloat

/-! ## Sizes -/

/-- The size of a finite double. -/
def magnitude (x : Float) : ℚ :=
  match Binary.ofFloat x with
  | .finite _ m q => m * 2 ^ q
  | _ => 0

section Sizes

variable {x : Float} {s : Sign} {m : ℕ} {e : ℤ} {hm : 0 < m}

theorem magnitude_of_zero (h : x.toModel.unpack = .zero s) : magnitude x = 0 := by
  unfold magnitude Binary.ofFloat
  rw [h]
  simp

theorem magnitude_of_finite (h : x.toModel.unpack = .finite s m e hm) :
    magnitude x = m * 2 ^ e := by
  unfold magnitude Binary.ofFloat
  rw [h]

theorem Exactly.magnitude_eq {a : ℚ} (h : Exactly x a) : magnitude x = a := by
  obtain ⟨m, e, hm, hu, -, rfl⟩ := h
  exact magnitude_of_finite hu

theorem Exactly.isFinite {a : ℚ} (h : Exactly x a) : x.isFinite = true := by
  obtain ⟨m, e, hm, hu, -, -⟩ := h
  show x.toModel.unpack.isFinite = true
  rw [hu]
  rfl

theorem Exactly.of_binary (h : Binary.ofFloat x = .finite false m e) (hm : 2 ^ 52 ≤ m) :
    Exactly x (m * 2 ^ e) := by
  unfold Binary.ofFloat at h
  split at h
  · cases h
  · cases h
  · obtain ⟨-, rfl, -⟩ := Binary.finite.inj h
    exact absurd hm (by decide)
  · rename_i s n q hn hu
    obtain ⟨hs, rfl, rfl⟩ := Binary.finite.inj h
    cases s with
    | positive => exact ⟨_, _, hn, hu, hm, rfl⟩
    | negative => cases hs

theorem unpack_of_isFinite (h : x.isFinite = true) : (∃ s, x.toModel.unpack = .zero s) ∨
    ∃ s m e hm, x.toModel.unpack = .finite s m e hm := by
  have h : x.toModel.unpack.isFinite = true := h
  cases hu : x.toModel.unpack with
  | notANumber | infinity _ =>
    rw [hu] at h
    cases h
  | zero s => exact .inl ⟨s, rfl⟩
  | finite s m e hm => exact .inr ⟨s, m, e, hm, rfl⟩

theorem magnitude_nonneg (x : Float) : 0 ≤ magnitude x := by
  unfold magnitude
  split
  · exact mul_nonneg (Nat.cast_nonneg _) (two_zpow_pos _).le
  · exact le_rfl

/-- No double is greater than the row of 53 ones. -/
theorem magnitude_le (x : Float) : magnitude x ≤ 2 ^ 1024 - 2 ^ 971 := by
  have hmax : (2 : ℚ) ^ 1024 - 2 ^ 971 = (2 ^ 53 - 1) * 2 ^ greatestExponent := by
    have h1024 : (2 : ℚ) ^ 1024 = 2 ^ 53 * 2 ^ 971 := pow_add 2 53 971
    rw [h1024, show greatestExponent = ((971 : ℕ) : ℤ) from rfl, zpow_natCast, sub_mul, one_mul]
  have hpos := two_zpow_pos greatestExponent
  rw [hmax]
  cases hu : x.toModel.unpack with
  | finite s m e hm =>
    have hd := isDouble_of_unpack hu
    have hlt : (m : ℚ) ≤ 2 ^ 53 - 1 := by
      have : (m : ℚ) + 1 ≤ (2 ^ 53 : ℕ) := by exact_mod_cast hd.lt
      push_cast at this
      linarith
    rw [magnitude_of_finite hu]
    exact mul_le_mul hlt (two_zpow_le hd.greatest) (two_zpow_pos e).le (by norm_num)
  | zero s =>
    rw [magnitude_of_zero hu]
    exact mul_nonneg (by norm_num) hpos.le
  | notANumber | infinity _ =>
    have h0 : magnitude x = 0 := by rw [magnitude, Binary.ofFloat, hu]
    rw [h0]
    exact mul_nonneg (by norm_num) hpos.le

theorem magnitude_add_lt (x : Float) {r : ℚ} (hr : r < 2 ^ 970) :
    magnitude x + r < 2 ^ 1024 - 2 ^ 970 := by
  have h971 : (2 : ℚ) ^ 971 = 2 ^ 970 + 2 ^ 970 := by rw [pow_succ (2 : ℚ) 970, mul_two]
  have := magnitude_le x
  rw [h971] at this
  generalize (2 : ℚ) ^ 970 = p at hr this ⊢
  generalize (2 : ℚ) ^ 1024 = q at this ⊢
  linarith

end Sizes

/-! ## Rounding -/

section Rounding

variable {m : ℕ} {e : ℤ}

theorem log2_shiftLeft (hm : 0 < m) (k : ℕ) : (m <<< k).log2 = m.log2 + k := by
  rw [Nat.shiftLeft_eq, Nat.log2_eq_iff (Nat.mul_pos hm (Nat.two_pow_pos k)).ne']
  constructor
  · calc 2 ^ (m.log2 + k) = 2 ^ m.log2 * 2 ^ k := pow_add _ _ _
      _ ≤ m * 2 ^ k := Nat.mul_le_mul_right _ (Nat.log2_self_le hm.ne')
  · calc m * 2 ^ k < 2 ^ (m.log2 + 1) * 2 ^ k :=
          Nat.mul_lt_mul_of_pos_right Nat.lt_log2_self (Nat.two_pow_pos k)
      _ = 2 ^ (m.log2 + k + 1) := by rw [← pow_add]; congr 1; omega

theorem shiftLeft_mul {t : ℤ} (m : ℕ) (h : t ≤ e) :
    ((m <<< (e - t).toNat : ℕ) : ℚ) * 2 ^ t = m * 2 ^ e := by
  have he : (2 : ℚ) ^ e = 2 ^ (e - t).toNat * 2 ^ t := by
    rw [← zpow_natCast, ← two_zpow_add]
    congr 1
    omega
  rw [he, Nat.shiftLeft_eq]
  push_cast
  rw [mul_assoc]

/-- The double nearest to an integer with an exponent. -/
theorem rounds_round (s : Sign) (hm : 0 < m) (e : ℤ) :
    Rounds s (m * 2 ^ e) (UnpackedFloat.round .binary64 s m e) := by
  unfold UnpackedFloat.round decreaseExponent
  simp only
  generalize hk : (e - Format.binary64.targetExponent (totalExponent m e)).toNat = k
  have htarget : Format.binary64.targetExponent (totalExponent (m <<< k) (e - k)) =
      Format.binary64.targetExponent (totalExponent m e) := by
    rw [targetExponent_eq, targetExponent_eq, log2_shiftLeft hm]
    congr 1
    omega
  refine rounds_roundWithAccuracy s ?_ (by rw [htarget]; omega)
  have hvalue := shiftLeft_mul (e := e) (t := e - k) m (by omega)
  rw [sub_sub_cancel, Int.toNat_natCast] at hvalue
  rw [← hvalue, mul_div_assoc, div_self (two_zpow_pos _).ne', mul_one]
  exact denotes_exact _

/-- An integer with an exponent is rounded to a finite double below the middle after the greatest
one. -/
theorem isFinite_normalize {n : ℤ} (h : |(n : ℚ)| * 2 ^ e < 2 ^ 1024 - 2 ^ 970) :
    (Float.ofModel (.pack (UnpackedFloat.normalize .binary64 n e .positive))).isFinite = true := by
  unfold UnpackedFloat.normalize
  rcases lt_trichotomy n 0 with hn | rfl | hn
  · rw [Int.compare_eq_lt.2 hn]
    refine (rounds_round .negative (by omega) e).isFinite_iff.2 ?_
    have habs : (((-n).toNat : ℕ) : ℚ) = |(n : ℚ)| := by
      rw [abs_of_neg (by exact_mod_cast hn)]
      exact_mod_cast Int.toNat_of_nonneg (by omega : 0 ≤ -n)
    rwa [habs]
  · rw [Int.compare_eq_eq.2 rfl]
    exact (isZero_pack .positive).isFinite
  · rw [Int.compare_eq_gt.2 hn]
    refine (rounds_round .positive (by omega) e).isFinite_iff.2 ?_
    have habs : ((n.toNat : ℕ) : ℚ) = |(n : ℚ)| := by
      rw [abs_of_pos (by exact_mod_cast hn)]
      exact_mod_cast Int.toNat_of_nonneg hn.le
    rwa [habs]

theorem abs_apply (s : Sign) (m : ℕ) : |((s.apply m : ℤ) : ℚ)| = m := by
  cases s <;> simp [Sign.apply]

end Rounding

/-! ## Operations -/

section Operations

variable {x c : Float} {a : ℚ}

theorem isFinite_ofModel_unpack (x : Float) :
    (Float.ofModel (.pack x.toModel.unpack)).isFinite = x.isFinite := by
  rw [pack_unpack]

/-- **A product is finite exactly below the middle after the greatest double.** -/
theorem isFinite_mul_iff (hx : x.isFinite = true) (hc : Exactly c a) :
    (x * c).isFinite = true ↔ magnitude x * a < 2 ^ 1024 - 2 ^ 970 := by
  obtain ⟨n, f, hn, hv, hfull, rfl⟩ := hc
  show (Float.ofModel (.pack (mul .binary64 x.toModel.unpack c.toModel.unpack))).isFinite = true ↔ _
  rw [hv]
  rcases unpack_of_isFinite hx with ⟨s, hu⟩ | ⟨s, m, e, hm, hu⟩
  · have hzero : mul .binary64 (.zero s) (.finite .positive n f hn) = .zero (s * .positive) := rfl
    rw [hu, hzero, magnitude_of_zero hu, zero_mul, threshold_eq]
    exact iff_of_true (isZero_pack _).isFinite
      (mul_pos (by norm_num) (two_zpow_pos greatestExponent))
  · rw [hu, magnitude_of_finite hu]
    exact (rounds_mul e f hm hn s .positive
      (hfull.trans (Nat.le_mul_of_pos_left n hm))).isFinite_iff

/-- A quotient by a number of at least one is finite. -/
theorem isFinite_div (hx : x.isFinite = true) (hc : Exactly c a) (ha : 1 ≤ a) :
    (x / c).isFinite = true := by
  have hle : magnitude x / a < 2 ^ 1024 - 2 ^ 970 :=
    calc magnitude x / a ≤ magnitude x := div_le_self (magnitude_nonneg x) ha
      _ = magnitude x + 0 := (add_zero _).symm
      _ < _ := magnitude_add_lt x (by positivity)
  obtain ⟨n, f, hn, hv, -, rfl⟩ := hc
  show (Float.ofModel (.pack (div .binary64 x.toModel.unpack c.toModel.unpack))).isFinite = true
  rw [hv]
  rcases unpack_of_isFinite hx with ⟨s, hu⟩ | ⟨s, m, e, hm, hu⟩
  · have hzero : div .binary64 (.zero s) (.finite .positive n f hn) = .zero (s / .positive) := rfl
    rw [hu, hzero]
    exact (isZero_pack _).isFinite
  · rw [magnitude_of_finite hu] at hle
    rw [hu]
    exact (rounds_div e f hm hn s .positive).isFinite_iff.2 hle

theorem abs_align_le {m n : ℕ} {e f i j : ℤ} (hi : |(i : ℚ)| = (m <<< (e - min e f).toNat : ℕ))
    (hj : |(j : ℚ)| = (n <<< (f - min e f).toNat : ℕ)) :
    |((i + j : ℤ) : ℚ)| * 2 ^ min e f ≤ m * 2 ^ e + n * 2 ^ f := by
  have hpos := (two_zpow_pos (min e f)).le
  calc |((i + j : ℤ) : ℚ)| * 2 ^ min e f ≤ (|(i : ℚ)| + |(j : ℚ)|) * 2 ^ min e f := by
        push_cast
        exact mul_le_mul_of_nonneg_right (abs_add_le _ _) hpos
    _ = m * 2 ^ e + n * 2 ^ f := by
        rw [hi, hj, add_mul, shiftLeft_mul m (min_le_left e f), shiftLeft_mul n (min_le_right e f)]

/-- A sum with a small number is finite. -/
theorem isFinite_add (hx : x.isFinite = true) (hc : Exactly c a) (ha : a < 2 ^ 970) :
    (x + c).isFinite = true := by
  have hlt := magnitude_add_lt x ha
  have hfinite := hc.isFinite
  obtain ⟨n, f, hn, hv, -, rfl⟩ := hc
  show (Float.ofModel (.pack (add .binary64 x.toModel.unpack c.toModel.unpack))).isFinite = true
  rcases unpack_of_isFinite hx with ⟨s, hu⟩ | ⟨s, m, e, hm, hu⟩
  · rw [← isFinite_ofModel_unpack, hv] at hfinite
    rw [hu, hv]
    exact hfinite
  · rw [magnitude_of_finite hu] at hlt
    rw [hu, hv]
    exact isFinite_normalize
      ((abs_align_le (abs_apply s _) (abs_apply .positive _)).trans_lt hlt)

/-- A difference with a small number is finite. -/
theorem isFinite_sub (hx : x.isFinite = true) (hc : Exactly c a) (ha : a < 2 ^ 970) :
    (x - c).isFinite = true := by
  have hlt := magnitude_add_lt x ha
  have hfinite := (isFinite_neg c).trans hc.isFinite
  obtain ⟨n, f, hn, hv, -, rfl⟩ := hc
  show (Float.ofModel (.pack (sub .binary64 x.toModel.unpack c.toModel.unpack))).isFinite = true
  rcases unpack_of_isFinite hx with ⟨s, hu⟩ | ⟨s, m, e, hm, hu⟩
  · change (Float.ofModel (.pack c.toModel.unpack.neg)).isFinite = true at hfinite
    rw [hv] at hfinite
    rw [hu, hv]
    exact hfinite
  · rw [magnitude_of_finite hu] at hlt
    rw [hu, hv]
    exact isFinite_normalize
      ((abs_align_le (abs_apply s _) (abs_apply .negative _)).trans_lt hlt)

theorem isFinite_of_binary {negative : Bool} {m : ℕ} {q : ℤ}
    (h : Binary.ofFloat x = .finite negative m q) : x.isFinite = true := by
  show x.toModel.unpack.isFinite = true
  unfold Binary.ofFloat at h
  split at h
  · cases h
  · cases h
  · rename_i hu
    rw [hu]
    rfl
  · rename_i hu
    rw [hu]
    rfl

/-- What is rounded to places after the point stays finite, and only that. -/
theorem isFinite_of_roundPlaces? {places : ℤ} {z : Float}
    (h : roundPlaces? x places = some z) : z.isFinite = x.isFinite := by
  unfold roundPlaces? at h
  split at h
  · rename_i negative m q hx
    have hfinite := isFinite_of_binary hx
    split at h
    · cases h
      rfl
    split at h
    · cases h
      exact (isZero_ofUnits negative 0).isFinite.trans hfinite.symm
    · simp only at h
      split at h
      · rename_i hz
        cases h
        exact hz.trans hfinite.symm
      · cases h
  · cases h
    rfl

end Operations

end DeltaBridge
