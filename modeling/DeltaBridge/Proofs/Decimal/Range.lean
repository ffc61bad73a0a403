import DeltaBridge.Proofs.Decimal.Spelling

/-!
# The range of the doubles

The greatest double is a row of 53 ones. What lies less than half a unit above it is rounded to it,
and from the middle between it and the next power of two on, which is even, everything is infinite.

* `Nearest.lt_iff`: what is rounded to less than an even integer;
* `unpack_pack_carried`: units of an exponent that is not too great make a double;
* **`Rounds.isFinite_iff`**: the sizes that are rounded to finite doubles;
* `isFinite_neg`, **`Numeral.isFinite_toFloat_iff`**: the numbers that are read as finite doubles.
-/

namespace DeltaBridge

open Float.Model Float.Model.UnpackedFloat

/-! ## Sizes -/

section Sizes

variable {s : Sign} {x : ℚ} {u : UnpackedFloat} {e : ℤ} {n : ℕ}

/-- The middle below an even integer is rounded up to it. -/
theorem Nearest.lt_iff {k : ℕ} (h : Nearest x n) (hk : k % 2 = 0) :
    n < k ↔ x < k - 1 / 2 := by
  constructor
  · intro hlt
    have hle : (n : ℚ) + 1 ≤ k := by exact_mod_cast hlt
    rcases Nat.lt_or_eq_of_le (Nat.succ_le_of_lt hlt) with hlt | rfl
    · have hlt : (n : ℚ) + 1 < k := by exact_mod_cast hlt
      have := h.high
      linarith
    · have := (h.odd (by omega)).2
      push_cast
      linarith
  · intro hx
    by_contra hle
    have hle : (k : ℚ) ≤ n := by exact_mod_cast Nat.not_lt.1 hle
    have := h.low
    linarith

theorem unpack_pack_carried (hu : HasUnit x e) (hn : Nearest (x / 2 ^ e) n)
    (he : e < greatestExponent ∨ e = greatestExponent ∧ n < 2 ^ 53) :
    (Float.Model.pack (carried s n e)).unpack = carried s n e := by
  have hleast := hu.least
  unfold carried
  split
  · cases s <;> rfl
  rename_i h0
  split
  · rename_i hlt
    refine unpack_pack_finite ⟨Nat.pos_of_ne_zero h0, hlt, hleast, by omega, ?_⟩
    by_cases hl : e = Binary.leastExponent
    · exact .inl hl
    · exact .inr (two_pow_le_of_hasUnit hu hn hl)
  · exact unpack_pack_finite ⟨by decide, by decide, by omega, by omega, .inr le_rfl⟩

theorem isFinite_carried (s : Sign) (n : ℕ) (e : ℤ) : (carried s n e).isFinite = true := by
  unfold carried
  split
  · rfl
  · split <;> rfl

theorem isFinite_infinity (s : Sign) :
    (Float.ofModel (.pack (.infinity s))).isFinite = false := by
  cases s <;> rfl

theorem threshold_eq : (2 : ℚ) ^ 1024 - 2 ^ 970 = ((2 ^ 53 : ℕ) - 1 / 2) * 2 ^ greatestExponent := by
  have h1024 : (2 : ℚ) ^ 1024 = 2 ^ 54 * 2 ^ 970 := pow_add 2 54 970
  have h971 : (2 : ℚ) ^ greatestExponent = 2 ^ 970 * 2 := by
    rw [show greatestExponent = ((970 : ℕ) : ℤ) + 1 from rfl, zpow_add_one₀ (by norm_num),
      zpow_natCast]
  rw [h1024, h971]
  generalize (2 : ℚ) ^ 970 = p
  push_cast
  ring

/-- **A size is rounded to a finite double exactly below the middle after the greatest one.** -/
theorem Rounds.isFinite_iff (h : Rounds s x u) :
    (Float.ofModel (.pack u)).isFinite = true ↔ x < 2 ^ 1024 - 2 ^ 970 := by
  obtain ⟨e, n, hu, hn, rfl⟩ := h
  have hunits := hn.lt_iff (k := 2 ^ 53) (by decide)
  rw [threshold_eq]
  rcases lt_trichotomy e greatestExponent with he | rfl | he
  · refine iff_of_true ?_ ?_
    · show (Float.Model.pack (carried s n e)).unpack.isFinite = true
      rw [unpack_pack_carried hu hn (.inl he)]
      exact isFinite_carried s n e
    · have hpos := two_zpow_pos greatestExponent
      calc x < 2 ^ (e + 53) := hu.high
        _ ≤ 2 ^ (52 + greatestExponent) := two_zpow_le (by omega)
        _ = 2 ^ (52 : ℤ) * 2 ^ greatestExponent := two_zpow_add _ _
        _ ≤ ((2 ^ 53 : ℕ) - 1 / 2) * 2 ^ greatestExponent := by gcongr; norm_num
  · rw [← div_lt_iff₀ (two_zpow_pos _), ← hunits]
    by_cases hlt : n < 2 ^ 53
    · refine iff_of_true ?_ hlt
      show (Float.Model.pack (carried s n greatestExponent)).unpack.isFinite = true
      rw [unpack_pack_carried hu hn (.inr ⟨rfl, hlt⟩)]
      exact isFinite_carried s n _
    · refine iff_of_false ?_ hlt
      unfold carried
      rw [dif_neg (by omega), if_neg hlt, pack_of_greatestExponent_lt s _ (by omega),
        isFinite_infinity]
      exact Bool.false_ne_true
  · have hleast : e ≠ Binary.leastExponent := by
      unfold greatestExponent at he
      unfold Binary.leastExponent
      omega
    refine iff_of_false ?_ (not_lt.2 ?_)
    · have hge := two_pow_le_of_hasUnit hu hn hleast
      have hp : Float.Model.pack (carried s n e) = .pack (.infinity s) := by
        unfold carried
        rw [dif_neg (by omega)]
        split
        · exact pack_of_greatestExponent_lt s _ he
        · exact pack_of_greatestExponent_lt s _ (by omega)
      rw [hp, isFinite_infinity]
      exact Bool.false_ne_true
    · have hpos := two_zpow_pos greatestExponent
      calc (((2 ^ 53 : ℕ) : ℚ) - 1 / 2) * 2 ^ greatestExponent
          ≤ 2 ^ (53 : ℤ) * 2 ^ greatestExponent := by gcongr; norm_num
        _ = 2 ^ (53 + greatestExponent) := (two_zpow_add _ _).symm
        _ ≤ 2 ^ (e + 52) := two_zpow_le (by omega)
        _ ≤ x := hu.low.resolve_left hleast

end Sizes

/-! ## Numbers -/

theorem isFinite_neg (x : Float) : (-x).isFinite = x.isFinite := by
  show (Float.Model.pack x.toModel.unpack.neg).unpack.isFinite = x.toModel.unpack.isFinite
  cases hu : x.toModel.unpack with
  | finite s m e h =>
    show (Float.Model.pack (.finite (-s) m e h)).unpack.isFinite = true
    rw [unpack_pack_finite (isDouble_of_unpack hu)]
    rfl
  | infinity s => cases s <;> rfl
  | zero s => cases s <;> rfl
  | notANumber => rfl

theorem isFinite_ofScientific_iff (m : ℕ) (e : ℤ) :
    (Float.ofScientific m (decide (e < 0)) e.natAbs).isFinite = true ↔
      (m : ℚ) * 10 ^ e < 2 ^ 1024 - 2 ^ 970 := by
  rcases Nat.eq_zero_or_pos m with rfl | hm
  · rw [ofScientific_zero, Nat.cast_zero, zero_mul]
    refine iff_of_true rfl ?_
    rw [threshold_eq]
    exact mul_pos (by norm_num) (two_zpow_pos greatestExponent)
  · obtain ⟨u, hu, hp⟩ := nearest_ofScientific hm (decide (e < 0)) e.natAbs
    have he : (if decide (e < 0) = true then -(e.natAbs : ℤ) else e.natAbs) = e := by
      split <;> rename_i h <;> simp only [decide_eq_true_eq] at h <;> omega
    rw [he] at hu
    rw [hp, hu.isFinite_iff]

/-- **A number is read as a finite double exactly if its size is below the middle after the greatest
one.** -/
theorem Numeral.isFinite_toFloat_iff (n : Numeral) :
    n.toFloat.isFinite = true ↔ n.size < 2 ^ 1024 - 2 ^ 970 := by
  unfold toFloat size decimalSize
  rw [← isFinite_ofScientific_iff]
  simp only
  split
  · rw [isFinite_neg]
  · rfl

end DeltaBridge
