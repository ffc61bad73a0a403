import DeltaBridge.Decimal.Shortest
import DeltaBridge.Proofs.Decimal.Scientific

/-!
# The shortest decimal reads back

The rationals around a double that round to it are those in its span. The grid of 17 digits has a
point in the span, so the search for the shortest decimal succeeds, and what it finds rounds to the
double.

* `Around`: the rationals in the span, `rounds_of_around`;
* `Span.contains_iff`: the test for the points of a grid;
* `Span.ten_zpow_magnitude_le`, `Span.nearestOn_isSome`: a fine grid has a point in the span;
* **`around_shortest`**: the shortest decimal is in the span.
-/

namespace DeltaBridge

open Float.Model Float.Model.UnpackedFloat

/-! ## The span -/

/-- How far down the span of a double reaches, in units of its last bit. -/
def reach (m : ℕ) (q : ℤ) : ℚ := if m = 2 ^ 52 ∧ q ≠ Binary.leastExponent then 1 / 4 else 1 / 2

theorem reach_bounds (m : ℕ) (q : ℤ) : 1 / 4 ≤ reach m q ∧ reach m q ≤ 1 / 2 := by
  unfold reach
  split <;> norm_num

/-- The rational is in the span of `m * 2 ^ q`; the ends are in it if `m` is even. -/
structure Around (m : ℕ) (q : ℤ) (x : ℚ) : Prop where
  low : (m - reach m q) * 2 ^ q ≤ x
  high : x ≤ (m + 1 / 2) * 2 ^ q
  odd : m % 2 = 1 → (m - reach m q) * 2 ^ q < x ∧ x < (m + 1 / 2) * 2 ^ q

theorem Around.pos {m : ℕ} {q : ℤ} {x : ℚ} (hm : 0 < m) (h : Around m q x) : 0 < x := by
  have h1 : (1 : ℚ) ≤ m := by exact_mod_cast hm
  have hr := (reach_bounds m q).2
  refine lt_of_lt_of_le (mul_pos ?_ (two_zpow_pos q)) h.low
  linarith

/-- A rational with the unit of the double rounds to it if the mantissa is the nearest integer. -/
theorem rounds_of_nearest {m : ℕ} {q : ℤ} {y : ℚ} (s : Sign) (hd : IsDouble m q)
    (hn : Nearest y m) (hhigh : y < 2 ^ 53) (hlow : q = Binary.leastExponent ∨ 2 ^ 52 ≤ y) :
    Rounds s (y * 2 ^ q) (.finite s m q hd.pos) := by
  have hq := two_zpow_pos q
  refine ⟨q, m, ⟨hd.least, ?_, hlow.imp_right fun h => ?_⟩, ?_, ?_⟩
  · rw [add_comm, two_zpow_add]
    gcongr
    exact_mod_cast hhigh
  · rw [add_comm, two_zpow_add]
    gcongr
    exact_mod_cast h
  · rwa [mul_div_cancel_right₀ _ hq.ne']
  · rw [carried, dif_neg hd.pos.ne', if_pos hd.lt]

theorem rounds_below_power {q : ℤ} {y : ℚ} (s : Sign) (hq : Binary.leastExponent < q)
    (hl : 2 ^ 52 - 1 / 4 ≤ y) (hh : y < 2 ^ 52) :
    Rounds s (y * 2 ^ q) (.finite s (2 ^ 52) q (by decide)) := by
  have hq1 := two_zpow_pos (q - 1)
  have hpow : (2 : ℚ) ^ q = 2 * 2 ^ (q - 1) := by
    rw [show q = 1 + (q - 1) by omega, two_zpow_add]
    norm_num
  refine ⟨q - 1, 2 ^ 53, ⟨by omega, ?_, .inr ?_⟩, ?_, ?_⟩
  · rw [show q - 1 + 53 = 52 + q by omega, two_zpow_add]
    gcongr
    exact_mod_cast hh
  · rw [hpow, show q - 1 + 52 = 52 + (q - 1) by omega, two_zpow_add, ← mul_assoc]
    gcongr
    norm_num at hl ⊢
    linarith
  · rw [hpow, ← mul_assoc, mul_div_cancel_right₀ _ hq1.ne']
    push_cast
    exact ⟨by linarith, by linarith, fun h => by omega⟩
  · rw [carried, dif_neg (by decide), if_neg (by decide)]
    congr 1
    omega

/-- **The rationals in the span of a double round to it.** -/
theorem rounds_of_around {m : ℕ} {q : ℤ} {x : ℚ} (s : Sign) (hd : IsDouble m q)
    (h : Around m q x) : Rounds s x (.finite s m q hd.pos) := by
  have hq := two_zpow_pos q
  have hm : (m : ℚ) + 1 ≤ 2 ^ 53 := by exact_mod_cast hd.lt
  obtain ⟨y, rfl⟩ : ∃ y, x = y * 2 ^ q := ⟨x / 2 ^ q, by rw [div_mul_cancel₀ _ hq.ne']⟩
  obtain ⟨hl, hh, ho⟩ := h
  rw [mul_le_mul_iff_left₀ hq] at hl hh
  rw [mul_lt_mul_iff_left₀ hq, mul_lt_mul_iff_left₀ hq] at ho
  have hr := (reach_bounds m q).2
  by_cases hunit : q = Binary.leastExponent ∨ 2 ^ 52 ≤ y
  · have hn : Nearest y m := ⟨by linarith, hh, fun h => ⟨by linarith [(ho h).1], (ho h).2⟩⟩
    exact rounds_of_nearest s hd hn (by linarith) hunit
  · -- the double is a power of two, and the rational is below it
    rw [not_or, not_le] at hunit
    obtain ⟨hleast, hlt⟩ := hunit
    obtain rfl : m = 2 ^ 52 := by
      refine Nat.le_antisymm ?_ (hd.normal.resolve_left hleast)
      have : (m : ℚ) < 2 ^ 52 + 1 := by linarith
      exact Nat.lt_succ_iff.1 (by exact_mod_cast this)
    have hreach : reach (2 ^ 52) q = 1 / 4 := if_pos ⟨rfl, hleast⟩
    rw [hreach] at hl
    push_cast at hl
    exact rounds_below_power s (lt_of_le_of_ne hd.least (Ne.symm hleast)) hl hlt

/-! ## Grids -/

theorem pow_length_le_natDigits {n : ℕ} (h : 0 < n) : 10 ^ (natDigits n).length ≤ 10 * n := by
  induction n using natDigits.induct with
  | case1 n hn =>
    unfold natDigits
    rw [if_pos hn, List.length_singleton]
    omega
  | case2 n hn ih =>
    unfold natDigits
    rw [if_neg hn, List.length_append, List.length_singleton, pow_succ]
    have := ih (by omega)
    omega

theorem lt_pow_length_natDigits (n : ℕ) : n < 10 ^ (natDigits n).length := by
  have := readDigits_lt (natDigits_lt n)
  rwa [readDigits_natDigits] at this

namespace Span

variable {s : Span} {k : ℤ} {d : ℕ}

theorem factors_eq (hs : 0 < s.denominator) (k : ℤ) :
    0 < (s.factors k).1 ∧ 0 < (s.factors k).2 ∧
      ((s.factors k).1 : ℚ) = 10 ^ k * ((s.factors k).2 * s.denominator) := by
  unfold factors
  refine ⟨Nat.mul_pos (Nat.pow_pos (by decide)) hs, Nat.pow_pos (by decide), ?_⟩
  show ((10 ^ k.toNat * s.denominator : ℕ) : ℚ) = 10 ^ k * ((10 ^ (-k).toNat : ℕ) * s.denominator)
  push_cast
  rw [← mul_assoc, ← zpow_natCast, ← zpow_natCast, ← zpow_add₀ (by norm_num)]
  congr 2
  omega

theorem le_factors (hs : 0 < s.denominator) (n : ℕ) :
    n * (s.factors k).2 ≤ d * (s.factors k).1 ↔ (n : ℚ) / s.denominator ≤ d * 10 ^ k := by
  obtain ⟨-, hb, ha⟩ := factors_eq hs k
  have hq : (0 : ℚ) < s.denominator := by exact_mod_cast hs
  have hb : (0 : ℚ) < (s.factors k).2 := by exact_mod_cast hb
  rw [div_le_iff₀ hq, ← mul_le_mul_iff_left₀ hb, mul_assoc (d * 10 ^ k : ℚ), mul_assoc (d : ℚ),
    mul_comm (s.denominator : ℚ), ← ha]
  exact_mod_cast Iff.rfl

theorem factors_le (hs : 0 < s.denominator) (n : ℕ) :
    d * (s.factors k).1 ≤ n * (s.factors k).2 ↔ d * 10 ^ k ≤ (n : ℚ) / s.denominator := by
  obtain ⟨-, hb, ha⟩ := factors_eq hs k
  have hq : (0 : ℚ) < s.denominator := by exact_mod_cast hs
  have hb : (0 : ℚ) < (s.factors k).2 := by exact_mod_cast hb
  rw [le_div_iff₀ hq, ← mul_le_mul_iff_left₀ hb, mul_assoc (d * 10 ^ k : ℚ), mul_assoc (d : ℚ),
    mul_comm (s.denominator : ℚ), ← ha]
  exact_mod_cast Iff.rfl

/-- A point of a grid is in a closed span, or inside an open one. -/
theorem contains_iff (hs : 0 < s.denominator) :
    s.contains k d = true ↔
      if s.closed then
        (s.low : ℚ) / s.denominator ≤ d * 10 ^ k ∧ d * 10 ^ k ≤ (s.high : ℚ) / s.denominator
      else
        (s.low : ℚ) / s.denominator < d * 10 ^ k ∧ d * 10 ^ k < (s.high : ℚ) / s.denominator := by
  unfold contains
  simp only
  cases s.closed with
  | true => simp only [if_true, Bool.and_eq_true, decide_eq_true_eq, le_factors hs, factors_le hs]
  | false =>
    simp only [Bool.false_eq_true, if_false, Bool.and_eq_true, decide_eq_true_eq, ← not_le,
      le_factors hs, factors_le hs]

theorem contains_of_nearestOn (h : s.nearestOn k = some d) : s.contains k d = true := by
  unfold nearestOn at h
  simp only at h
  split at h
  · cases h
  · cases h
    assumption
  · cases h
    assumption
  · cases h
    split <;> assumption

/-- The value is between the two ends. -/
structure Proper (s : Span) : Prop where
  denominator : 0 < s.denominator
  low : (s.low : ℚ) / s.denominator < s.value / s.denominator
  high : (s.value : ℚ) / s.denominator < s.high / s.denominator

theorem contains_of_between (hs : 0 < s.denominator) (hl : (s.low : ℚ) / s.denominator < d * 10 ^ k)
    (hh : d * 10 ^ k < (s.high : ℚ) / s.denominator) : s.contains k d = true := by
  rw [contains_iff hs]
  split
  · exact ⟨hl.le, hh.le⟩
  · exact ⟨hl, hh⟩

/-- A grid that is finer than the span has a point in it. -/
theorem nearestOn_isSome (hs : s.Proper)
    (hk : (10 : ℚ) ^ k < (s.high : ℚ) / s.denominator - (s.low : ℚ) / s.denominator) :
    (s.nearestOn k).isSome = true := by
  have ha := (factors_eq hs.denominator k).1
  have hbelow : ((s.value * (s.factors k).2 / (s.factors k).1 : ℕ) : ℚ) * 10 ^ k ≤
      s.value / s.denominator :=
    (factors_le hs.denominator _).1 (Nat.div_mul_le_self _ _)
  have habove : (s.value : ℚ) / s.denominator <
      ((s.value * (s.factors k).2 / (s.factors k).1 + 1 : ℕ) : ℚ) * 10 ^ k := by
    rw [← not_le, ← factors_le hs.denominator, not_le]
    exact (Nat.lt_mul_div_succ _ ha).trans_eq (Nat.mul_comm _ _)
  unfold nearestOn
  simp only
  generalize s.value * (s.factors k).2 / (s.factors k).1 = n at hbelow habove
  have hlow := hs.low
  have hhigh := hs.high
  -- one of the two points around the value is in the span, as the ends are farther apart
  have hone : s.contains k n = true ∨ s.contains k (n + 1) = true := by
    rcases lt_or_ge ((s.low : ℚ) / s.denominator) (n * 10 ^ k) with h | h
    · exact .inl (contains_of_between hs.denominator h (hbelow.trans_lt hhigh))
    · refine .inr (contains_of_between hs.denominator (hlow.trans habove) ?_)
      push_cast
      linarith
  split
  · rename_i h₁ h₂
    rw [h₁, h₂] at hone
    simp at hone
  all_goals rfl

/-! ## The search -/

/-- The power of ten of the leading digit is not above the value. -/
theorem ten_zpow_magnitude_le (hs : 0 < s.denominator) (hv : 0 < s.value) :
    (10 : ℚ) ^ s.magnitude ≤ s.value / s.denominator := by
  have hq : (0 : ℚ) < s.denominator := by exact_mod_cast hs
  have hvq : (0 : ℚ) < s.value := by exact_mod_cast hv
  rw [le_div_iff₀ hq]
  unfold magnitude
  split
  · rename_i h
    have h1 : 0 < s.value / s.denominator := Nat.div_pos h hs
    have hpow := Nat.mul_le_mul_right s.denominator (pow_length_le_natDigits h1)
    have hdiv := Nat.div_mul_le_self s.value s.denominator
    have hle :
        10 ^ (natDigits (s.value / s.denominator)).length * s.denominator ≤ 10 * s.value := by
      rw [Nat.mul_assoc] at hpow
      omega
    have hle : (10 : ℚ) ^ (natDigits (s.value / s.denominator)).length * s.denominator ≤
        10 * s.value := by exact_mod_cast hle
    rw [zpow_sub₀ (by norm_num), zpow_natCast, zpow_one, div_mul_eq_mul_div,
      div_le_iff₀ (by norm_num)]
    linarith
  · have hlt := Nat.lt_mul_div_succ (s.denominator - 1) hv
    have hn := lt_pow_length_natDigits ((s.denominator - 1) / s.value)
    have hle :
        s.denominator ≤ 10 ^ (natDigits ((s.denominator - 1) / s.value)).length * s.value := by
      have := Nat.mul_le_mul_left s.value (Nat.add_one_le_iff.2 hn)
      rw [Nat.mul_comm]
      omega
    have hle : (s.denominator : ℚ) ≤
        10 ^ (natDigits ((s.denominator - 1) / s.value)).length * s.value := by exact_mod_cast hle
    rw [zpow_neg, zpow_natCast, inv_mul_le_iff₀ (by positivity)]
    exact hle

/-- A span that is wide enough for a grid of 17 digits has the decimal that the search finds. -/
theorem contains_shortest (hs : s.Proper) (hv : 0 < s.value)
    (hw : (s.value : ℚ) / s.denominator <
      10 ^ 16 * ((s.high : ℚ) / s.denominator - (s.low : ℚ) / s.denominator)) :
    s.contains s.shortest.exponent s.shortest.digits = true := by
  have hfine : (s.nearestOn (s.magnitude - (16 : ℕ))).isSome = true := by
    refine nearestOn_isSome hs ?_
    have hm := ten_zpow_magnitude_le hs.denominator hv
    rw [zpow_sub₀ (by norm_num), zpow_natCast, div_lt_iff₀ (by norm_num)]
    linarith
  have hsome : (((List.range 17).map fun (n : ℕ) => s.magnitude - n).findSome? fun k =>
      (s.nearestOn k).map fun d => Scientific.mk d k).isSome = true := by
    rw [List.findSome?_isSome_iff]
    exact ⟨_, List.mem_map.2 ⟨16, by decide, rfl⟩, by simpa using hfine⟩
  unfold shortest
  simp only
  split
  · rename_i d hd
    obtain ⟨k, -, hk⟩ := List.exists_of_findSome?_eq_some hd
    obtain ⟨n, hn, rfl⟩ := Option.map_eq_some_iff.1 hk
    exact contains_of_nearestOn hn
  · rename_i hnone
    rw [hnone] at hsome
    cases hsome

end Span

/-! ## Doubles -/

section Doubles

variable {m : ℕ} {q : ℤ}

theorem ofBinary_denominator : 0 < (Span.ofBinary m q).denominator := Nat.pow_pos (by decide)

theorem quarters (n : ℕ) (q : ℤ) :
    ((n * 2 ^ (q - 2).toNat : ℕ) : ℚ) / (2 ^ (2 - q).toNat : ℕ) = n / 4 * 2 ^ q := by
  have hpow : (2 : ℚ) ^ (q - 2).toNat = 2 ^ q / 4 * 2 ^ (2 - q).toNat := by
    rw [← zpow_natCast, ← zpow_natCast, show (4 : ℚ) = 2 ^ (2 : ℤ) by norm_num,
      ← zpow_sub₀ (by norm_num), ← two_zpow_add]
    congr 1
    omega
  rw [div_eq_iff (by positivity)]
  push_cast
  rw [hpow]
  ring

theorem ofBinary_low (hm : 0 < m) :
    ((Span.ofBinary m q).low : ℚ) / (Span.ofBinary m q).denominator = (m - reach m q) * 2 ^ q := by
  refine (quarters _ q).trans ?_
  congr 1
  split
  · rename_i h
    have hr : reach m q = 1 / 4 := if_pos h
    rw [hr, Nat.cast_sub (by omega)]
    push_cast
    ring
  · rename_i h
    have hr : reach m q = 1 / 2 := if_neg h
    rw [hr, Nat.cast_sub (by omega)]
    push_cast
    ring

theorem ofBinary_value :
    ((Span.ofBinary m q).value : ℚ) / (Span.ofBinary m q).denominator = m * 2 ^ q := by
  refine (quarters _ q).trans ?_
  push_cast
  ring

theorem ofBinary_high :
    ((Span.ofBinary m q).high : ℚ) / (Span.ofBinary m q).denominator = (m + 1 / 2) * 2 ^ q := by
  refine (quarters _ q).trans ?_
  push_cast
  ring

theorem proper_ofBinary (hm : 0 < m) (q : ℤ) : (Span.ofBinary m q).Proper := by
  have hr := (reach_bounds m q).1
  have hq := two_zpow_pos q
  refine ⟨ofBinary_denominator, ?_, ?_⟩
  · rw [ofBinary_low hm, ofBinary_value, mul_lt_mul_iff_left₀ hq]
    linarith
  · rw [ofBinary_value, ofBinary_high, mul_lt_mul_iff_left₀ hq]
    linarith

theorem around_of_contains (hm : 0 < m) {k : ℤ} {d : ℕ}
    (h : (Span.ofBinary m q).contains k d = true) : Around m q (d * 10 ^ k) := by
  rw [Span.contains_iff ofBinary_denominator, ofBinary_low hm, ofBinary_high] at h
  split at h
  · rename_i hc
    have hc : m % 2 = 0 := by simpa [Span.ofBinary] using hc
    exact ⟨h.1, h.2, fun ho => by omega⟩
  · exact ⟨h.1.le, h.2.le, fun _ => h⟩

/-- **The shortest decimal of a double is in its span.** -/
theorem around_shortest (hd : IsDouble m q) :
    Around m q
      ((Span.ofBinary m q).shortest.digits * 10 ^ (Span.ofBinary m q).shortest.exponent) := by
  have hm := hd.pos
  have hv : 0 < (Span.ofBinary m q).value :=
    Nat.mul_pos (Nat.mul_pos (by decide) hm) (Nat.pow_pos (by decide))
  refine around_of_contains hm (Span.contains_shortest (proper_ofBinary hm q) hv ?_)
  rw [ofBinary_value, ofBinary_high, ofBinary_low hm, ← sub_mul, ← mul_assoc,
    mul_lt_mul_iff_left₀ (two_zpow_pos q)]
  unfold reach
  split
  · rename_i h
    rw [h.1]
    norm_num
  · have : (m : ℚ) < 2 ^ 53 := by exact_mod_cast hd.lt
    norm_num at this ⊢
    linarith

end Doubles

end DeltaBridge
