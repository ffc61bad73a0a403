import DeltaBridge.Decimal.Binary
import Mathlib

/-!
# The bits of doubles

A double is its sign, its exponent and its mantissa: none of them is lost when it is packed into
bits, and bits that are unpacked and packed again are the same.

* `IsDouble`: the mantissas and the exponents of the doubles that are not zero,
  `isDouble_of_unpack`;
* `unpack_pack_finite`: from parts to bits and back;
* **`pack_unpack`**: from bits to parts and back.
-/

namespace DeltaBridge

open Float.Model Float.Model.UnpackedFloat

/-- The exponent of the greatest doubles. -/
def greatestExponent : ℤ := 971

/-- There is a double `mantissa * 2 ^ exponent` with this mantissa. -/
structure IsDouble (mantissa : ℕ) (exponent : ℤ) : Prop where
  pos : 0 < mantissa
  lt : mantissa < 2 ^ 53
  least : Binary.leastExponent ≤ exponent
  greatest : exponent ≤ greatestExponent
  /-- Only the least exponent has mantissas of fewer bits. -/
  normal : exponent = Binary.leastExponent ∨ 2 ^ 52 ≤ mantissa

/-! ## Finite numbers -/

theorem log2_normal {m : ℕ} (hl : 2 ^ 52 ≤ m) (hh : m < 2 ^ 53) : m.log2 = 52 :=
  (Nat.log2_eq_iff (by omega)).2 ⟨hl, hh⟩

theorem log2_subnormal {m : ℕ} (h0 : 0 < m) (h : m < 2 ^ 52) : m.log2 < 52 :=
  (Nat.log2_lt h0.ne').2 h

theorem toNat_one_append (m : BitVec 52) : (1#1 ++ m).toNat = 2 ^ 52 + m.toNat := by
  rw [BitVec.toNat_append, ← Nat.shiftLeft_add_eq_or_of_lt m.isLt]
  rfl

theorem unpack_packComponents (s : Sign) (e : BitVec 11) (m : BitVec 52) :
    UnpackedFloat.unpack .binary64 (packComponents .binary64 s e m) =
      if e = -1#11 then if m = 0#52 then .infinity s else .notANumber
      else if e = 0#11 then
        if h : m = 0#52 then .zero s
        else .finite s m.toNat Binary.leastExponent
          (by simpa [BitVec.toNat_pos, BitVec.pos_iff_ne_zero] using h)
      else .finite s (2 ^ 52 + m.toNat) (e.toNat - 1075) (by omega) := by
  unfold UnpackedFloat.unpack
  simp only [unpackMantissa_packComponents, unpackExponent_packComponents,
    unpackSign_packComponents, Sign.ofBitVec_toBitVec]
  split
  · rfl
  split
  · rename_i h0
    simp only [h0]
    rfl
  · congr 1
    exact toNat_one_append m

section Finite

variable {s : Sign} {m : ℕ} {e : ℤ} {h : 0 < m}

theorem pack_normal (hd : IsDouble m e) (hm : 2 ^ 52 ≤ m) :
    UnpackedFloat.pack .binary64 (.finite s m e h) =
      packComponents .binary64 s (.ofNat 11 (e + 1075).toNat) (.ofNat 52 m) := by
  have hg := hd.greatest
  unfold greatestExponent at hg
  have hbias : (e + Format.binary64.exponentBias + (52 : ℕ)).toNat = (e + 1075).toNat := by
    rw [add_assoc]
    rfl
  unfold UnpackedFloat.pack
  simp only [hbias, log2_normal hm hd.lt]
  rw [if_neg (by omega), if_pos (by rfl)]

theorem pack_subnormal (hd : IsDouble m e) (hm : m < 2 ^ 52) :
    UnpackedFloat.pack .binary64 (.finite s m e h) =
      packComponents .binary64 s 0#11 (.ofNat 52 m) := by
  obtain rfl : e = Binary.leastExponent := hd.normal.resolve_right (by omega)
  have hlog := log2_subnormal hd.pos hm
  unfold UnpackedFloat.pack
  simp only
  rw [if_neg (by decide), if_neg (by show ¬ m.log2 + 1 = 53; omega)]

/-- A double that is not zero can be packed. -/
theorem unpack_pack_finite (hd : IsDouble m e) :
    (Float.Model.pack (.finite s m e h)).unpack = .finite s m e h := by
  show UnpackedFloat.unpack .binary64 (UnpackedFloat.pack .binary64 (.finite s m e h)) = _
  have hl := hd.least
  have hg := hd.greatest
  unfold Binary.leastExponent at hl
  unfold greatestExponent at hg
  rcases Nat.lt_or_ge m (2 ^ 52) with hm | hm
  · have hto : (BitVec.ofNat 52 m).toNat = m := Nat.mod_eq_of_lt hm
    have hne : BitVec.ofNat 52 m ≠ 0#52 := fun h0 => h.ne' (by rw [← hto, h0]; rfl)
    obtain rfl : e = Binary.leastExponent := hd.normal.resolve_right (by omega)
    rw [pack_subnormal hd hm, unpack_packComponents, if_neg (by decide), if_pos rfl, dif_neg hne]
    simp only [hto]
  · have hto : (BitVec.ofNat 11 (e + 1075).toNat).toNat = (e + 1075).toNat :=
      Nat.mod_eq_of_lt (by omega)
    have hmod : (BitVec.ofNat 52 m).toNat = m - 2 ^ 52 := by
      have hlt := hd.lt
      rw [BitVec.toNat_ofNat]
      omega
    have hne : BitVec.ofNat 11 (e + 1075).toNat ≠ 0#11 := fun h0 => by
      rw [h0] at hto
      simp only [BitVec.toNat_zero] at hto
      omega
    have hno : BitVec.ofNat 11 (e + 1075).toNat ≠ -1#11 := fun h0 => by
      rw [h0] at hto
      simp only [BitVec.reduceNeg, BitVec.reduceToNat] at hto
      omega
    rw [pack_normal hd hm, unpack_packComponents, if_neg hno, if_neg hne]
    congr 1
    · rw [hmod]
      omega
    · rw [hto]
      omega

end Finite

/-! ## All doubles -/

theorem isDouble_normal {e : BitVec 11} (hno : e ≠ -1#11) (hne : e ≠ 0#11) (m : BitVec 52) :
    IsDouble (2 ^ 52 + m.toNat) (e.toNat - 1075) := by
  have hm := m.isLt
  have he := e.isLt
  have h0 : e.toNat ≠ 0 := fun h0 => hne (BitVec.eq_of_toNat_eq h0)
  have h1 : e.toNat ≠ 2047 := fun h1 => hno (BitVec.eq_of_toNat_eq h1)
  refine ⟨by omega, by omega, ?_, ?_, .inr (by omega)⟩
  · unfold Binary.leastExponent
    omega
  · unfold greatestExponent
    omega

theorem isDouble_subnormal {m : BitVec 52} (h : m ≠ 0#52) :
    IsDouble m.toNat Binary.leastExponent := by
  have hm := m.isLt
  have hpos : 0 < m.toNat := by simpa [BitVec.toNat_pos, BitVec.pos_iff_ne_zero] using h
  exact ⟨hpos, by omega, le_rfl, by decide, .inl rfl⟩

/-- What is unpacked from a double is a double. -/
theorem isDouble_of_unpack {b : BitVec Format.binary64.numBits} {s : Sign} {m : ℕ} {e : ℤ}
    {h : 0 < m} (hx : UnpackedFloat.unpack .binary64 b = .finite s m e h) : IsDouble m e := by
  rw [← packComponents_unpackSign_unpackExponent_unpackMantissa b, unpack_packComponents] at hx
  split at hx
  · split at hx <;> cases hx
  rename_i hno
  split at hx
  · split at hx
    · cases hx
    · rename_i hz
      cases hx
      exact isDouble_subnormal hz
  · rename_i hne
    cases hx
    exact isDouble_normal hno hne _

/-- **A double that is unpacked and packed again is the same.** -/
theorem pack_unpack (x : Float.Model) : Float.Model.pack x.unpack = x := by
  obtain ⟨bits, hv⟩ := x
  simp only [Float.Model.unpack, Float.Model.pack, pack_unpack_of_valid hv]

end DeltaBridge
