import DeltaBridge.Proofs.Decimal.Shortest
import DeltaBridge.Proofs.Json.Number

/-!
# Numbers that are written are read back

A number is spelled as its sign, digits, a point with more digits and an exponent, of which the last
two may be missing, which is a number of JSON. The parts of the text of a double make up a decimal
in its span.

* `spelled`: numbers from their parts, `numberNotation_spelled`;
* `Spells`, `spells_writeScientific`: the parts of a decimal that is written;
* **`floatText_eq_spelled`**: the text of a double has parts that are read as that double;
  `numberNotation_intText`: the text of an integer.
-/

namespace DeltaBridge

open Ascii Json

/-! ## Parts -/

/-- The exponent in the format, if there is one. -/
def exponentText (f : Layout) (e : Option ℤ) : Text := (e.map f.exponentPart).getD []

/-- A number with the given parts. -/
def spelled (f : Layout) (negative : Bool) (whole fraction : List ℕ) (exponent : Option ℤ) : Text :=
  signText negative ++ (whole.map digitChar ++ (fractionText fraction ++ exponentText f exponent))

theorem readDigits_replicate_append (k : ℕ) (ds : List ℕ) :
    readDigits (List.replicate k 0 ++ ds) = readDigits ds := by
  induction k with
  | zero => rfl
  | succ k ih => exact ih

theorem lt_zeros_append {ds : List ℕ} (k : ℕ) (h : ∀ d ∈ ds, d < 10) :
    ∀ d ∈ List.replicate k 0 ++ ds, d < 10 := by
  intro d hd
  rcases List.mem_append.1 hd with hd | hd
  · rw [List.eq_of_mem_replicate hd]
    decide
  · exact h d hd

theorem exponentPart_eq (f : Layout) (e : ℤ) : ∃ zeros, f.exponentPart e =
    0x65 :: (if e < 0 then minus else plus) ::
      (List.replicate zeros 0 ++ natDigits e.natAbs).map digitChar := ⟨_, rfl⟩

theorem signed_natDigits (e : ℤ) (zeros : ℕ) :
    signed (decide (e < 0)) (List.replicate zeros 0 ++ natDigits e.natAbs) = e := by
  rw [signed, readDigits_replicate_append, readDigits_natDigits]
  split <;> rename_i h <;> simp only [decide_eq_true_eq] at h <;> omega

theorem signed_natDigits_natAbs (n : ℤ) :
    signed (decide (n < 0)) (natDigits n.natAbs) = n := signed_natDigits n 0

theorem exponentSpelling_exponentText (f : Layout) (e : Option ℤ) :
    ExponentSpelling (exponentText f e) e := by
  cases e with
  | none => exact .none
  | some e =>
    obtain ⟨zeros, he⟩ := exponentPart_eq f e
    have hsign : SignNotation [if e < 0 then minus else plus] (decide (e < 0)) := by
      by_cases h : e < 0
      · rw [if_pos h, decide_eq_true h]
        exact .minus
      · rw [if_neg h, decide_eq_false h]
        exact .plus
    have hx := ExponentSpelling.letter (.inl rfl) hsign
      (lt_zeros_append zeros (natDigits_lt e.natAbs)) (by simp [natDigits_ne_nil])
    rw [signed_natDigits e zeros] at hx
    show ExponentSpelling (f.exponentPart e) (some e)
    rw [he]
    exact hx

/-- What is spelled is a number of JSON. -/
theorem numberNotation_spelled (f : Layout) (negative : Bool) {whole fraction : List ℕ}
    (exponent : Option ℤ) (hw : IsWhole whole) (hf : ∀ d ∈ fraction, d < 10) :
    NumberNotation (spelled f negative whole fraction exponent)
      (.ofParts negative whole fraction exponent) :=
  .parts hw hf (exponentSpelling_exponentText f exponent)

/-! ## Writing -/

theorem natDigits_of_lt {n : ℕ} (h : n < 10) : natDigits n = [n] := by
  unfold natDigits
  exact if_pos h

theorem exists_natDigits_cons {n : ℕ} (h : 0 < n) : ∃ d ds, natDigits n = d :: ds ∧ d ≠ 0 := by
  induction n using natDigits.induct with
  | case1 n hn => exact ⟨n, [], natDigits_of_lt hn, h.ne'⟩
  | case2 n hn ih =>
    obtain ⟨d, ds, hd, h0⟩ := ih (by omega)
    refine ⟨d, ds ++ [n % 10], ?_, h0⟩
    unfold natDigits
    rw [if_neg hn, hd, List.cons_append]

theorem readDigits_append_zeros (ds : List ℕ) (k : ℕ) :
    readDigits (ds ++ List.replicate k 0) = readDigits ds * 10 ^ k := by
  have h0 : readDigits (List.replicate k 0) = 0 := by
    have := readDigits_replicate_append k []
    rwa [List.append_nil] at this
  rw [readDigits_append, h0, List.length_replicate, Nat.add_zero]
  rfl

theorem significant_spec {n : ℕ} (h : 0 < n) :
    ∃ d ds zeros, Layout.significant n = d :: ds ∧ d ≠ 0 ∧
      natDigits n = d :: ds ++ List.replicate zeros 0 := by
  obtain ⟨d, ds, hd, h0⟩ := exists_natDigits_cons h
  have hzeros : (natDigits n).reverse.takeWhile (· == 0) =
      List.replicate ((natDigits n).reverse.takeWhile (· == 0)).length 0 := by
    refine List.eq_replicate_of_mem fun x hx => ?_
    simpa using List.all_eq_true.1 List.all_takeWhile x hx
  have hsplit : natDigits n = ((natDigits n).reverse.dropWhile (· == 0)).reverse ++
      List.replicate ((natDigits n).reverse.takeWhile (· == 0)).length 0 := by
    rw [← List.reverse_replicate, ← hzeros, ← List.reverse_append, List.takeWhile_append_dropWhile,
      List.reverse_reverse]
  generalize ((natDigits n).reverse.takeWhile (· == 0)).length = zeros at hsplit
  unfold Layout.significant
  cases hr : ((natDigits n).reverse.dropWhile (· == 0)).reverse with
  | nil =>
    -- only a zero has no other digits
    rw [hr, List.nil_append, hd] at hsplit
    exact absurd (List.eq_of_mem_replicate (hsplit ▸ List.mem_cons_self)) h0
  | cons x xs =>
    rw [hr] at hsplit
    have hx : d = x := by
      rw [hd] at hsplit
      exact (List.cons.inj hsplit).1
    exact ⟨x, xs, zeros, rfl, hx ▸ h0, hsplit⟩

/-- The size of the number with the digits, the point before the last `places` of them, and the
exponent. -/
def decimalSize (ds : List ℕ) (places : ℕ) (exponent : ℤ) : ℚ :=
  readDigits ds * 10 ^ (exponent - places)

/-- A spelling of the number of the given size. -/
structure Spells (f : Layout) (t : Text) (size : ℚ) (whole fraction : List ℕ)
    (exponent : Option ℤ) : Prop where
  text_eq : t = spelled f false whole fraction exponent
  isWhole : IsWhole whole
  lt : ∀ d ∈ fraction, d < 10
  /-- There is a point or an exponent. -/
  isDecimal : (fraction.isEmpty && exponent.isNone) = false
  size_eq : decimalSize (whole ++ fraction) fraction.length (exponent.getD 0) = size

theorem spells_positional (f : Layout) {ds : List ℕ} (whole : ℕ) (hd : ∀ d ∈ ds, d < 10)
    (hw : IsWhole (ds.take whole ++ List.replicate (whole - ds.length) 0)) :
    ∃ fraction, Spells f (Layout.positional ds whole) (readDigits ds * 10 ^ (whole - ds.length : ℤ))
      (ds.take whole ++ List.replicate (whole - ds.length) 0) fraction none := by
  rcases le_or_gt ds.length whole with hle | hgt
  · have hdrop : ds.drop whole = [] := List.drop_eq_nil_of_le hle
    refine ⟨[0], ?_, hw, by simp, rfl, ?_⟩
    · simp [Layout.positional, hdrop, spelled, signText, fractionText, exponentText]
    · have hzeros : ds.take whole ++ List.replicate (whole - ds.length) 0 ++ [0] =
          ds ++ List.replicate (whole - ds.length + 1) 0 := by
        rw [List.take_of_length_le hle, List.append_assoc, List.replicate_succ']
      rw [decimalSize, hzeros, readDigits_append_zeros]
      push_cast
      rw [mul_assoc, ← zpow_natCast, ← zpow_add₀ (by norm_num)]
      congr 2
      simp
      omega
  · have hne : ds.drop whole ≠ [] := by
      rw [Ne, List.drop_eq_nil_iff]
      omega
    have hdigits : ds.take whole ++ List.replicate (whole - ds.length) 0 ++ ds.drop whole = ds := by
      rw [show whole - ds.length = 0 by omega, List.replicate_zero, List.append_nil,
        List.take_append_drop]
    refine ⟨ds.drop whole, ?_, hw, fun d h => hd d (List.mem_of_mem_drop h), by simp [hne], ?_⟩
    · simp [Layout.positional, hne, spelled, signText, fractionText, exponentText]
    · rw [decimalSize, hdigits, List.length_drop]
      congr 2
      simp
      omega

theorem isWhole_cons {d : ℕ} {ds : List ℕ} (h0 : d ≠ 0) (h : ∀ x ∈ d :: ds, x < 10) :
    IsWhole (d :: ds) :=
  ⟨h, by simp, .inr (by simpa using h0)⟩

theorem spells_scientific (f : Layout) {d : ℕ} {ds : List ℕ} (h0 : d ≠ 0)
    (hd : ∀ x ∈ d :: ds, x < 10) (e : ℤ) :
    Spells f (digitChar d :: (fractionText ds ++ f.exponentPart e))
      (readDigits (d :: ds) * 10 ^ (e - ds.length)) [d] ds (some e) := by
  rw [List.forall_mem_cons] at hd
  refine ⟨?_, isWhole_cons h0 (by simpa using hd.1), hd.2, by simp, rfl⟩
  simp [spelled, signText, exponentText]

theorem spells_zeros_append (f : Layout) {ds : List ℕ} (k : ℕ) (hd : ∀ d ∈ ds, d < 10) :
    ∃ fraction, Spells f (Layout.positional (List.replicate (k + 1) 0 ++ ds) 1)
      (readDigits ds * 10 ^ (-k - ds.length : ℤ)) [0] fraction none := by
  have hw : (List.replicate (k + 1) 0 ++ ds).take 1 ++
      List.replicate (1 - (List.replicate (k + 1) 0 ++ ds).length) 0 = [0] := by
    simp [List.replicate_succ]
  obtain ⟨fraction, h⟩ := spells_positional f 1 (lt_zeros_append (k + 1) hd)
    (by rw [hw]; exact ⟨by simp, by simp, .inl rfl⟩)
  rw [hw, readDigits_replicate_append] at h
  refine ⟨fraction, h.1, h.2, h.3, h.4, h.5.trans ?_⟩
  congr 2
  simp
  omega

theorem isWhole_take {d : ℕ} {ds : List ℕ} (h0 : d ≠ 0) (h : ∀ x ∈ d :: ds, x < 10) (k : ℕ) :
    IsWhole ((d :: ds).take (k + 1) ++ List.replicate (k + 1 - (d :: ds).length) 0) := by
  refine isWhole_cons h0 fun x hx => ?_
  have hx : x ∈ (d :: ds).take (k + 1) ++ List.replicate (k + 1 - (d :: ds).length) 0 := hx
  rcases List.mem_append.1 hx with hx | hx
  · exact h x (List.mem_of_mem_take hx)
  · rw [List.eq_of_mem_replicate hx]
    decide

/-- **A positive decimal is written as a number of its size.** -/
theorem spells_writeScientific (f : Layout) {d : Scientific} (hd : 0 < d.digits) :
    ∃ whole fraction exponent,
      Spells f (f.writeScientific d) (d.digits * 10 ^ d.exponent) whole fraction exponent := by
  obtain ⟨x, xs, zeros, hsig, h0, hnat⟩ := significant_spec hd
  have hlt : ∀ y ∈ x :: xs, y < 10 := fun y hy =>
    natDigits_lt d.digits y (hnat ▸ List.mem_append_left _ hy)
  have hdigits : d.digits = readDigits (x :: xs) * 10 ^ zeros := by
    rw [← readDigits_append_zeros, ← hnat, readDigits_natDigits]
  obtain ⟨e, he⟩ : ∃ e, e = d.exponent + ((natDigits d.digits).length : ℤ) - 1 := ⟨_, rfl⟩
  have hlen : e = d.exponent + xs.length + zeros := by
    rw [he, hnat]
    simp
    omega
  have hsize : (d.digits : ℚ) * 10 ^ d.exponent = readDigits (x :: xs) * 10 ^ (e - xs.length) := by
    rw [hdigits]
    push_cast
    rw [mul_assoc, ← zpow_natCast, ← zpow_add₀ (by norm_num)]
    congr 2
    omega
  rw [hsize]
  unfold Layout.writeScientific
  simp only [hsig, ← he]
  -- zeros before the digits, the point among the digits or after them, and an exponent
  split
  · split
    · obtain ⟨k, hk⟩ : ∃ k : ℕ, (-e).toNat = k + 1 := ⟨(-e).toNat - 1, by omega⟩
      obtain ⟨fraction, h⟩ := spells_zeros_append f k hlt
      refine ⟨_, fraction, none, hk ▸ h.1, h.2, h.3, h.4, h.5.trans ?_⟩
      congr 2
      simp
      omega
    · obtain ⟨fraction, h⟩ := spells_positional f (e.toNat + 1) hlt (isWhole_take h0 hlt e.toNat)
      refine ⟨_, fraction, none, h.1, h.2, h.3, h.4, h.5.trans ?_⟩
      congr 2
      simp
      omega
  · refine ⟨[x], xs, some e, ?_⟩
    have h := spells_scientific f h0 hlt e
    cases xs with
    | nil => exact h
    | cons y ys => simpa [fractionText] using h

/-! ## Back again -/

section Back

variable {x : Float} {n : Numeral} {s : Float.Model.UnpackedFloat.Sign} {m : ℕ} {q : ℤ} {h : 0 < m}

/-- The size of the number. -/
def Numeral.size (n : Numeral) : ℚ :=
  decimalSize (n.whole ++ n.fraction) n.fraction.length n.exponent

theorem Numeral.toFloat_eq (hx : x.toModel.unpack = .finite s m q h)
    (hs : n.negative = Binary.isNegative s) (ha : Around m q n.size) : n.toFloat = x := by
  have hd := isDouble_of_unpack hx
  have hpos : 0 < readDigits (n.whole ++ n.fraction) := by
    rw [Nat.pos_iff_ne_zero]
    intro h0
    have := ha.pos hd.pos
    rw [size, decimalSize, h0, Nat.cast_zero, zero_mul] at this
    exact lt_irrefl _ this
  obtain ⟨u, hu, hp⟩ := nearest_ofScientific hpos (decide (n.exponent - n.fraction.length < 0))
    (n.exponent - n.fraction.length).natAbs
  have he : (if decide (n.exponent - n.fraction.length < 0) = true then
      -((n.exponent - n.fraction.length).natAbs : ℤ) else (n.exponent - n.fraction.length).natAbs) =
      n.exponent - n.fraction.length := by
    split <;> rename_i h <;> simp only [decide_eq_true_eq] at h <;> omega
  rw [he] at hu
  -- the size rounds to what is read, and to the double in whose span it is
  obtain rfl := hu.unique (rounds_of_around .positive hd ha)
  have hback : Float.ofModel (.pack (.finite s m q h)) = x := by rw [← hx, pack_unpack]
  unfold toFloat
  simp only [hp, hs, ← hback]
  cases s with
  | positive => rfl
  | negative =>
    show Float.ofModel (.pack (Float.Model.pack (.finite .positive m q hd.pos)).unpack.neg) = _
    rw [unpack_pack_finite hd]
    rfl

theorem Numeral.toFloat_zero (hx : x.toModel.unpack = .zero s)
    (hs : n.negative = Binary.isNegative s) (h0 : readDigits (n.whole ++ n.fraction) = 0) :
    n.toFloat = x := by
  have hback : Float.ofModel (.pack (.zero s)) = x := by rw [← hx, pack_unpack]
  unfold toFloat
  simp only [h0, ofScientific_zero, hs, ← hback]
  cases s <;> rfl

theorem writeScientific_zero :
    plainLayout.writeScientific ⟨0, 0⟩ = spelled plainLayout false [0] [0] none := by
  simp [Layout.writeScientific, Layout.significant, Layout.positional, plainLayout, natDigits_of_lt,
    spelled, signText, fractionText, exponentText]

theorem signText_append (negative : Bool) (t : Text) :
    (if negative then minus :: t else t) = signText negative ++ t := by cases negative <;> rfl

/-- **The text of a finite double is a spelling of that double.** -/
theorem floatText_eq_spelled (hx : x.isFinite = true) :
    ∃ negative whole fraction exponent,
      floatText x = spelled plainLayout negative whole fraction exponent ∧ IsWhole whole ∧
        (∀ d ∈ fraction, d < 10) ∧ (fraction.isEmpty && exponent.isNone) = false ∧
        (⟨negative, whole, fraction, exponent.getD 0⟩ : Numeral).toFloat = x := by
  have hx : x.toModel.unpack.isFinite = true := hx
  cases hu : x.toModel.unpack with
  | infinity s =>
    rw [hu] at hx
    cases hx
  | notANumber =>
    rw [hu] at hx
    cases hx
  | zero s =>
    refine ⟨Binary.isNegative s, [0], [0], none, ?_, ⟨by simp, by simp, .inl rfl⟩, by simp, rfl,
      Numeral.toFloat_zero hu rfl rfl⟩
    simp only [floatText, Layout.write, Binary.ofFloat, hu, if_true, signText_append,
      writeScientific_zero]
    rfl
  | finite s m q h =>
    have hd := isDouble_of_unpack hu
    have ha := around_shortest hd
    have hpos : 0 < (Span.ofBinary m q).shortest.digits := by
      rw [Nat.pos_iff_ne_zero]
      intro h0
      have := ha.pos hd.pos
      rw [h0, Nat.cast_zero, zero_mul] at this
      exact lt_irrefl _ this
    obtain ⟨whole, fraction, exponent, hsp⟩ := spells_writeScientific plainLayout hpos
    refine ⟨Binary.isNegative s, whole, fraction, exponent, ?_, hsp.isWhole, hsp.lt, hsp.isDecimal,
      Numeral.toFloat_eq hu rfl (hsp.size_eq.symm ▸ ha : Around m q (decimalSize _ _ _))⟩
    simp only [floatText, Layout.write, Binary.ofFloat, hu, if_neg hd.pos.ne', signText_append,
      hsp.text_eq]
    rfl

theorem isWhole_natDigits (n : ℕ) : IsWhole (natDigits n) := by
  refine ⟨natDigits_lt n, natDigits_ne_nil n, ?_⟩
  rcases Nat.eq_zero_or_pos n with rfl | hpos
  · exact .inl (natDigits_of_lt (by decide))
  · obtain ⟨d, ds, hd, h0⟩ := exists_natDigits_cons hpos
    rw [hd]
    exact .inr (by simpa using h0)

theorem intText_eq (n : ℤ) :
    intText n = signText (decide (n < 0)) ++ (natDigits n.natAbs).map digitChar := by
  cases n with
  | ofNat n => simp [intText, natText, signText]
  | negSucc n => simp [intText, natText, signText]

/-- The text of an integer is a number of JSON. -/
theorem numberNotation_intText (n : ℤ) :
    NumberNotation (intText n) (.integer (decide (n < 0)) (natDigits n.natAbs)) := by
  have h : NumberNotation (signText (decide (n < 0)) ++
      ((natDigits n.natAbs).map digitChar ++ (fractionText [] ++ [])))
      (.ofParts (decide (n < 0)) (natDigits n.natAbs) [] none) :=
    .parts (isWhole_natDigits n.natAbs) (by simp) .none
  have ht : fractionText [] ++ [] = [] := rfl
  rwa [ht, List.append_nil, ← intText_eq] at h

theorem length_natDigits_le {n : ℤ} (h : Value.isLong n = false) :
    (natDigits n.natAbs).length ≤ digitLimit := by
  rw [Value.isLong, decide_eq_false_iff_not, Nat.not_le] at h
  rcases Nat.eq_zero_or_pos n.natAbs with h0 | hpos
  · rw [h0, natDigits_of_lt (by decide)]
    decide
  · have hle := pow_length_le_natDigits hpos
    generalize digitLimit = k at h ⊢
    by_contra hk
    have hpow := (Nat.pow_le_pow_right (by decide : 0 < 10) (Nat.not_le.1 hk)).trans hle
    have h : n.natAbs < 10 ^ k := h
    rw [pow_succ] at hpow
    omega

end Back

end DeltaBridge
