import DeltaBridge.Proofs.Decimal.Notation
import DeltaBridge.Proofs.Decimal.Range
import DeltaBridge.Proofs.Sensor.Skipping
import DeltaBridge.Proofs.Text.Utf8

/-!
# What counts as a number

A text is a number exactly if it is one in plain decimal notation, blanks around it aside, and the
number is not too large for the doubles. An integer, its text and the bytes of its text are the
same reading, however large the integer is.

* `Reading.ofText_of_plainDecimal`: the reading of a number in plain decimal notation;
  `Reading.isNumber_ofText_iff`: the texts that are numbers;
* `Numeral.toFloat_integer`: an integer as a numeral;
* `Reading.ofValue_intText`, `Reading.ofValue_encode_intText`: the readings of an integer;
* **`Reading.ofValue_spec`**: all of this.
-/

namespace DeltaBridge

open Ascii

/-! ## Texts -/

namespace Reading

variable {t : Text} {n : Numeral}

theorem isNumber_ofFloat (x : Float) : (ofFloat x).isNumber = x.isFinite := by
  unfold ofFloat
  cases x.isFinite <;> rfl

theorem ofText_of_plainDecimal (h : PlainDecimal t.strip n) : ofText t = ofFloat n.toFloat := by
  unfold ofText
  rw [Numeral.ofText?_eq_some_iff.2 h]

theorem isNumber_ofText_iff : (ofText t).isNumber = true ↔
    ∃ n, PlainDecimal t.strip n ∧ n.size < 2 ^ 1024 - 2 ^ 970 := by
  constructor
  · intro h
    cases hn : Numeral.ofText? t.strip with
    | none =>
      unfold ofText at h
      rw [hn] at h
      cases h
    | some n =>
      have hp := Numeral.ofText?_eq_some_iff.1 hn
      rw [ofText_of_plainDecimal hp, isNumber_ofFloat, n.isFinite_toFloat_iff] at h
      exact ⟨n, hp, h⟩
  · rintro ⟨n, hp, hsize⟩
    rw [ofText_of_plainDecimal hp, isNumber_ofFloat, n.isFinite_toFloat_iff]
    exact hsize

end Reading

/-! ## Integers -/

/-- An integer is the same double as its digits, unless it is a zero with a minus sign. -/
theorem Numeral.toFloat_integer {negative : Bool} {ds : List ℕ}
    (h : negative = true → readDigits ds ≠ 0) :
    (⟨negative, ds, [], 0⟩ : Numeral).toFloat = Float.ofInt (signed negative ds) := by
  have hplain : Float.ofScientific (readDigits ds) false 0 = Float.ofNat (readDigits ds) := rfl
  unfold toFloat signed
  simp only [List.append_nil]
  cases negative with
  | false => exact hplain
  | true =>
    obtain ⟨k, hk⟩ := Nat.exists_eq_succ_of_ne_zero (h rfl)
    simp only [hk, if_true]
    rfl

section IntegerTexts

variable (k : ℤ)

theorem toFloat_natDigits :
    (⟨decide (k < 0), natDigits k.natAbs, [], 0⟩ : Numeral).toFloat = Float.ofInt k := by
  rw [Numeral.toFloat_integer, signed_natDigits_natAbs]
  intro h
  have hk : k < 0 := of_decide_eq_true h
  rw [readDigits_natDigits]
  omega

namespace Reading

theorem ofValue_intText : ofValue (.text (intText k)) = ofValue (.int k) := by
  have h : PlainDecimal (intText k).strip ⟨decide (k < 0), natDigits k.natAbs, [], 0⟩ := by
    rw [Text.strip_eq_self (numberNotation_intText k).trimmed]
    exact (numberNotation_intText k).plainDecimal
  show ofText (intText k) = ofFloat (Float.ofInt k)
  rw [ofText_of_plainDecimal h, toFloat_natDigits]

theorem ofValue_encode_intText :
    ofValue (.bytes (Utf8.encode (intText k))) = ofValue (.text (intText k)) := by
  have h : Utf8.IsEncodable (intText k) :=
    Utf8.isEncodable_of_ascii fun c hc => ((numberNotation_intText k).ascii c hc).2
  show ofText (Utf8.decodeLossy (Utf8.encode (intText k))) = ofText (intText k)
  rw [Utf8.decodeLossy_encode h]

end Reading

end IntegerTexts

/-- **A text is a number exactly if it is one in plain decimal notation, blanks around it aside, and
its size is below the middle after the greatest double.** Otherwise its value is a NaN. An integer of
any size, its text and the bytes of the text are the same reading. -/
theorem Reading.ofValue_spec (t : Text) (k : ℤ) :
    ((ofValue (.text t)).isNumber = true ↔
      ∃ n, PlainDecimal t.strip n ∧ n.size < 2 ^ 1024 - 2 ^ 970) ∧
    ((ofValue (.text t)).isNumber = false → (ofValue (.text t)).value.isNaN = true) ∧
    ofValue (.text (intText k)) = ofValue (.int k) ∧
    ofValue (.bytes (Utf8.encode (intText k))) = ofValue (.int k) := by
  refine ⟨isNumber_ofText_iff, isNaN_ofText, ofValue_intText k, ?_⟩
  rw [ofValue_encode_intText, ofValue_intText]

end DeltaBridge
