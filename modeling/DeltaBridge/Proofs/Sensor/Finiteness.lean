import DeltaBridge.Proofs.Decimal.Overflow
import DeltaBridge.Proofs.Sensor.Reading

/-!
# Readings that are published as null

A number is converted to a finite double unless its product with the factor of its unit is too large
for the doubles. Temperatures are never too large, and neither are pascals. Where values that are no
numbers are dropped, a reading that has a rule is published as null exactly if its number is too
large.

* `Converter.factors`, `Converter.Overflows`: the factors, and the numbers that are too large;
* `Rule.FiniteUnless`, `Rule.finiteUnless_total`: the rules that have finite results, but for some
  numbers; `Converter.finiteUnless_standard`;
* `Reading.isFinite_value`: a number in a value is finite;
* `Interpreter.FiniteUnlessTooLarge`, **`Interpreter.finiteUnlessTooLarge`**: what is converted and
  published.
-/

namespace DeltaBridge

/-! ## Rules -/

namespace Rule

/-- The rule has a finite result for every finite number but some. -/
def FiniteUnless (r : Rule) (tooLarge : Float → Prop) : Prop :=
  ∀ x, x.isFinite = true → ∃ y, r.run x = .ok y ∧ (y.isFinite = true ↔ ¬tooLarge x)

/-- Rounding to places after the point does not matter. -/
theorem finiteUnless_total {f : Float → Float} {tooLarge : Float → Prop}
    (hf : ∀ x, x.isFinite = true → ((f x).isFinite = true ↔ ¬tooLarge x)) {places : Int}
    (hp : 0 ≤ places) (warns : Bool) :
    (Rule.total f (some places) warns).FiniteUnless tooLarge := by
  intro x hx
  obtain ⟨y, hy⟩ := exists_roundPlaces? hp (f x)
  refine ⟨y, ?_, ?_⟩
  · simp only [run, total, hy]
  · rw [isFinite_of_roundPlaces? hy]
    exact hf x hx

end Rule

namespace Converter

/-- What the rules for pressures multiply by. -/
def factors : List ((Kind × Text) × Float) := [
  ((.pressure, "hPa"), 100.0),
  ((.pressure, "mmHg"), 133.322),
  ((.pressure, "atm"), 101325.0)]

/-- The exact product with the factor of the unit is nearer to an infinity than to the greatest
double. -/
def Overflows (kind : Kind) (unit : Text) (x : Float) : Prop :=
  ∃ f, factors.lookup (kind, unit) = some f ∧ 2 ^ 1024 - 2 ^ 970 ≤ magnitude x * magnitude f

section Rules

variable {kind : Kind} {unit : Text} {f x : Float}

theorem not_overflows (h : factors.lookup (kind, unit) = none) (x : Float) :
    ¬Overflows kind unit x := by
  rintro ⟨f, hf, -⟩
  rw [h] at hf
  cases hf

theorem isFinite_mul_iff_not_overflows (h : factors.lookup (kind, unit) = some f) {a : ℚ}
    (ha : Exactly f a) (hx : x.isFinite = true) :
    (x * f).isFinite = true ↔ ¬Overflows kind unit x := by
  rw [isFinite_mul_iff hx ha, ← ha.magnitude_eq, ← not_le]
  refine not_congr ⟨fun hle => ⟨f, h, hle⟩, ?_⟩
  rintro ⟨g, hg, hle⟩
  cases h.symm.trans hg
  exact hle

theorem lt_two_pow_of_le {a : ℚ} (h : a ≤ 2 ^ 10) : a < 2 ^ 970 :=
  h.trans_lt (pow_lt_pow_right₀ (by norm_num) (by decide))

theorem isFinite_add_kelvins (hx : x.isFinite = true) : (x + 273.15).isFinite = true := by
  have h : Exactly 273.15 ((4805305618032230 : ℕ) * 2 ^ (-44 : ℤ)) :=
    .of_binary (by decide +kernel) (by decide)
  exact isFinite_add hx h (lt_two_pow_of_le (by norm_num))

theorem isFinite_celsius (hx : x.isFinite = true) : ((x - 32) / 1.8).isFinite = true := by
  have h32 : Exactly 32 ((2 ^ 52 : ℕ) * 2 ^ (-47 : ℤ)) := .of_binary (by decide +kernel) (by decide)
  have h18 : Exactly 1.8 ((8106479329266893 : ℕ) * 2 ^ (-52 : ℤ)) :=
    .of_binary (by decide +kernel) (by decide)
  exact isFinite_div (isFinite_sub hx h32 (lt_two_pow_of_le (by norm_num))) h18 (by norm_num)

end Rules

/-- **The rules have finite results unless a product is too large.** -/
theorem finiteUnless_standard (policy : Policy) (atmosphereWarns : Bool) :
    ∀ r ∈ (standard policy atmosphereWarns).rules, r.2.FiniteUnless (Overflows r.1.1 r.1.2) := by
  have hnone {kind : Kind} {unit : Text} (h : factors.lookup (kind, unit) = none)
      {f : Float → Float} (hf : ∀ x, x.isFinite = true → (f x).isFinite = true) :
      (Rule.total f (some 2) false).FiniteUnless (Overflows kind unit) :=
    Rule.finiteUnless_total (fun x hx => iff_of_true (hf x hx) (not_overflows h x)) (by decide)
      false
  have hsome {kind : Kind} {unit : Text} {g : Float} (h : factors.lookup (kind, unit) = some g)
      {a : ℚ} (ha : Exactly g a) (warns : Bool) :
      (Rule.total (fun x => x * g) (some 2) warns).FiniteUnless (Overflows kind unit) :=
    Rule.finiteUnless_total (fun _ hx => isFinite_mul_iff_not_overflows h ha hx) (by decide) warns
  simp only [standard, List.forall_mem_cons, List.not_mem_nil, IsEmpty.forall_iff, implies_true,
    and_true]
  refine ⟨hnone rfl fun _ hx => ?_, hnone rfl fun _ hx => ?_, hnone rfl fun _ hx => hx,
    hnone rfl fun _ hx => hx, ?_, ?_, ?_⟩
  · exact isFinite_add_kelvins (isFinite_celsius hx)
  · exact isFinite_add_kelvins hx
  · exact hsome rfl (.of_binary (m := 7036874417766400) (e := -46) (by decide +kernel)
      (by decide)) _
  · exact hsome rfl (.of_binary (m := 4690850855627260) (e := -45) (by decide +kernel)
      (by decide)) _
  · exact hsome rfl (.of_binary (m := 6963000980275200) (e := -36) (by decide +kernel)
      (by decide)) _

end Converter

/-! ## Readings -/

namespace Reading

theorem isFinite_ofFloat {x : Float} (h : (ofFloat x).isNumber = true) :
    (ofFloat x).value.isFinite = true := by
  rw [isNumber_ofFloat] at h
  unfold ofFloat
  rw [if_pos h]
  exact h

theorem isFinite_ofText {t : Text} (h : (ofText t).isNumber = true) :
    (ofText t).value.isFinite = true := by
  unfold ofText at h ⊢
  cases hn : Numeral.ofText? t.strip with
  | none =>
    rw [hn] at h
    cases h
  | some n => exact isFinite_ofFloat (by simpa only [hn] using h)

/-- A number in a value is finite. -/
theorem isFinite_value {v : Value} (h : (ofValue v).isNumber = true) :
    (ofValue v).value.isFinite = true := by
  cases v with
  | bool b => cases b <;> decide +kernel
  | int _ => exact isFinite_ofFloat h
  | float _ => exact isFinite_ofFloat h
  | bytes _ => exact isFinite_ofText h
  | text _ => exact isFinite_ofText h
  | null | list _ | object _ => cases h

end Reading

/-! ## Conversions -/

namespace Converter

variable {c : Converter} {kind : Kind} {unit : Text} {rule : Rule} {raw : Value}

theorem value_convert_of_isNumber (hr : c.rule? kind unit = some rule)
    (hn : (Reading.ofValue raw).isNumber = true) {y : Float}
    (hy : rule.run (Reading.ofValue raw).value = .ok y) :
    (c.convert kind unit raw).value = .ok (.float y) := by
  rw [value_convert_of_rule hr, value_convertWith, hn, hy]
  rfl

theorem isNumber_of_convert (hs : c.policy = .skip) (hr : c.rule? kind unit = some rule) {v : Value}
    (h : (c.convert kind unit raw).value = .ok v) : (Reading.ofValue raw).isNumber = true := by
  by_contra hn
  rw [Bool.not_eq_true] at hn
  rw [value_convert_of_rule hr, value_convertWith, hn, hs] at h
  simp only [decide_true, Bool.or_true, Bool.not_true, Bool.false_or, Bool.false_eq_true,
    if_false] at h
  split at h <;> cases h

end Converter

/-! ## Records -/

namespace Interpreter

/-- How an interpreter converts and publishes numbers in a unit: they are finite unless they are too
large. -/
structure FiniteUnlessTooLarge (i : Interpreter) (kind : Kind) (unit : Text) : Prop where
  /-- A number is converted, and what it is converted to is finite unless it is too large. -/
  converted : ∀ raw, (Reading.ofValue raw).isNumber = true →
    ∃ y, (i.converter.convert kind unit raw).value = .ok (.float y) ∧
      (y.isFinite = true ↔ ¬Converter.Overflows kind unit (Reading.ofValue raw).value)
  /-- A message becomes the records of its bindings, unless one of them cannot be shown. -/
  interpreted : ∀ topic payload,
    (i.interpret topic payload).value = shown ((i.records topic payload).map Prod.snd)
  /-- If values that are no numbers are dropped, then a record has a number, and it is published as
  null exactly if the number is too large. -/
  published : i.converter.policy = .skip → ∀ topic payload b r, (b, r) ∈ i.records topic payload →
    b.kind = kind → b.unit = unit → ∃ raw, (extract payload b.selector).value = .ok raw ∧
      (Reading.ofValue raw).isNumber = true ∧
      (r.delta = deltaEntry b.destination .null ↔
        Converter.Overflows kind unit (Reading.ofValue raw).value)

theorem delta_eq_null_iff (destination : Text) (y : Float) :
    (⟨destination, .float y⟩ : Record).delta = deltaEntry destination .null ↔
      ¬y.isFinite = true := by
  unfold Record.delta Value.publishable
  dsimp only
  by_cases h : y.isFinite = true
  · rw [if_pos h]
    exact iff_of_false (by simp [deltaEntry]) (not_not_intro h)
  · rw [if_neg h]
    exact iff_of_true rfl h

theorem convert_of_mem_records {i : Interpreter} {topic : Text} {payload : Value} {b : Binding}
    {r : Record} (h : (b, r) ∈ i.records topic payload) :
    ∃ raw, (extract payload b.selector).value = .ok raw ∧
      ∃ v, (i.converter.convert b.kind b.unit raw).value = .ok v ∧ r = ⟨b.destination, v⟩ := by
  have hrec := (mem_records.1 h).2
  cases hraw : (extract payload b.selector).value with
  | error e =>
    rw [value_recordOf_error _ hraw] at hrec
    cases hrec
  | ok raw =>
    rw [value_recordOf_ok _ hraw, Option.map_eq_some_iff] at hrec
    obtain ⟨v, hv, rfl⟩ := hrec
    refine ⟨raw, rfl, v, ?_, rfl⟩
    cases hconv : (i.converter.convert b.kind b.unit raw).value with
    | error e =>
      rw [hconv] at hv
      cases hv
    | ok w =>
      rw [hconv] at hv
      cases hv
      rfl

/-- **A number in a unit with a standard rule is converted to a finite double, unless its product
with the factor of the unit is too large.** Where values that are no numbers are dropped, exactly
such numbers are published as null. -/
theorem finiteUnlessTooLarge (i : Interpreter) {policy : Policy} {atmosphereWarns : Bool}
    {kind : Kind} {unit : Text} {rule : Rule}
    (hstandard : (Converter.standard policy atmosphereWarns).rule? kind unit = some rule)
    (hrule : i.converter.rule? kind unit = some rule) : i.FiniteUnlessTooLarge kind unit := by
  have hfinite := Converter.finiteUnless_standard _ _ _ (Converter.mem_rules_of_rule? hstandard)
  have hconverted (raw : Value) (hn : (Reading.ofValue raw).isNumber = true) :
      ∃ y, (i.converter.convert kind unit raw).value = .ok (.float y) ∧
        (y.isFinite = true ↔ ¬Converter.Overflows kind unit (Reading.ofValue raw).value) := by
    obtain ⟨y, hy, hiff⟩ := hfinite _ (Reading.isFinite_value hn)
    exact ⟨y, Converter.value_convert_of_isNumber hrule hn hy, hiff⟩
  refine ⟨hconverted, value_interpret_records i, ?_⟩
  rintro hskip topic payload b r hmem rfl rfl
  obtain ⟨raw, hraw, v, hv, rfl⟩ := convert_of_mem_records hmem
  have hn := Converter.isNumber_of_convert hskip hrule hv
  obtain ⟨y, hy, hiff⟩ := hconverted raw hn
  cases hv.symm.trans hy
  refine ⟨raw, hraw, hn, ?_⟩
  rw [delta_eq_null_iff, hiff, not_not]

/-- Pressures in hectopascals at one topic. -/
theorem finiteUnlessTooLarge_hectopascals :
    (Interpreter.ofRegistry ⟨[("t", [⟨"x", .pressure, "hPa", none⟩])],
      .standard .skip false⟩).FiniteUnlessTooLarge .pressure "hPa" :=
  finiteUnlessTooLarge _ (rfl : (Converter.standard .skip false).rule? .pressure "hPa" = some _) rfl

/-- A pressure of `1e307` hectopascals is a number, and it is published as null. -/
theorem published_as_null : (Reading.ofValue (.float 1e307)).isNumber = true ∧
    ∃ y, ((Converter.standard .skip false).convert .pressure "hPa" (.float 1e307)).value =
        .ok (.float y) ∧
      y.isFinite = false ∧ (⟨"x", .float y⟩ : Record).delta = deltaEntry "x" .null := by
  have hn : (Reading.ofValue (.float 1e307)).isNumber = true := by decide +kernel
  have hy : (Rule.total (fun x => x * 100.0) (some 2) false).run
      (Reading.ofValue (.float 1e307)).value = .ok (1.0 / 0.0) := by decide +kernel
  exact ⟨hn, _, Converter.value_convert_of_isNumber rfl hn hy, by decide +kernel,
    (delta_eq_null_iff _ _).2 (by decide +kernel)⟩

end Interpreter

end DeltaBridge
