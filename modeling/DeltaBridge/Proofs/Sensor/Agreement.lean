import DeltaBridge.Proofs.Addressed
import DeltaBridge.Proofs.Decimal.SignedZero
import DeltaBridge.Proofs.Sensor.Reading

/-!
# Numbers as texts and as documents

A payload that is a number is a text without a selector, and a document for the selector of its
root. The two values are the same reading, except that only the text keeps the minus sign of an
integer zero. No rule tells the two zeros apart, so both ways have the same outcome.

* `Rule.KeepsSame`: the rules that have one number for one number, `Rule.keepsSame_total`;
* `Reading.Same`, `Json.same_reading`: the reading of the text and that of the document;
* `SameOutcome`, `Converter.sameOutcome_convert`: what is made of one reading;
* `extract_text`, `extract_root`: the two values of a payload;
* **`extract_convert_number`**: numbers as payloads.
-/

namespace DeltaBridge

/-! ## Rules -/

namespace Rule

/-- The rule has one number for one number. Only one that rounds to places before the point may have
none, and then for neither double. -/
def KeepsSame (r : Rule) : Prop :=
  ∀ x y, SameNumber x y →
    (∃ x' y', r.run x = .ok x' ∧ r.run y = .ok y' ∧ SameNumber x' y') ∨
    (∃ n, r.places = some n ∧ n < 0) ∧ r.run x = .error .tooLarge ∧ r.run y = .error .tooLarge

theorem keepsSame_total {f : Float → Float} (hf : ∀ x y, SameNumber x y → SameNumber (f x) (f y))
    (places : Option Int) (warns : Bool) : (total f places warns).KeepsSame := by
  intro x y h
  have h := hf x y h
  cases places with
  | none => exact .inl ⟨f x, f y, rfl, rfl, h⟩
  | some n =>
    rcases h.roundPlaces? n with ⟨x', y', hx, hy, h⟩ | ⟨hx, hy⟩
    · left
      exact ⟨x', y', by simp only [run, total, hx], by simp only [run, total, hy], h⟩
    · right
      refine ⟨⟨n, rfl, ?_⟩, by simp only [run, total, hx], by simp only [run, total, hy]⟩
      by_contra hn
      obtain ⟨z, hz⟩ := exists_roundPlaces? (not_lt.1 hn) (f x)
      rw [hx] at hz
      cases hz

theorem keepsSame_affine (factor offset : Float) (places : Option Int) (warns : Bool) :
    (affine factor offset places warns).KeepsSame :=
  keepsSame_total (fun _ _ h => (h.mul factor).add offset) places warns

end Rule

theorem Converter.keepsSame_standard (policy : Policy) (atmosphereWarns : Bool) :
    ∀ r ∈ (standard policy atmosphereWarns).rules, r.2.KeepsSame ∧ r.2.places = some 2 := by
  simp only [standard, List.forall_mem_cons, List.not_mem_nil, IsEmpty.forall_iff, implies_true,
    and_true]
  refine ⟨⟨?_, rfl⟩, ⟨?_, rfl⟩, ⟨?_, rfl⟩, ⟨?_, rfl⟩, ⟨?_, rfl⟩, ⟨?_, rfl⟩, ⟨?_, rfl⟩⟩
  · exact Rule.keepsSame_total (fun _ _ h => ((h.sub _).div _).add _) _ _
  · exact Rule.keepsSame_total (fun _ _ h => h.add _) _ _
  · exact Rule.keepsSame_total (fun _ _ h => h) _ _
  · exact Rule.keepsSame_total (fun _ _ h => h) _ _
  all_goals exact Rule.keepsSame_total (fun _ _ h => h.mul _) _ _

/-! ## Readings -/

/-- The readings are one number, or both are none. -/
structure Reading.Same (r s : Reading) : Prop where
  value : SameNumber r.value s.value
  isNumber : r.isNumber = s.isNumber

theorem SameNumber.reading {x y : Float} (h : SameNumber x y) :
    (Reading.ofFloat x).Same (.ofFloat y) := by
  rcases h with rfl | ⟨hx, hy⟩
  · exact ⟨.refl _, rfl⟩
  · unfold Reading.ofFloat
    rw [if_pos hx.isFinite, if_pos hy.isFinite]
    exact ⟨.inr ⟨hx, hy⟩, rfl⟩

theorem Numeral.sameNumber_integer (negative : Bool) (ds : List Nat) :
    SameNumber (⟨negative, ds, [], 0⟩ : Numeral).toFloat (.ofInt (signed negative ds)) := by
  by_cases h0 : readDigits ds = 0
  · -- the sign is lost in the integer
    have hzero : ∀ b, IsZero (⟨b, ds, [], 0⟩ : Numeral).toFloat := fun b =>
      isZero_toFloat (by rwa [List.append_nil])
    have hsigned : signed negative ds = signed false ds := by
      unfold signed
      rw [h0]
      cases negative <;> rfl
    rw [hsigned, ← toFloat_integer fun h => absurd h Bool.false_ne_true]
    exact .inr ⟨hzero negative, hzero false⟩
  · rw [toFloat_integer fun _ => h0]
    exact .refl _

namespace Json

section Readings

variable {t before after : Text} {l : Literal}

theorem isBlank_of_isSpace {c : CodePoint} (h : isSpace c = true) : isBlank c = true := by
  rcases eq_of_isSpace h with rfl | rfl | rfl | rfl <;> decide

/-- A number is the same reading as a text, with white space around it, and as a document. -/
theorem same_reading (h : NumberNotation t l) (hb : ∀ c ∈ before, isSpace c = true)
    (ha : ∀ c ∈ after, isSpace c = true) {v : Value} (hv : l.value = .ok v) :
    (Reading.ofValue (.text (before ++ (t ++ after)))).Same (.ofValue v) := by
  have hp : PlainDecimal (before ++ (t ++ after)).strip l.numeral := by
    rw [Text.strip_pad (fun c hc => isBlank_of_isSpace (hb c hc))
      (fun c hc => isBlank_of_isSpace (ha c hc)) h.trimmed h.ne_nil]
    exact h.plainDecimal
  show (Reading.ofText _).Same _
  rw [Reading.ofText_of_plainDecimal hp]
  cases l with
  | decimal n =>
    cases hv
    exact (SameNumber.refl n.toFloat).reading
  | integer negative ds =>
    obtain ⟨-, rfl⟩ := Literal.value_integer_eq_ok.1 hv
    exact (Numeral.sameNumber_integer negative ds).reading

end Readings

end Json

/-! ## Conversions -/

/-- Both results are one number, both are no number, or both values are dropped. -/
inductive SameOutcome : Except ConversionError Value → Except ConversionError Value → Prop
  | number {x y : Float} (h : (x == y) = true) : SameOutcome (.ok (.float x)) (.ok (.float y))
  | nan {x y : Float} (hx : x.isNaN = true) (hy : y.isNaN = true) :
    SameOutcome (.ok (.float x)) (.ok (.float y))
  | dropped (raw raw' : Value) (kind : Kind) :
    SameOutcome (.error (.notNumber raw kind)) (.error (.notNumber raw' kind))

theorem SameNumber.outcome {x y : Float} (h : SameNumber x y) :
    SameOutcome (.ok (.float x)) (.ok (.float y)) := by
  rcases h.beq_or_isNaN with h | ⟨hx, hy⟩
  · exact .number h
  · exact .nan hx hy

namespace Converter

variable {c : Converter} {kind : Kind} {unit : Text} {rule : Rule} {raw raw' : Value}

/-- One reading has one outcome, unless the rule has no result for it. -/
theorem sameOutcome_convert (hr : c.rule? kind unit = some rule) (hk : rule.KeepsSame)
    (hsame : (Reading.ofValue raw).Same (.ofValue raw')) (hl : raw.hasLong = false)
    (hl' : raw'.hasLong = false) :
    SameOutcome (c.convert kind unit raw).value (c.convert kind unit raw').value ∨
      (∃ n, rule.places = some n ∧ n < 0) ∧
      (c.convert kind unit raw).value = .error (.rule .tooLarge) ∧
      (c.convert kind unit raw').value = .error (.rule .tooLarge) := by
  have hconvert : ∀ v, c.convert kind unit v = c.convertWith rule kind unit v := by
    intro v
    unfold convert
    rw [hr]
  rw [hconvert, hconvert, value_convertWith, value_convertWith, ← hsame.isNumber, hl, hl']
  split
  · rcases hk _ _ hsame.value with ⟨x, y, hx, hy, h⟩ | ⟨hn, hx, hy⟩
    · left
      rw [hx, hy]
      exact h.outcome
    · right
      rw [hx, hy]
      exact ⟨hn, rfl, rfl⟩
  · exact .inl (.dropped raw raw' kind)

end Converter

/-! ## Payloads -/

section Payloads

variable {t : Text} {payload : Value}

theorem extract_text (carries : Carries t payload) :
    (extract payload none).value = .ok (.text t) := by
  unfold extract Matcher.extract
  rw [carries.decode]
  rfl

theorem extract_root (carries : Carries t payload) {d : Value} (h : Json.read .strict t = .ok d) :
    (extract payload (some "$")).value = .ok d := by
  have asks : Matcher.standard.Asks payload (address []) .root t :=
    @asks_bareAddress [] _ Matcher.lawfulReading_standard _ _ carries (by simp)
  exact asks.value_of_find (n := .fresh d) h rfl rfl

/-- **A number as a payload has one outcome without a selector and with that of the root.** This
holds for any policy and any rules that are registered. Where a registered rule rounds to places
before the point the result may be too large to represent, and then it is so both times. -/
theorem extract_convert_number {before after : Text} {l : Json.Literal}
    (number : Json.NumberNotation t l) (short : l.IsShort)
    (hb : ∀ c ∈ before, Json.isSpace c = true) (ha : ∀ c ∈ after, Json.isSpace c = true)
    (carries : Carries (before ++ (t ++ after)) payload) (policy : Policy) (atmosphereWarns : Bool)
    (rs : List Registration) {kind : Kind} {unit : Text} {rule : Rule}
    (hr : ((Converter.standard policy atmosphereWarns).registered rs).rule? kind unit = some rule) :
    ∃ v, l.value = .ok v ∧
      (extract payload none).value = .ok (.text (before ++ (t ++ after))) ∧
      (extract payload (some "$")).value = .ok v ∧
      let c := (Converter.standard policy atmosphereWarns).registered rs
      let ofText := (c.convert kind unit (.text (before ++ (t ++ after)))).value
      let ofDocument := (c.convert kind unit v).value
      SameOutcome ofText ofDocument ∨
        (∃ r ∈ rs, r.kind = kind ∧ r.unit = unit ∧ ∃ n, r.places = some n ∧ n < 0) ∧
        ofText = .error (.rule .tooLarge) ∧ ofDocument = .error (.rule .tooLarge) := by
  obtain ⟨v, hv⟩ := short.exists_value
  have hread : Json.read .strict (before ++ (t ++ after)) = .ok v :=
    Json.readTo_number number hv hb ha depthLimit .strict
  refine ⟨v, hv, extract_text carries, extract_root carries hread, ?_⟩
  have hsame := Json.same_reading number hb ha hv
  have hlong := Json.hasLong_read hread
  rcases Converter.mem_rules_registered (Converter.mem_rules_of_rule? hr) with hmem | ⟨r, hmem, heq⟩
  · obtain ⟨hk, hplaces⟩ := Converter.keepsSame_standard policy atmosphereWarns _ hmem
    refine (Converter.sameOutcome_convert hr hk hsame rfl hlong).imp_right ?_
    rintro ⟨⟨n, hn, hneg⟩, -⟩
    obtain rfl : 2 = n := Option.some.inj (hplaces.symm.trans hn)
    omega
  · cases heq
    refine (Converter.sameOutcome_convert hr (Rule.keepsSame_affine _ _ _ _) hsame rfl
      hlong).imp_right ?_
    rintro ⟨hn, herr⟩
    exact ⟨⟨r, hmem, rfl, rfl, hn⟩, herr⟩

/-- A zero with a minus sign is one number in both ways, though the document has no sign. -/
theorem minusZero_converted :
    Json.NumberNotation "-0" (.integer true [0]) ∧
      (extract (.bytes (Utf8.encode " -0\n")) none).value = .ok (.text " -0\n") ∧
      (extract (.bytes (Utf8.encode " -0\n")) (some "$")).value = .ok (.int 0) ∧
      SameOutcome ((Converter.standard .skip false).convert .temperature "K" (.text " -0\n")).value
        ((Converter.standard .skip false).convert .temperature "K" (.int 0)).value := by
  have number : Json.NumberNotation "-0" (.integer true [0]) :=
    @Json.NumberNotation.parts true [0] [] [] none ⟨by decide, by decide, .inl rfl⟩ (by simp) .none
  have short : (Json.Literal.integer true [0]).IsShort := by
    show [0].length ≤ digitLimit
    decide
  have carries : Carries ([0x20] ++ (Text.ofString "-0" ++ [0x0A]))
      (.bytes (Utf8.encode " -0\n")) :=
    .bytes (Utf8.isEncodable_of_ascii (by decide))
  have hr : ((Converter.standard .skip false).registered []).rule? .temperature "K" =
      some (.total (fun x => x) (some 2) false) := rfl
  obtain ⟨v, hv, htext, hroot, h⟩ := extract_convert_number number short (by decide)
    (by decide) carries .skip false [] hr
  obtain ⟨-, rfl⟩ := Json.Literal.value_integer_eq_ok.1 hv
  refine ⟨number, htext, hroot, h.resolve_right ?_⟩
  rintro ⟨⟨r, hr, -⟩, -⟩
  cases hr

end Payloads

end DeltaBridge
