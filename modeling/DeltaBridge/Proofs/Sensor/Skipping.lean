import DeltaBridge.Proofs.Decimal.Packing
import DeltaBridge.Proofs.Sensor.Isolation

/-!
# Dropping what is no number

A value that is no number is dropped or converted as a NaN, as the policy of the converter says. A
NaN stays a NaN in the arithmetic of the rules and in rounding, so the two policies can be told
apart by the records of such values only.

* `isNaN_add`, `isNaN_mul`, ..: a NaN in arithmetic; `roundPlaces?_of_isNaN`: and in rounding;
* `Rule.KeepsNaN`: the rules that have a NaN for a NaN, `Rule.keepsNaN_affine`;
* `Registration`, `Converter.registered`: rules registered one after the other,
  `Converter.keepsNaN_registered`;
* `Converter.refuses`: a binding whose value is no number though a rule wants one,
  `Interpreter.recordOf_skip`, `Interpreter.recordOf_refused`;
* `Interpreter.under`: what a configuration and some rules make, with a policy;
* `Interpreter.DropsFrom`, **`Interpreter.dropsFrom_under`**: what the policy that drops such values
  leaves.
-/

namespace DeltaBridge

/-! ## Arithmetic -/

section Arithmetic

open Float.Model Float.Model.UnpackedFloat

theorem isNaN_pack (op : UnpackedFloat → UnpackedFloat → UnpackedFloat) {x : Float}
    {v : UnpackedFloat} (hop : op .notANumber v = .notANumber) (h : x.isNaN = true) :
    (Float.Model.pack (op x.toModel.unpack v)).isNaN = true := by
  rw [isNaN_iff.1 h, hop]
  decide +kernel

variable {x : Float} (y : Float) (h : x.isNaN = true)
include h

theorem isNaN_add : (x + y).isNaN = true := isNaN_pack (UnpackedFloat.add .binary64) rfl h

theorem isNaN_sub : (x - y).isNaN = true := isNaN_pack (UnpackedFloat.sub .binary64) rfl h

theorem isNaN_mul : (x * y).isNaN = true := isNaN_pack (UnpackedFloat.mul .binary64) rfl h

theorem isNaN_div : (x / y).isNaN = true := isNaN_pack (UnpackedFloat.div .binary64) rfl h

theorem roundPlaces?_of_isNaN (places : Int) : roundPlaces? x places = some x := by
  have hb : Binary.ofFloat x = .nan := by rw [Binary.ofFloat, isNaN_iff.1 h]
  rw [roundPlaces?, hb]

end Arithmetic

/-! ## Rules -/

namespace Rule

/-- The rule has a NaN for a NaN. -/
def KeepsNaN (r : Rule) : Prop :=
  ∀ x, x.isNaN = true → ∃ y, r.run x = .ok y ∧ y.isNaN = true

theorem keepsNaN_total {f : Float → Float} (hf : ∀ x, x.isNaN = true → (f x).isNaN = true)
    (places : Option Int) (warns : Bool) : (Rule.total f places warns).KeepsNaN := by
  intro x hx
  refine ⟨f x, ?_, hf x hx⟩
  cases places with
  | none => rfl
  | some n => simp only [run, total, roundPlaces?_of_isNaN (hf x hx)]

theorem keepsNaN_affine (factor offset : Float) (places : Option Int) (warns : Bool) :
    (Rule.affine factor offset places warns).KeepsNaN :=
  keepsNaN_total (fun _ hx => isNaN_add offset (isNaN_mul factor hx)) places warns

end Rule

/-- A rule that multiplies and adds, as it is registered with a converter. -/
structure Registration where
  kind : Kind
  unit : Text
  factor : Float
  offset : Float
  places : Option Int
  warns : Bool
  /-- The canonical unit that is registered with the rule, if any. -/
  canonical : Option Text

/-- The rule that is registered. -/
def Registration.rule (r : Registration) : Rule := .affine r.factor r.offset r.places r.warns

namespace Converter

/-- The converter with some more rules, registered one after the other. -/
def registered (c : Converter) (rs : List Registration) : Converter :=
  rs.foldl (fun c r => c.register r.kind r.unit r.rule r.canonical) c

/-- The converter with another policy. -/
def withPolicy (c : Converter) (policy : Policy) : Converter := { c with policy := policy }

theorem registered_withPolicy (c : Converter) (policy : Policy) (rs : List Registration) :
    (c.withPolicy policy).registered rs = (c.registered rs).withPolicy policy := by
  induction rs generalizing c with
  | nil => rfl
  | cons r rs ih => exact ih (c.register r.kind r.unit r.rule r.canonical)

theorem policy_registered (c : Converter) (rs : List Registration) :
    (c.registered rs).policy = c.policy := by
  induction rs generalizing c with
  | nil => rfl
  | cons r rs ih => exact ih (c.register r.kind r.unit r.rule r.canonical)

/-- All rules of the converter have a NaN for a NaN. -/
def KeepsNaN (c : Converter) : Prop := ∀ r ∈ c.rules, r.2.KeepsNaN

theorem keepsNaN_standard (policy : Policy) (atmosphereWarns : Bool) :
    (standard policy atmosphereWarns).KeepsNaN := by
  simp only [KeepsNaN, standard, List.forall_mem_cons, List.not_mem_nil, IsEmpty.forall_iff,
    implies_true, and_true]
  refine ⟨?_, ?_, ?_, ?_, ?_, ?_, ?_⟩
  · exact Rule.keepsNaN_total (fun _ hx => isNaN_add _ (isNaN_div _ (isNaN_sub _ hx))) _ _
  · exact Rule.keepsNaN_total (fun _ hx => isNaN_add _ hx) _ _
  · exact Rule.keepsNaN_total (fun _ hx => hx) _ _
  · exact Rule.keepsNaN_total (fun _ hx => hx) _ _
  all_goals exact Rule.keepsNaN_total (fun _ hx => isNaN_mul _ hx) _ _

theorem mem_rules_registered {c : Converter} {rs : List Registration} {x : (Kind × Text) × Rule}
    (h : x ∈ (c.registered rs).rules) :
    x ∈ c.rules ∨ ∃ r ∈ rs, x = ((r.kind, r.unit), r.rule) := by
  induction rs generalizing c with
  | nil => exact .inl h
  | cons r rs ih =>
    rcases ih (c := c.register r.kind r.unit r.rule r.canonical) h with hx | ⟨s, hs, rfl⟩
    · rcases List.mem_cons.1 hx with rfl | hx
      · exact .inr ⟨r, List.mem_cons_self, rfl⟩
      · exact .inl hx
    · exact .inr ⟨s, List.mem_cons_of_mem r hs, rfl⟩

theorem mem_rules_of_rule? {c : Converter} {kind : Kind} {unit : Text} {rule : Rule}
    (h : c.rule? kind unit = some rule) : ((kind, unit), rule) ∈ c.rules := by
  obtain ⟨_, _, he, -⟩ := List.lookup_eq_some_iff.1 h
  rw [he]
  simp

theorem keepsNaN_registered {c : Converter} (h : c.KeepsNaN) (rs : List Registration) :
    (c.registered rs).KeepsNaN := by
  intro x hx
  rcases mem_rules_registered hx with hx | ⟨r, -, rfl⟩
  · exact h x hx
  · exact Rule.keepsNaN_affine _ _ _ _

theorem KeepsNaN.rule {c : Converter} (h : c.KeepsNaN) {kind : Kind} {unit : Text} {rule : Rule}
    (hr : c.rule? kind unit = some rule) : rule.KeepsNaN :=
  h _ (mem_rules_of_rule? hr)

end Converter

/-! ## Conversions -/

theorem Reading.isNaN_notNumber : Reading.notNumber.value.isNaN = true := by decide +kernel

theorem Reading.isNaN_ofFloat {x : Float} (h : (Reading.ofFloat x).isNumber = false) :
    (Reading.ofFloat x).value.isNaN = true := by
  unfold ofFloat at h ⊢
  split at h
  · cases h
  · rw [if_neg ‹_›]
    exact isNaN_notNumber

theorem Reading.isNaN_ofText {t : Text} (h : (Reading.ofText t).isNumber = false) :
    (Reading.ofText t).value.isNaN = true := by
  unfold ofText at h ⊢
  cases hn : Numeral.ofText? t.strip with
  | none => exact isNaN_notNumber
  | some n => exact isNaN_ofFloat (by simpa only [hn] using h)

theorem Reading.isNaN_ofValue {v : Value} (h : (Reading.ofValue v).isNumber = false) :
    (Reading.ofValue v).value.isNaN = true := by
  cases v with
  | bool _ => cases h
  | int _ => exact isNaN_ofFloat h
  | float _ => exact isNaN_ofFloat h
  | bytes _ => exact isNaN_ofText h
  | text _ => exact isNaN_ofText h
  | null | list _ | object _ => exact isNaN_notNumber

namespace Converter

/-- The result of a rule, or why it is not applied: the value is no number, and such values are
dropped or the value cannot be shown in the report on it. -/
theorem value_convertWith (c : Converter) (rule : Rule) (kind : Kind) (unit : Text) (raw : Value) :
    (c.convertWith rule kind unit raw).value =
      if (Reading.ofValue raw).isNumber || !(raw.hasLong || c.policy = .skip) then
        ((rule.run (Reading.ofValue raw).value).map Value.float).mapError .rule
      else if raw.hasLong then .error .unshowable
      else .error (.notNumber raw kind) := by
  unfold convertWith
  obtain ⟨x, isNumber⟩ := Reading.ofValue raw
  cases isNumber with
  | true =>
    dsimp only
    cases rule.run x <;> rfl
  | false =>
    cases raw.hasLong with
    | true => rfl
    | false =>
      cases c.policy with
      | skip => rfl
      | propagate =>
        dsimp only
        cases rule.run x <;> rfl

theorem toOption_convertWith (c : Converter) (rule : Rule) (kind : Kind) (unit : Text)
    (raw : Value) :
    (c.convertWith rule kind unit raw).value.toOption =
      if (Reading.ofValue raw).isNumber || !(raw.hasLong || c.policy = .skip) then
        (rule.run (Reading.ofValue raw).value).toOption.map Value.float
      else none := by
  rw [value_convertWith]
  split
  · cases rule.run (Reading.ofValue raw).value <;> rfl
  · split <;> rfl

theorem value_convert_of_rule {c : Converter} {kind : Kind} {unit : Text} {rule : Rule}
    (h : c.rule? kind unit = some rule) (raw : Value) :
    (c.convert kind unit raw).value = (c.convertWith rule kind unit raw).value := by
  rw [convert, h]

theorem toOption_convert (c : Converter) (kind : Kind) (unit : Text) (raw : Value) :
    (c.convert kind unit raw).value.toOption =
      match c.rule? kind unit with
      | some rule => (c.convertWith rule kind unit raw).value.toOption
      | none => some raw := by
  unfold convert
  cases c.rule? kind unit with
  | some rule => rfl
  | none => cases c.hasRules kind <;> rfl

/-- A rule wants a number for the binding, and the value that is extracted is none. -/
def refuses (c : Converter) (payload : Value) (b : Binding) : Bool :=
  match (extract payload b.selector).value with
  | .error _ => false
  | .ok raw => (c.rule? b.kind b.unit).isSome && !(Reading.ofValue raw).isNumber

theorem refuses_iff {c : Converter} {payload : Value} {b : Binding} :
    c.refuses payload b = true ↔ ∃ raw, (extract payload b.selector).value = .ok raw ∧
      (c.rule? b.kind b.unit).isSome = true ∧ (Reading.ofValue raw).isNumber = false := by
  unfold refuses
  cases (extract payload b.selector).value with
  | error _ => simp
  | ok raw => simp

end Converter

/-! ## Records -/

namespace Interpreter

variable {payload : Value} {b : Binding}

theorem value_recordOf_error (c : Converter) {e : ExtractionError}
    (h : (extract payload b.selector).value = .error e) :
    (recordOf c payload b).value = none := by
  rw [recordOf, Logged.value_bind, h]
  dsimp only
  split <;> rfl

theorem value_recordOf_ok (c : Converter) {raw : Value}
    (h : (extract payload b.selector).value = .ok raw) :
    (recordOf c payload b).value =
      (c.convert b.kind b.unit raw).value.toOption.map fun v => ⟨b.destination, v⟩ := by
  rw [recordOf, Logged.value_bind, h]
  dsimp only
  rw [Logged.value_bind]
  cases (c.convert b.kind b.unit raw).value with
  | ok v => rfl
  | error e =>
    dsimp only
    split <;> rfl

theorem recordOf_withPolicy_of_none {c : Converter} (h : c.rule? b.kind b.unit = none)
    (policy : Policy) :
    (recordOf (c.withPolicy policy) payload b).value = (recordOf c payload b).value := by
  cases hraw : (extract payload b.selector).value with
  | error e => rw [value_recordOf_error _ hraw, value_recordOf_error _ hraw]
  | ok raw =>
    have h' : (c.withPolicy policy).rule? b.kind b.unit = none := h
    rw [value_recordOf_ok _ hraw, value_recordOf_ok _ hraw, Converter.toOption_convert,
      Converter.toOption_convert, h, h']

variable {c : Converter}

/-- Dropping takes the records of refused bindings and no others. -/
theorem recordOf_skip (h : c.policy = .propagate) :
    (recordOf (c.withPolicy .skip) payload b).value =
      if c.refuses payload b then none else (recordOf c payload b).value := by
  cases hraw : (extract payload b.selector).value with
  | error e =>
    rw [value_recordOf_error _ hraw, value_recordOf_error _ hraw, ite_self]
  | ok raw =>
    cases hr : c.rule? b.kind b.unit with
    | none =>
      have hno : c.refuses payload b = false := by simp [Converter.refuses, hraw, hr]
      rw [recordOf_withPolicy_of_none hr, hno]
      rfl
    | some rule =>
      have hr' : (c.withPolicy .skip).rule? b.kind b.unit = some rule := hr
      have hno : c.refuses payload b = !(Reading.ofValue raw).isNumber := by
        simp [Converter.refuses, hraw, hr]
      rw [value_recordOf_ok _ hraw, value_recordOf_ok _ hraw, Converter.toOption_convert,
        Converter.toOption_convert, hr, hr', hno]
      dsimp only
      rw [Converter.toOption_convertWith, Converter.toOption_convertWith, h]
      cases (Reading.ofValue raw).isNumber with
      | true => rfl
      | false =>
        rw [if_neg (by simp [Converter.withPolicy])]
        rfl

/-- The record of a refused binding has a NaN; there is one unless the value cannot be shown. -/
theorem recordOf_refused (h : c.policy = .propagate) (hn : c.KeepsNaN) {raw : Value}
    (hraw : (extract payload b.selector).value = .ok raw) (href : c.refuses payload b = true) :
    (raw.hasLong = true ∧ (recordOf c payload b).value = none) ∨
      (raw.hasLong = false ∧ ∃ y, y.isNaN = true ∧
        (recordOf c payload b).value = some ⟨b.destination, .float y⟩) := by
  obtain ⟨_, hraw', hr, hnum⟩ := Converter.refuses_iff.1 href
  cases hraw.symm.trans hraw'
  obtain ⟨rule, hr⟩ := Option.isSome_iff_exists.1 hr
  obtain ⟨y, hy, hynan⟩ := hn.rule hr _ (Reading.isNaN_ofValue hnum)
  rw [value_recordOf_ok _ hraw, Converter.toOption_convert, hr]
  dsimp only
  rw [Converter.toOption_convertWith, hnum, h, hy]
  cases raw.hasLong with
  | true => exact .inl ⟨rfl, rfl⟩
  | false => exact .inr ⟨rfl, y, hynan, rfl⟩

/-! ## Messages -/

/-- The records of a message, each with its binding. -/
def records (i : Interpreter) (topic : Text) (payload : Value) : List (Binding × Record) :=
  (i.registry.bindingsFor topic).filterMap fun b =>
    (recordOf i.converter payload b).value.map fun r => (b, r)

theorem value_interpret_records (i : Interpreter) (topic : Text) (payload : Value) :
    (i.interpret topic payload).value = shown ((i.records topic payload).map Prod.snd) := by
  rw [value_interpret, records, List.map_filterMap]
  congr 2
  funext b
  cases (recordOf i.converter payload b).value <;> rfl

theorem mem_records {i : Interpreter} {topic : Text} {r : Record} :
    (b, r) ∈ i.records topic payload ↔
      b ∈ i.registry.bindingsFor topic ∧ (recordOf i.converter payload b).value = some r := by
  simp [records, List.mem_filterMap, Option.map_eq_some_iff]

/-- What a configuration and some registered rules make, with a policy. -/
def under (policy : Policy) (atmosphereWarns : Bool) (rules : List Registration) (config : Value) :
    Interpreter :=
  .ofRegistry (Registry.ofConfig config
    ((Converter.standard policy atmosphereWarns).registered rules)).value

/-- What an interpreter `s` that drops values that are no numbers makes of a message, compared to an
interpreter `p` that converts them. -/
structure DropsFrom (p s : Interpreter) (topic : Text) (payload : Value) : Prop where
  /-- The message becomes the records, unless one of them cannot be shown. -/
  converted : (p.interpret topic payload).value = shown ((p.records topic payload).map Prod.snd)
  /-- Of the records, those of refused bindings are missing; the others stay as they are. -/
  left : (s.interpret topic payload).value = shown (((p.records topic payload).filter fun x =>
    !p.converter.refuses payload x.1).map Prod.snd)
  /-- The policy does not matter for whether all records can be shown. -/
  fails : ∀ e, (s.interpret topic payload).value = .error e ↔
    (p.interpret topic payload).value = .error e
  /-- The record of a refused binding has a NaN. -/
  missing : ∀ b r, (b, r) ∈ p.records topic payload → p.converter.refuses payload b = true →
    ∃ y, y.isNaN = true ∧ r = ⟨b.destination, .float y⟩
  /-- A refused binding has a record to be dropped, unless its value cannot be shown. -/
  refused : ∀ b ∈ p.registry.bindingsFor topic, ∀ raw,
    p.converter.refuses payload b = true → (extract payload b.selector).value = .ok raw →
      raw.hasLong = false → ∃ r, (b, r) ∈ p.records topic payload
  /-- A binding without a rule has the same record in both. -/
  unruled : ∀ b r, p.converter.rule? b.kind b.unit = none →
    ((b, r) ∈ s.records topic payload ↔ (b, r) ∈ p.records topic payload)

section Compared

variable {p s : Interpreter} {topic : Text} {payload : Value}

theorem records_skip (hp : p.converter.policy = .propagate)
    (hs : s.converter = p.converter.withPolicy .skip)
    (hb : s.registry.bindingsFor topic = p.registry.bindingsFor topic) :
    s.records topic payload =
      (p.records topic payload).filter fun x => !p.converter.refuses payload x.1 := by
  rw [records, records, List.filter_filterMap, hb, hs]
  congr 1
  funext b
  rw [recordOf_skip hp]
  cases hrec : (recordOf p.converter payload b).value with
  | none => rw [ite_self, Option.map_none, Option.filter_none]
  | some r => cases href : p.converter.refuses payload b <;> simp [Option.filter, href]

theorem findSome?_map_filter {α β γ : Type} {f : β → Option γ} {g : α → β} {keep : α → Bool}
    {xs : List α} (h : ∀ x ∈ xs, keep x = false → f (g x) = none) :
    ((xs.filter keep).map g).findSome? f = (xs.map g).findSome? f := by
  induction xs with
  | nil => rfl
  | cons x xs ih =>
    obtain ⟨hx, hxs⟩ := List.forall_mem_cons.1 h
    cases hk : keep x with
    | true => rw [List.filter_cons_of_pos hk, List.map_cons, List.map_cons, List.findSome?_cons,
        List.findSome?_cons, ih hxs]
    | false => rw [List.filter_cons_of_neg (by simp [hk]), ih hxs, List.map_cons,
        List.findSome?_cons, hx hk]

theorem missing_of_refuses (hp : p.converter.policy = .propagate) (hn : p.converter.KeepsNaN)
    {b : Binding} {r : Record} (hr : (b, r) ∈ p.records topic payload)
    (href : p.converter.refuses payload b = true) :
    ∃ y, y.isNaN = true ∧ r = ⟨b.destination, .float y⟩ := by
  obtain ⟨raw, hraw, -⟩ := Converter.refuses_iff.1 href
  have hrec := (mem_records.1 hr).2
  rcases recordOf_refused hp hn hraw href with ⟨-, hnone⟩ | ⟨-, y, hy, hsome⟩
  · rw [hnone] at hrec
    cases hrec
  · exact ⟨y, hy, (Option.some.inj (hsome.symm.trans hrec)).symm⟩

theorem dropsFrom (hp : p.converter.policy = .propagate) (hn : p.converter.KeepsNaN)
    (hs : s.converter = p.converter.withPolicy .skip)
    (hb : s.registry.bindingsFor topic = p.registry.bindingsFor topic) :
    DropsFrom p s topic payload := by
  have hrecords : s.records topic payload = _ := records_skip hp hs hb
  refine ⟨value_interpret_records _ _ _, ?_, ?_, ?_, ?_, ?_⟩
  · rw [value_interpret_records, hrecords]
  · intro e
    rw [value_interpret_records, value_interpret_records, hrecords, shown_eq_error_iff,
      shown_eq_error_iff, findSome?_map_filter]
    rintro ⟨b, r⟩ hx href
    -- a refused binding has a NaN, which can be shown
    obtain ⟨y, -, rfl⟩ := missing_of_refuses hp hn hx (by simpa using href)
    rfl
  · exact fun b r => missing_of_refuses hp hn
  · intro b hmem raw href hraw hl
    rcases recordOf_refused hp hn hraw href with ⟨hlong, -⟩ | ⟨-, y, -, hsome⟩
    · rw [hl] at hlong
      cases hlong
    · exact ⟨_, mem_records.2 ⟨hmem, hsome⟩⟩
  · intro b r hr
    rw [mem_records, mem_records, hb, hs, recordOf_withPolicy_of_none hr]

end Compared

variable (atmosphereWarns : Bool) (rules : List Registration) (config : Value) (topic : Text)
  (payload : Value)

theorem converter_under (policy : Policy) :
    (under policy atmosphereWarns rules config).converter =
      (Converter.standard policy atmosphereWarns).registered rules := by
  rw [under, Registry.value_ofConfig]
  rfl

theorem bindingsFor_under (policy : Policy) :
    (under policy atmosphereWarns rules config).registry.bindingsFor topic =
      Registry.declaredBindings (Registry.entriesOf config) topic :=
  Registry.bindingsFor_ofConfig _ _ _

theorem converter_under_skip :
    (under .skip atmosphereWarns rules config).converter =
      (under .propagate atmosphereWarns rules config).converter.withPolicy .skip := by
  rw [converter_under, converter_under, ← Converter.registered_withPolicy]
  rfl

/-- **Dropping what is no number takes exactly the records of such values.** Under any
configuration, and with any rules registered with the standard ones, a message becomes the records
that it becomes if such values are converted, in the same order, but for those of the bindings that
have a rule and an extracted value that is no number; and each record that is missing has a NaN. -/
theorem dropsFrom_under :
    DropsFrom (under .propagate atmosphereWarns rules config)
      (under .skip atmosphereWarns rules config) topic payload := by
  refine dropsFrom ?_ ?_ (converter_under_skip atmosphereWarns rules config) ?_
  · rw [converter_under, Converter.policy_registered]
    rfl
  · rw [converter_under]
    exact Converter.keepsNaN_registered (Converter.keepsNaN_standard _ _) _
  · rw [bindingsFor_under, bindingsFor_under]

end Interpreter

end DeltaBridge
