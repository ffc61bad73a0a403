import DeltaBridge.Decimal.Places
import DeltaBridge.Sensor.Kind
import DeltaBridge.Sensor.Reading

/-!
# Conversion to canonical units

A converter is a table of rules, one for each kind and input unit that it knows. A reading with a
rule is converted and rounded. A kind without any rule, or a unit without a rule, lets the value
through as it is.

* `Policy`: what becomes of a value that is no number though a rule wants one;
* `Rule`, `Rule.affine`, `Rule.run`: the arithmetic of a rule;
* `Converter`, `Converter.standard`, `Converter.register`: the table;
* `Converter.convert`: the conversion, or why there is none.
-/

namespace DeltaBridge

/-- What becomes of a value that is no number though a rule wants one. -/
inductive Policy where
  /-- The rule is applied to a NaN. -/
  | propagate
  /-- The value is dropped. -/
  | skip
  deriving DecidableEq, Repr

namespace Policy

/-- The name of a policy in a configuration. -/
def tag : Policy → Text
  | propagate => "propagate"
  | skip => "skip"

/-- The policy that a configuration field names, whatever its case and the blanks around it;
`propagate` for anything else. -/
def read (raw : Value) : Policy := if raw.fieldText.strip.lower = skip.tag then skip else propagate

end Policy

/-! ## Rules -/

/-- Why a rule gives no result. -/
inductive RuleError where
  /-- The arithmetic of the rule fails, with its reason. -/
  | arithmetic (reason : Text)
  /-- The rounded result is beyond the doubles. -/
  | tooLarge
  deriving DecidableEq, Repr

/-- The reason in words. -/
def RuleError.message : RuleError → Text
  | arithmetic reason => reason
  | tooLarge => "rounded value too large to represent"

/-- How readings in one unit become readings in the canonical unit. -/
structure Rule where
  /-- The arithmetic of the rule. It takes doubles to doubles: an integer result is not expressed. -/
  function : Float → Except Text Float
  /-- The decimal places of the result; none to leave it unrounded. -/
  places : Option Int
  /-- A warning is reported after each conversion. -/
  warns : Bool

namespace Rule

/-- A rule that cannot fail in its arithmetic. -/
def total (f : Float → Float) (places : Option Int) (warns : Bool) : Rule := ⟨fun x => .ok (f x), places, warns⟩

/-- The rule that multiplies and then adds. -/
def affine (factor offset : Float) (places : Option Int) (warns : Bool) : Rule :=
  total (fun x => x * factor + offset) places warns

/-- The result of a rule on a number. -/
def run (r : Rule) (x : Float) : Except RuleError Float :=
  match r.function x with
  | .error reason => .error (.arithmetic reason)
  | .ok y =>
    match r.places with
    | none => .ok y
    | some n =>
      match roundPlaces? y n with
      | some z => .ok z
      | none => .error .tooLarge

end Rule

/-! ## Converters -/

/-- A table of rules with the canonical units of the kinds. -/
structure Converter where
  policy : Policy
  /-- The rules by kind and unit; of two for one kind and unit the first counts. -/
  rules : List ((Kind × Text) × Rule)
  unitOf : Kind → Option Text

/-- Why a value is not converted. -/
inductive ConversionError where
  /-- The value is no number, and such values are dropped. -/
  | notNumber (raw : Value) (kind : Kind)
  | rule (e : RuleError)
  /-- The value cannot be shown in a message, since it has an integer too long to be written out. -/
  | unshowable

namespace ConversionError

/-- The failure is one of the value, and is reported as such. -/
def isContained : ConversionError → Bool
  | notNumber _ _ => true
  | _ => false

/-- The words for a value that is no number. -/
def notNumberText (raw : Value) (kind : Kind) : Text :=
  "Value " ++ raw.quoted ++ " for " ++ kind.tag ++ " is not numeric"

/-- The failure in words. -/
def message : ConversionError → Text
  | notNumber raw kind => notNumberText raw kind
  | rule e => e.message
  | unshowable => longIntegerText

end ConversionError

namespace Converter

/-- Adds a rule, or replaces the one for its kind and unit; a canonical unit, if given, replaces that
of the kind. -/
def register (c : Converter) (kind : Kind) (unit : Text) (rule : Rule) (canonical : Option Text) : Converter where
  policy := c.policy
  rules := ((kind, unit), rule) :: c.rules
  unitOf k := if k = kind then canonical.or (c.unitOf k) else c.unitOf k

/-- The rule for a kind and a unit. -/
def rule? (c : Converter) (kind : Kind) (unit : Text) : Option Rule := c.rules.lookup (kind, unit)

/-- The kind has a rule for some unit. -/
def hasRules (c : Converter) (kind : Kind) : Bool := c.rules.any fun r => r.1.1 = kind

/-- The rules for temperatures and pressures, rounded to two places; a conversion from atmospheres
reports a warning if `atmosphereWarns`. -/
def standard (policy : Policy) (atmosphereWarns : Bool) : Converter where
  policy := policy
  rules := [
    ((.temperature, "F"), .total (fun x => (x - 32) / 1.8 + 273.15) (some 2) false),
    ((.temperature, "C"), .total (fun x => x + 273.15) (some 2) false),
    ((.temperature, "K"), .total (fun x => x) (some 2) false),
    ((.pressure, "Pa"), .total (fun x => x) (some 2) false),
    ((.pressure, "hPa"), .total (fun x => x * 100.0) (some 2) false),
    ((.pressure, "mmHg"), .total (fun x => x * 133.322) (some 2) false),
    ((.pressure, "atm"), .total (fun x => x * 101325.0) (some 2) atmosphereWarns)]
  unitOf := Kind.canonicalUnit

/-- The warning about a unit without a conversion. -/
def unknownUnit (kind : Kind) (unit : Text) : Logged Unit :=
  .emit .warning .converter ("Unknown conversion from " ++ unit.quoted ++ " to SI unit for " ++ kind.tag)

/-- The reports of a conversion with a result. -/
def reportResult (c : Converter) (kind : Kind) (unit : Text) (warns : Bool) (y : Float) : Logged Unit := do
  .emit .debug .converter ("Converting " ++ kind.tag ++ " from " ++ unit ++ " to " ++
    (c.unitOf kind).getD "None" ++ ": " ++ floatText y)
  if warns then unknownUnit kind unit

/-- The conversion of a value by a rule. -/
def convertWith (c : Converter) (rule : Rule) (kind : Kind) (unit : Text) (raw : Value) :
    Logged (Except ConversionError Value) := do
  let reading := Reading.ofValue raw
  if !reading.isNumber && raw.hasLong then return .error .unshowable
  if !reading.isNumber && c.policy = .skip then return .error (.notNumber raw kind)
  if !reading.isNumber then .emit .warning .converter (ConversionError.notNumberText raw kind)
  match rule.run reading.value with
  | .error e => return .error (.rule e)
  | .ok y =>
    c.reportResult kind unit rule.warns y
    return .ok (.float y)

/-- The value in the canonical unit of its kind. -/
def convert (c : Converter) (kind : Kind) (unit : Text) (raw : Value) : Logged (Except ConversionError Value) :=
  match c.rule? kind unit with
  | some rule => c.convertWith rule kind unit raw
  | none => do
    if c.hasRules kind then unknownUnit kind unit
    else .emit .debug .converter ("No data type conversion for " ++ kind.tag)
    return .ok raw

end Converter

end DeltaBridge
