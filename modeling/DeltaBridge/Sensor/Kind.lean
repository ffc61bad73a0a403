import DeltaBridge.Log
import DeltaBridge.Text.Blank
import DeltaBridge.Text.Case
import DeltaBridge.Value.Basic

/-!
# Kinds of sensors

What a sensor measures, and the unit in which readings of that kind are published.

* `Kind`, `Kind.tag`, `Kind.ofTag?`, inverse to each other by `ofTag?_tag`;
* `Kind.read`: the kind that a configuration field names; anything unknown is `other`;
* `Kind.canonicalUnit`: the unit of a kind.
-/

namespace DeltaBridge

/-- What a sensor measures. -/
inductive Kind where
  | temperature
  | waterLeak
  | humidity
  | battery
  | pressure
  | other
  deriving DecidableEq, Repr

namespace Kind

/-- All kinds. -/
def all : List Kind := [temperature, waterLeak, humidity, battery, pressure, other]

/-- The name of a kind in a configuration. -/
def tag : Kind → Text
  | temperature => "temperature"
  | waterLeak => "water_leak"
  | humidity => "humidity"
  | battery => "battery"
  | pressure => "pressure"
  | other => "other"

/-- The kind of a name. -/
def ofTag? (t : Text) : Option Kind := all.find? fun k => k.tag = t

theorem ofTag?_tag (k : Kind) : ofTag? k.tag = some k := by cases k <;> decide

theorem tag_of_ofTag? {t : Text} {k : Kind} (h : ofTag? t = some k) : k.tag = t := by
  simpa using List.find?_some h

/-- The kind that a configuration field names, whatever its case and the blanks around it. -/
def read (raw : Value) : Logged Kind :=
  match ofTag? raw.fieldText.strip.lower with
  | some k => pure k
  | none => do
    .emit .warning .kinds ("Unknown sensor type " ++ raw.quoted ++ ", treating it as 'other'")
    return other

/-- The unit in which readings of a kind are published; none if the kind has no unit. -/
def canonicalUnit : Kind → Option Text
  | temperature => some "K"
  | pressure => some "Pa"
  | humidity => some "%"
  | battery => some "%"
  | waterLeak => some "boolean"
  | other => none

end Kind

end DeltaBridge
