import DeltaBridge.Json.Writer
import DeltaBridge.Sensor.Registry

/-!
# Delta documents

The JSON documents in which readings and units are published: one update with a list of values, or
of units, each under its destination path.

* `Record`, `Record.delta`: a reading, and its part of a document; a number that is not finite is
  published as null;
* `UnitNotice.delta`; `valuesDelta`, `unitsDelta`: the documents.
-/

namespace DeltaBridge

/-- A reading for a destination. -/
structure Record where
  destination : Text
  value : Value

/-- A double that JSON has no notation for is replaced by null. -/
def Value.publishable : Value → Value
  | .float x => if x.isFinite then .float x else .null
  | v => v

/-- The part of a document for a destination. -/
def deltaEntry (destination : Text) (v : Value) : Value :=
  .object [("path", .text destination), ("value", v)]

namespace Record

/-- The part of a document for the reading. -/
def delta (r : Record) : Value := deltaEntry r.destination r.value.publishable

/-- The reading inside a message. -/
def shown (r : Record) : Text :=
  "OutputRecord(destination_path=" ++ r.destination.quoted ++ ", value=" ++ r.value.quoted ++ ")"

/-- Why the reading cannot be shown in a list of readings. The list and the reading are around the
value. -/
def showError? (r : Record) : Option ShowError := r.value.showError? (depthLimit - 2)

end Record

namespace UnitNotice

/-- The part of a document for the unit. -/
def delta (n : UnitNotice) : Value := deltaEntry n.destination (.object [("units", .text n.unit)])

/-- The notice inside a message. -/
def shown (n : UnitNotice) : Text :=
  "MetadataRecord(destination_path=" ++ n.destination.quoted ++ ", canonical_unit=" ++ n.unit.quoted ++ ")"

end UnitNotice

/-- Texts as a list inside a message. -/
def shownList (ts : List Text) : Text := "[" ++ Text.joinWith ", " ts ++ "]"

/-- A document with one update. -/
def deltaOf (update : List (Text × Value)) : Value := .object [("updates", .list [.object update])]

/-- The label of the source in an update; an empty one is left out. -/
def sourceMember : Option Text → List (Text × Value)
  | none | some [] => []
  | some label => [("source", .object [("label", .text label)])]

/-- The document for a batch of readings. -/
def valuesDelta (label : Option Text) (rs : List Record) : Value :=
  let values : Text × Value := ("values", .list (rs.map Record.delta))
  deltaOf (sourceMember label ++ [values])

/-- The document for a batch of units. -/
def unitsDelta (ns : List UnitNotice) : Value := deltaOf [("meta", .list (ns.map UnitNotice.delta))]

end DeltaBridge
