import DeltaBridge.Sensor.Kind

/-!
# Bindings

A binding says where one reading of a topic is found and where it is published.

* `Binding`, `Binding.ofRow`: a binding and the configuration row that it is read from;
* `TopicBinding`, `TopicBinding.make?`: the bindings of a topic.
-/

namespace DeltaBridge

/-- One reading of a topic: where it is published, what it measures, its unit, and the path to it. -/
structure Binding where
  destination : Text
  kind : Kind
  unit : Text
  /-- The path of the reading in the payload; without one the whole payload is the reading. -/
  selector : Option Text
  deriving DecidableEq, Repr

/-- What is wrong with a configuration row. -/
inductive RowError where
  | noDestination
  deriving DecidableEq, Repr

/-- The fault in words. -/
def RowError.message : RowError → Text
  | noDestination => "sensor has no destination path"

namespace Binding

/-- The text of a selector field; none if the field is missing or blank. -/
def selectorOf : Value → Option Text
  | .null => none
  | v => if v.display.strip.isEmpty then none else some v.display.strip

/-- A field of a row, null if it is missing. -/
def field (row : List (Text × Value)) (name : Text) : Value := (Members.get? name row).getD .null

/-- The binding of a row; only the destination is required. -/
def ofRow (row : List (Text × Value)) : Logged (Except RowError Binding) :=
  let destination := (field row "destination").fieldText.strip
  if destination.isEmpty then return .error .noDestination
  else do
    let kind ← Kind.read (field row "sensor")
    return .ok ⟨destination, kind, (field row "unit").fieldText.strip, selectorOf (field row "json_path")⟩

end Binding

/-- The bindings of a topic, in the order of their declaration. -/
structure TopicBinding where
  topic : Text
  bindings : List Binding
  topic_ne_nil : topic ≠ []

/-- A topic with its bindings; there is no topic without a name. -/
def TopicBinding.make? (topic : Text) (bindings : List Binding) : Option TopicBinding :=
  if h : topic ≠ [] then some ⟨topic, bindings, h⟩ else none

/-- The words for a topic without a name. -/
def namelessTopicText : Text := "topic identifier must not be empty"

end DeltaBridge
