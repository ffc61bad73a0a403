import DeltaBridge.Sensor.Binding
import DeltaBridge.Sensor.Converter

/-!
# The registry of sensors

The bindings of all topics, in the order in which the topics first occur, with the converter for
their readings. Entries for one topic are merged. Malformed parts of a configuration are left out
with a warning.

* `Registry`, `Registry.ofTopics`, `Registry.ofConfig`;
* `Registry.bindingsFor`, `Registry.topics`, `Registry.unitNotices`: what is looked up.
-/

namespace DeltaBridge

/-- The announcement that the readings at a destination are in a unit. -/
structure UnitNotice where
  destination : Text
  unit : Text
  deriving DecidableEq, Repr

/-- The bindings by topic, with the converter for their readings. -/
structure Registry where
  entries : List (Text × List Binding)
  converter : Converter

namespace Registry

/-- The entries with some more bindings for a topic. -/
def extend (entries : List (Text × List Binding)) (t : TopicBinding) : List (Text × List Binding) :=
  Members.put t.topic ((Members.get? t.topic entries).getD [] ++ t.bindings) entries

/-- The registry of some topics. -/
def ofTopics (ts : List TopicBinding) (converter : Converter) : Registry := ⟨ts.foldl extend [], converter⟩

/-! ## Configurations -/

/-- A warning or a note about a configuration. -/
def note (level : Level) (message : Text) : Logged Unit := .emit level .registry message

/-- The bindings of the rows of a topic from row `i` on. -/
def readRows (topic : Text) : (i : Nat) → List Value → Logged (List Binding)
  | _, [] => return []
  | i, .object row :: rows => do
    match ← Binding.ofRow row with
    | .ok b =>
      note .debug ("  " ++ (Value.object row).quoted)
      return b :: (← readRows topic (i + 1) rows)
    | .error e =>
      note .warning ("Skipping sensor " ++ natText i ++ " of " ++ topic.quoted ++ ": " ++ e.message)
      readRows topic (i + 1) rows
  | i, _ :: rows => do
    note .warning ("Skipping sensor " ++ natText i ++ " of " ++ topic.quoted ++ ": not an object")
    readRows topic (i + 1) rows

/-- The topic with its bindings that the entry at position `i` describes, if it is well formed. -/
def readEntry (i : Nat) (entry : Value) : Logged (Option TopicBinding) :=
  match entry with
  | .object ms =>
    let topic := (Binding.field ms "mqtt_topic").fieldText.strip
    if h : topic ≠ [] then
      match Binding.field ms "sensors" with
      | .list rows => do
        note .debug ("MQTT Topic: " ++ topic)
        return some ⟨topic, ← readRows topic 0 rows, h⟩
      | _ => do
        note .warning ("Skipping topic " ++ topic.quoted ++ ": sensors must be a list")
        return none
    else do
      note .warning ("Skipping topic entry " ++ natText i ++ ": missing mqtt_topic")
      return none
  | _ => do
    note .warning ("Skipping topic entry " ++ natText i ++ ": not an object")
    return none

/-- The topics of the well-formed entries from position `i` on. -/
def readEntries : (i : Nat) → List Value → Logged (List TopicBinding)
  | _, [] => return []
  | i, entry :: entries => do
    let t ← readEntry i entry
    return t.toList ++ (← readEntries (i + 1) entries)

/-- The registry of a configuration; anything but a list configures nothing. -/
def ofConfig (config : Value) (converter : Converter) : Logged Registry :=
  match config with
  | .list entries => do
    note .debug "Loading MQTT sensor definitions..."
    return ofTopics (← readEntries 0 entries) converter
  | _ => do
    note .info "No MQTT sensor definitions configured"
    return ofTopics [] converter

/-! ## What is looked up -/

/-- The topics, in the order in which they first occur. -/
def topics (r : Registry) : List Text := r.entries.map (·.1)

/-- The bindings of a topic, in the order of their declaration. -/
def bindingsFor (r : Registry) (topic : Text) : List Binding := (Members.get? topic r.entries).getD []

/-- The unit to announce for a binding; none if its kind has no unit. -/
def unitNotice? (c : Converter) (b : Binding) : Option UnitNotice :=
  match c.unitOf b.kind with
  | none | some [] => none
  | some unit => some ⟨b.destination, unit⟩

/-- The units to announce, one for each binding whose kind has one, topic by topic. -/
def unitNotices (r : Registry) : List UnitNotice :=
  r.entries.flatMap fun e => e.2.filterMap (unitNotice? r.converter)

end Registry

end DeltaBridge
