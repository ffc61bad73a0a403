import DeltaBridge.Decimal.Numeral
import DeltaBridge.Text.Case
import DeltaBridge.Text.Cut

/-!
# Settings

What the environment says about the bridge. A variable that is missing or blank leaves its setting
at the usual value, and so does one that cannot be read.

* `Environment`; `Environment.text?`, `Environment.integer`, `Environment.flag`: variables;
* `FilePath.normal`: the short form of a path in the file system;
* `Settings`, `Settings.read`.
-/

namespace DeltaBridge

open Ascii

/-- The variables with their texts. -/
abbrev Environment := List (Text × Text)

namespace Environment

/-- The text of a variable without the blanks around it; none if nothing is left. -/
def text? (env : Environment) (name : Text) : Option Text :=
  match env.lookup name with
  | none => none
  | some t => if t.strip.isEmpty then none else some t.strip

/-- The integer that a variable denotes. -/
def integer (env : Environment) (name : Text) (usual : Int) : Int :=
  ((env.text? name).bind integer?).getD usual

/-- The words for yes. -/
def yes : List Text := ["1", "true", "yes", "on"]

/-- The words for no. -/
def no : List Text := ["0", "false", "no", "off"]

/-- What a variable answers, in either case of letters. -/
def flag (env : Environment) (name : Text) (usual : Bool) : Bool :=
  let word := ((env.text? name).getD []).lower
  if word ∈ yes then true else if word ∈ no then false else usual

end Environment

/-! ## Paths in the file system -/

namespace FilePath

/-- The slashes that a path keeps at its start: two if it has exactly two, otherwise at most one. -/
def root : Text → Text
  | slash :: slash :: slash :: _ => [slash]
  | slash :: slash :: _ => [slash, slash]
  | slash :: _ => [slash]
  | _ => []

/-- The path without empty parts and without parts that stay in place. -/
def normal (t : Text) : Text :=
  let ps := (Text.partsAt slash t).filter fun p => p ≠ [] ∧ p ≠ [dot]
  root t ++ Text.joinWith [slash] ps

/-- The path seen from a directory: a path from the root stays as it is. -/
def seenFrom (directory t : Text) : Text :=
  if t.head? = some slash then normal t
  else if (normal t).isEmpty then directory
  else directory ++ slash :: normal t

end FilePath

/-! ## Settings -/

/-- The settings of the bridge. -/
structure Settings where
  brokerEnabled : Bool
  server : Text
  username : Option Text
  password : Option Text
  clientId : Option Text
  keepalive : Int
  qos : Int
  definitionsPath : Text
  /-- The topic for delta documents; without one they are only reported. -/
  deltaTopic : Option Text
  sourceLabel : Text
  atmosphereWarns : Bool
  policy : Text
  logLevel : Text
  deriving DecidableEq, Repr

/-- The settings in an environment, for a program in a directory. -/
def Settings.read (directory : Text) (env : Environment) : Settings where
  brokerEnabled := env.flag "MQTT_ENABLED" true
  server := (env.text? "MQTT_SERVER").getD "mqtt://localhost:1883"
  username := env.text? "MQTT_USERNAME"
  password := env.text? "MQTT_PASSWORD"
  clientId := env.text? "MQTT_CLIENT_ID"
  keepalive := env.integer "MQTT_KEEPALIVE" 60
  qos := env.integer "MQTT_QOS" 0
  definitionsPath := FilePath.seenFrom directory ((env.text? "SENSORS_FILE").getD "sensors.json")
  deltaTopic := env.text? "DELTA_TOPIC"
  sourceLabel := (env.text? "SOURCE_LABEL").getD "mqtt-sensors"
  atmosphereWarns := env.flag "ATM_FALLTHROUGH_WARNING" false
  policy := ((env.text? "NON_NUMERIC_POLICY").getD "propagate").lower
  logLevel := ((env.text? "LOG_LEVEL").getD "INFO").upper

end DeltaBridge
