import DeltaBridge.Bridge.Program
import DeltaBridge.Bridge.Threshold
import Std.Time.DateTime.Timestamp

/-!
# The command line

Runs the bridge with the environment and the definition file that it names. No network library is
linked, so that each attempt to create a client fails; without a broker the bridge reports the units
of its sensors and ends.
-/

namespace DeltaBridge.Main

/-- The variables that the settings are read from. -/
def variableNames : List String := ["MQTT_ENABLED", "MQTT_SERVER", "MQTT_USERNAME", "MQTT_PASSWORD",
  "MQTT_CLIENT_ID", "MQTT_KEEPALIVE", "MQTT_QOS", "SENSORS_FILE", "DELTA_TOPIC", "SOURCE_LABEL",
  "ATM_FALLTHROUGH_WARNING", "NON_NUMERIC_POLICY", "LOG_LEVEL"]

/-- A text for the terminal; code points that are no characters are replaced. -/
def render (t : Text) : String := String.ofList (t.map Char.ofNat)

/-- The environment of the process. -/
def environment : IO Environment := do
  let mut env := []
  for name in variableNames do
    if let some t ← IO.getEnv name then env := (Text.ofString name, Text.ofString t) :: env
  return env

/-- The file at a path. -/
def definitionFile (path : String) : IO DefinitionFile := do
  try
    let content ← IO.FS.readBinFile path
    return .content (content.toList.map UInt8.toNat)
  catch e =>
    match e with
    | .noFileOrDirectory .. => return .missing
    | _ => return .directory

/-- A network without a library for it. -/
def unlinked : Network := { Network.silent with answer := fun _ _ _ => .failed "no network library" }

end DeltaBridge.Main

open DeltaBridge DeltaBridge.Main in
/-- Runs the bridge and prints its reports. -/
def main : IO UInt32 := do
  let settings := Settings.read (Text.ofString (← IO.currentDir).toString) (← environment)
  match threshold none settings with
  | .error e =>
    IO.eprintln (render e.message)
    return 1
  | .ok least =>
    let time := intText (← Std.Time.Timestamp.now).toSecondsSinceUnixEpoch.val
    let file ← definitionFile (render settings.definitionsPath)
    let (ending, journal) := Program.run settings file time unlinked []
    for r in journal.reports do
      if least ≤ r.level.number then
        IO.eprintln s!"{r.level.name} {r.reporter.name} {render r.message}"
    match ending with
    | .returned => return 0
    | .farewell t =>
      IO.eprintln (render t)
      return 1
    | .badSetup e =>
      IO.eprintln (render e.message)
      return 1
    | .failed e =>
      IO.eprintln (render e.message)
      return 1
