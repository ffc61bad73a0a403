import DeltaBridge.Bridge.Definitions
import DeltaBridge.Bridge.Settings
import DeltaBridge.Bridge.Sink
import DeltaBridge.Sensor.Interpretation

/-!
# The bridge

The bridge takes what arrives from the broker, reads records from it, and sends the records on. It
announces the units of its sensors once; while that fails it tries again at the start of each turn
with a connection.

* `SetupError`, `Bridge.build`: a bridge from its settings;
* `Bridge.startUp`, `Bridge.turn`, `Bridge.shutDown`: its life;
* `Bridge.announce`, `Bridge.handleMessage`: units and messages.
-/

namespace DeltaBridge

/-- A bridge. -/
structure Bridge where
  interpreter : Interpreter
  sink : Sink
  transport : Transport
  running : Bool
  /-- The units are still to be announced. -/
  unitsPending : Bool

namespace Bridge

open Act

/-- The registry of the sensors. -/
def registry (b : Bridge) : Registry := b.interpreter.registry

/-! ## Building a bridge -/

/-- Why there is no bridge. -/
inductive SetupError where
  | definitions (e : DefinitionError)
  | address (e : AddressError)
  deriving DecidableEq, Repr

namespace SetupError

/-- The failure is reported as a bad configuration. -/
def isContained : SetupError → Bool
  | definitions e => e.isContained
  | address e => e.isContained

/-- The failure in words. -/
def message : SetupError → Text
  | definitions e => e.message
  | address e => e.message

end SetupError

/-- The session that the settings ask for, started at the given time. -/
def transportOf (settings : Settings) (time : Text) : Except AddressError Transport :=
  if settings.brokerEnabled then
    (Session.Config.make settings.server settings.clientId time).map fun config =>
      let config := { config with
        username := settings.username
        password := settings.password
        keepalive := settings.keepalive
        qos := settings.qos }
      some (.fresh config (some .reporting))
  else .ok none

/-- Where the settings send documents: to a topic if they name one and there is a broker. -/
def sinkOf (settings : Settings) : Sink :=
  match settings.brokerEnabled, settings.deltaTopic with
  | true, some (c :: name) => .topic (c :: name) (some settings.sourceLabel) settings.qos
  | _, _ => .log (some settings.sourceLabel)

/-- The bridge of some settings and a definition file, at the given time. -/
def build (settings : Settings) (file : DefinitionFile) (time : Text) : Logged (Except SetupError Bridge) := do
  let converter := Converter.standard (Policy.read (.text settings.policy)) settings.atmosphereWarns
  match ← loadDefinitions settings.definitionsPath file with
  | .error e => return .error (.definitions e)
  | .ok entries =>
    let registry ← Registry.ofConfig (.list entries) converter
    match transportOf settings time with
    | .error e => return .error (.address e)
    | .ok transport => return .ok ⟨.ofRegistry registry, sinkOf settings, transport, false, false⟩

/-! ## Its parts -/

/-- A report of the bridge. -/
def note (level : Level) (message : Text) : Act Bridge Unit := ofLogged (.emit level .bridge message)

/-- Tells the operator the status. -/
def tellStatus (isError : Bool) (message : Text) : Act Bridge Unit := do
  let _ ← tell .reporting ⟨message, isError⟩

/-- An action on the transport. -/
def onTransport {α : Type} (x : Act Transport α) : Act Bridge α :=
  within Bridge.transport (fun t b => { b with transport := t }) x

/-- An action on the session. -/
def onSession {α : Type} (x : Act Session α) : Act Bridge α := onTransport (Transport.use x)

/-! ## Units and messages -/

/-- Announces the units. If the broker does not take them they stay pending. -/
def announce : Act Bridge Unit := do
  note .debug "Updating server with SignalK metadata units"
  let b ← state
  match ← attempt (onTransport (announceUnits b.registry b.sink)) with
  | .ok _ => change fun b => { b with unitsPending := false }
  | .error (.broker e) =>
    change fun b => { b with unitsPending := true }
    note .warning ("metadata not published yet: " ++ e.message)
  | .error e => fail e

/-- Sends the records of a message on. A failure of the broker is told to the operator. -/
def deliver (topic : Text) (rs : List Record) : Act Bridge Unit := do
  match ← attempt (onTransport ((← state).sink.publishValues rs)) with
  | .ok () => return
  | .error (.broker e) =>
    note .error ("delta for " ++ topic ++ " not delivered: " ++ e.message)
    tellStatus true ("Delivery error: " ++ e.message)
  | .error e => fail e

/-- Interprets a message and sends its records on, if its topic has sensors; the records. -/
def handleMessage (topic : Text) (payload : Value) : Act Bridge (List Record) := during (.message topic payload) do
  let b ← state
  match ← ofLogged (b.interpreter.interpret topic payload) with
  | .error e => fail (.unshowable e)
  | .ok rs =>
    if !(b.registry.bindingsFor topic).isEmpty then deliver topic rs
    return rs

/-! ## Its life -/

/-- Starts the transport, if there is one. That it cannot be started is told to the operator. -/
def connect : Act Bridge Unit := do
  let b ← state
  match b.transport with
  | none => tellStatus false "MQTT disabled, not connecting"
  | some _ =>
    match ← attempt (onSession (Session.start (.ofList b.registry.topics))) with
    | .ok _ => return
    | .error (.broker e) =>
      note .error ("transport did not start: " ++ e.message)
      tellStatus true ("Transport error: " ++ e.message)
    | .error e => fail e

/-- The report on a topic with its sensors. -/
def noteTopic (e : Text × List Binding) : Act Bridge Unit :=
  note .debug ("MQTT Topic: " ++ e.1 ++ " (" ++ natText e.2.length ++ " sensors)")

/-- Connects and announces the units. -/
def startUp : Act Bridge Unit := do
  let entries := (← state).registry.entries
  note .info ("starting with " ++ natText entries.length ++ " topic bindings")
  each noteTopic entries
  change fun b => { b with running := true }
  connect
  announce

/-- Handles a message whose records nobody asks for. -/
def handleQueued (m : Text × Value) : Act Bridge Unit := do
  let _ ← handleMessage m.1 m.2

/-- Handles all that has arrived. -/
def turn : Act Bridge Unit := do
  let b ← state
  if b.unitsPending && b.transport.isConnected then announce
  each handleQueued (← onSession Session.drain)

/-- Takes one turn if there is something to wait for; whether there is not. -/
def pump : Act Bridge Bool := do
  let b ← state
  match b.transport with
  | none =>
    note .info "no transport configured, nothing to pump"
    return true
  | some _ =>
    if !b.running then return true
    turn
    return false

/-- Ends the bridge and its session. -/
def shutDown : Act Bridge Unit := do
  note .info "stopping"
  change fun b => { b with running := false }
  match (← state).transport with
  | none => return
  | some _ => onSession Session.stop

end Bridge

end DeltaBridge
