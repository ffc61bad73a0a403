import DeltaBridge.Broker.Act
import DeltaBridge.Broker.Address
import DeltaBridge.Broker.Link

/-!
# Sessions

A session with a broker. It connects, asks for its topics again on each new connection, queues what
arrives until someone takes it, and tells the operator how the connection fares.

* `Session.Config`, `Session.Config.make`: the parameters of a session;
* `Session`, `Session.fresh`;
* `Session.start`, `Session.stop`, `Session.handle`: its life, and what it does with each callback;
* `Session.publish`, `Session.drain`: messages out and in.
-/

namespace DeltaBridge

/-- The parameters of a session. -/
structure Session.Config where
  server : Text
  username : Option Text
  password : Option Text
  clientId : Text
  keepalive : Int
  qos : Int
  /-- The seconds that a start waits for the connection, as a message shows them. -/
  patience : Text
  shortestDelay : Int
  longestDelay : Int
  address : Address
  deriving DecidableEq, Repr

namespace Session.Config

/-- The name of a client that is given none: it tells the time, in seconds. -/
def generatedId (time : Text) : Text := "mqtt_sensors_" ++ time

/-- A missing or empty text is replaced. -/
def orElse (replacement : Text) : Option Text → Text
  | none | some [] => replacement
  | some t => t

/-- The usual parameters for a server, at a given time. -/
def make (server : Text) (clientId : Option Text) (time : Text) : Except AddressError Session.Config :=
  (Address.parse server).map fun address =>
    ⟨server, none, none, orElse (generatedId time) clientId, 60, 0, "30.0", 1, 60, address⟩

end Session.Config

/-- A session with a broker. -/
structure Session where
  config : Session.Config
  listener : Option Listener
  link : Link
  client : Option Client
  /-- The topics to ask for. -/
  topics : TopicSet
  /-- The topics that the broker has been asked for on this connection. -/
  subscribed : TopicSet
  /-- What has arrived and is not yet taken, oldest first. -/
  queue : List (Text × Value)

namespace Session

open Act

/-- A session before anything has been done. -/
def fresh (config : Config) (listener : Option Listener) : Session where
  config := config
  listener := listener
  link := .disconnected
  client := none
  topics := ∅
  subscribed := ∅
  queue := []

/-- There is a connection. -/
def isConnected (s : Session) : Bool := s.link = .connected

/-- A report of a session. -/
def note (level : Level) (message : Text) : Act Session Unit := ofLogged (.emit level .broker message)

/-- The link changes its state, if it may. -/
def moveTo (l : Link) : Act Session Unit := change fun s => { s with link := s.link.move l }

/-- No topic counts as subscribed. -/
def forget : Act Session Unit := change fun s => { s with subscribed := ∅ }

/-- Reports the status and tells the listener. A listener that fails is reported and goes on listening. -/
def announce (isError : Bool) (message : Text) : Act Session Unit := do
  note (if isError then .error else .info) message
  match (← state).listener with
  | none => return
  | some l =>
    match ← tell l ⟨message, isError⟩ with
    | none => return
    | some reason => note .error ("Error in status callback: " ++ reason)

/-! ## Callbacks -/

/-- The topics of a subscription, each with the quality of service of the session. -/
def requests (s : Session) : List (Text × Int) := s.topics.toList.map fun t => (t, s.config.qos)

/-- Topics in quotes, as a list inside a message. -/
def shownTopics (s : TopicSet) : Text := "[" ++ Text.joinWith ", " (s.toList.map Text.quoted) ++ "]"

/-- Asks the broker for all topics. -/
def subscribeAll : Act Session Unit := do
  let s ← state
  if s.topics.isEmpty then note .warning "No topics configured for subscription"
  else
    note .debug ("MQTT topics for subscription " ++ shownTopics s.topics)
    match s.client with
    | none => fail .noClient
    | some c =>
      let code ← perform c (.subscribe s.requests)
      if code ≠ 0 then note .warning ("Error subscribing to topics: " ++ intText code)
      else change fun s => { s with subscribed := s.topics }

/-- The broker has answered the connection. -/
def onConnected (r : Reason) : Act Session Unit := do
  if r.isFailure then
    moveTo .error
    announce true ("Connection error: " ++ r.name)
  else
    moveTo .connected
    announce false ("Connected to " ++ (← state).config.server)
    subscribeAll

/-- The broker could not be reached. -/
def onConnectFailed : Act Session Unit := do
  moveTo .reconnecting
  announce false "Attempting to reconnect to MQTT broker..."

/-- The connection has ended. -/
def onDisconnected (r : Reason) : Act Session Unit := do
  forget
  if (← state).link = .shutdown then return
  if r.isFailure then
    note .warning ("Unexpected disconnection from MQTT broker (" ++ r.name ++ ")")
    moveTo .reconnecting
    announce false "Disconnected"
  else
    moveTo .disconnected
    announce false "Connection closed."

/-- The size of a payload: the number of its bytes, its characters, its items or its members. -/
def payloadSize : Value → Nat
  | .bytes b => b.length
  | .text t => t.length
  | .list xs => xs.length
  | .object ms => ms.length
  | _ => 0

/-- A message has arrived. -/
def onMessage (topic : Text) (payload : Value) : Act Session Unit := do
  change fun s => { s with queue := s.queue ++ [(topic, payload)] }
  note .debug ("Received message on topic '" ++ topic ++ "': " ++ natText (payloadSize payload) ++ " bytes")

/-- The broker has answered a subscription. -/
def onSubscribed (rs : List Reason) : Act Session Unit :=
  match rs.filter Reason.isFailure with
  | [] => note .debug "Subscribed to all required topics"
  | failures =>
    note .warning ("Error subscribing to topics: [" ++ Text.joinWith ", " (failures.map Reason.name) ++ "]")

/-- The level of a note of the network library. -/
def levelOf (severity : Int) : Level :=
  if severity = 1 ∨ severity = 2 then .info
  else if severity = 4 then .warning
  else if severity = 8 then .error
  else .debug

/-- What there is to do when a client tells something. -/
def respond : Callback → Act Session Unit
  | .connected r => onConnected r
  | .connectFailed => onConnectFailed
  | .disconnected r => onDisconnected r
  | .message topic payload => onMessage topic payload
  | .subscribed rs => onSubscribed rs
  | .noted severity text => note (levelOf severity) ("MQTT: " ++ text)

/-- What the session does when a client tells something. -/
def handle (c : Callback) : Act Session Unit := during (.callback c) (respond c)

/-- A callback while nobody waits for its end: its failure stays with the network library. -/
def handleAside (c : Callback) : Act Session Unit := do
  let _ ← attempt (handle c)

/-! ## Start and stop -/

/-- Creates a client and sets it up. -/
def setUp : Act Session Unit := do
  let config := (← state).config
  let c ← create config.clientId
  change fun s => { s with client := some c }
  match config.username with
  | none | some [] => pure ()
  | some user => let _ ← perform c (.authenticate user config.password)
  if config.address.encrypted then let _ ← perform c .encrypt
  let _ ← perform c (.setReconnectDelay config.shortestDelay config.longestDelay)
  note .info ("MQTT client initialized with ID: " ++ config.clientId)

/-- Makes a call on the client of the session. -/
def callClient (x : Call) : Act Session Unit := do
  match (← state).client with
  | none => fail .noClient
  | some c => let _ ← perform c x

/-- A new client with its loop running. -/
def launch : Act Session Unit := do
  setUp
  let config := (← state).config
  callClient (.connect config.address.host config.address.port config.keepalive)
  callClient .startLoop
  each handle (← atStart)

/-- Looks at the link, and again after each of some groups of callbacks, until there is a connection.
The user interrupts calls of the network library only, not the time between two looks. -/
def await : List (List Callback) → Act Session Bool
  | [] => do
    let s ← state
    if s.isConnected then return true
    note .warning ("No connection after " ++ s.config.patience ++ "s, retrying in background")
    return false
  | cs :: rest => do
    if (← state).isConnected then return true
    each handleAside cs
    await rest

/-- Replaces the topics to ask for. -/
def want (topics : TopicSet) : Act Session Unit := do
  change fun s => { s with topics := topics }
  mark (.wanted topics)

/-- Connects, and waits for the connection; whether there is one. -/
def start (topics : TopicSet) : Act Session Bool := do
  want topics
  moveTo .connecting
  let address := (← state).config.address
  note .info ("Connecting to MQTT broker at " ++ address.host ++ ":" ++ natText address.port)
  match ← attempt launch with
  | .ok _ => await (← waiting)
  | .error .interrupted => fail .interrupted
  | .error e =>
    moveTo .error
    announce true ("Connection error: " ++ e.message)
    fail (.broker (.startFailed e.message))

/-- Disconnects the client and stops its loop. -/
def hangUp (c : Client) : Act Session Unit := do
  note .info "Disconnecting from MQTT broker"
  let _ ← perform c .disconnect
  let _ ← perform c .stopLoop

/-- Ends the session for good, if it has a client. -/
def stop : Act Session Unit := during .ending do
  match (← state).client with
  | none => return
  | some c =>
    moveTo .shutdown
    let r ← attempt (hangUp c)
    match r with
    | .ok _ | .error .interrupted => pure ()
    | .error e => note .error ("Error during MQTT disconnection: " ++ e.message)
    forget
    match r with
    | .error .interrupted => fail .interrupted
    | _ => return

/-! ## Messages -/

/-- The failure of a publication whose payload has no JSON text. Bytes and what is nested too deep are
no failures of the broker. -/
def unwritten (topic : Text) : Json.WriteError → Failure
  | .bytes => .unwritable .bytes
  | .tooDeep => .unwritable .tooDeep
  | e => .broker (.unwritable topic e)

/-- A payload as it is sent: objects and lists as JSON, texts and bytes as they are, and anything else as
a message shows it. -/
def packet (topic : Text) (payload : Value) : Except Failure Value :=
  match payload with
  | .text _ | .bytes _ => .ok payload
  | .list _ | .object _ =>
    match Json.write payload with
    | .ok t => .ok (.text t)
    | .error e => .error (unwritten topic e)
  | v => if v.hasLong then .error (.unshowable .longInteger) else .ok (.text v.display)

/-- Publishes a message; without a connection this fails. -/
def publish (topic : Text) (payload : Value) (qos : Int) (retain : Bool) : Act Session Unit := do
  let s ← state
  match s.client with
  | none => fail (.broker .notConnected)
  | some c =>
    if !s.isConnected then fail (.broker .notConnected)
    else
      let packet ← ofExcept (packet topic payload)
      let code ← perform c (.publish topic packet qos retain)
      if code ≠ 0 then fail (.broker (.refused topic code))
      else note .debug ("Published message to topic '" ++ topic ++ "'")

/-- Takes all that has arrived. -/
def drain : Act Session (List (Text × Value)) := do
  let s ← state
  change fun s => { s with queue := [] }
  return s.queue

/-- The figures of a session. -/
def stats (s : Session) : Value :=
  .object [("server", .text s.config.server), ("connection_state", .text s.link.name),
    ("topics", .int s.topics.size), ("queued_messages", .int s.queue.length)]

end Session

end DeltaBridge
