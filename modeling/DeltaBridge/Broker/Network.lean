import DeltaBridge.Broker.TopicSet
import DeltaBridge.Value.Basic

/-!
# The network library

The broker is reached through a library of clients. The bridge makes calls on a client, and the
client tells the bridge what happens to the connection. What a call brings and what a client tells
is not up to the bridge, and is given by a `Network`.

* `Call`, `Outcome`, `CallRecord`: the calls, and the record of one;
* `Callback`, `Reason`: what a client tells;
* `Network`: the answers to calls, and the callbacks.
-/

namespace DeltaBridge

/-- A client of the network library: the number of calls made before its creation. -/
abbrev Client := Nat

/-- The calls of the network library. -/
inductive Call where
  | create (id : Text)
  | authenticate (user : Text) (password : Option Text)
  | encrypt
  | setReconnectDelay (shortest longest : Int)
  | connect (host : Text) (port : Nat) (keepalive : Int)
  | startLoop
  | stopLoop
  | disconnect
  /-- The topics, each with its quality of service. -/
  | subscribe (topics : List (Text × Int))
  | publish (topic : Text) (payload : Value) (qos : Int) (retain : Bool)

/-- How a call ends. -/
inductive Outcome where
  /-- It returns a result code, zero for success. -/
  | returned (code : Int)
  /-- It fails, with its reason. A failure that cannot be put into words is not expressed. -/
  | failed (reason : Text)
  /-- The user interrupts the program in the call. -/
  | interrupted
  deriving DecidableEq, Repr

/-- A call as it was made. -/
structure CallRecord where
  client : Client
  call : Call
  outcome : Outcome

/-- The reason that a broker gives. -/
structure Reason where
  name : Text
  isFailure : Bool
  deriving DecidableEq, Repr

/-- What a client tells about its connection. -/
inductive Callback where
  | connected (reason : Reason)
  | connectFailed
  | disconnected (reason : Reason)
  | message (topic : Text) (payload : Value)
  /-- The broker has answered a subscription, topic by topic. -/
  | subscribed (reasons : List Reason)
  /-- The library reports, with its own number for the severity. -/
  | noted (severity : Int) (text : Text)

/-- What the network library does. Everything may depend on the calls made before. -/
structure Network where
  answer : (past : List CallRecord) → Client → Call → Outcome
  /-- What a client tells while its loop is being started. -/
  atStart : (past : List CallRecord) → List Callback
  /-- What a client tells before each further look at a new connection, until the time for it is over. -/
  waiting : (past : List CallRecord) → List (List Callback)

namespace Network

/-- A network where each call succeeds and no client tells anything. -/
def silent : Network := ⟨fun _ _ _ => .returned 0, fun _ => [], fun _ => []⟩

end Network

end DeltaBridge
