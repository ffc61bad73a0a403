import DeltaBridge.Text.Basic

/-!
# Link states

The states of the connection to a broker, and the changes between them that are allowed.

* `Link`, `Link.allows`: a shut-down link allows none, `not_allows_shutdown`;
* `Link.move`: the state after an attempted change, which stays if the change is not allowed.
-/

namespace DeltaBridge

/-- The state of the connection to a broker. -/
inductive Link where
  | disconnected
  | connecting
  | connected
  | reconnecting
  | error
  | shutdown
  deriving DecidableEq, Repr

namespace Link

/-- All states. -/
def all : List Link := [disconnected, connecting, connected, reconnecting, error, shutdown]

/-- The name of a state. -/
def name : Link → String
  | disconnected => "disconnected"
  | connecting => "connecting"
  | connected => "connected"
  | reconnecting => "reconnecting"
  | error => "error"
  | shutdown => "shutdown"

/-- The states that a state allows to follow. -/
def following : Link → List Link
  | disconnected => [connecting, connected, error, reconnecting, shutdown]
  | connecting => [connected, reconnecting, error, shutdown]
  | connected => [disconnected, reconnecting, error, shutdown]
  | reconnecting => [connected, error, disconnected, shutdown]
  | error => [connecting, connected, reconnecting, shutdown]
  | shutdown => []

/-- The second state may follow the first. -/
def allows (a b : Link) : Bool := a.following.contains b

theorem not_allows_shutdown (b : Link) : shutdown.allows b = false := by cases b <;> rfl

/-- The state after an attempt to change from `a` to `b`. -/
def move (a b : Link) : Link := if a.allows b then b else a

@[simp] theorem move_shutdown (b : Link) : move shutdown b = shutdown := by cases b <;> rfl

end Link

end DeltaBridge
