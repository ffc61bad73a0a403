import DeltaBridge.Log

/-!
# Status messages

What the bridge tells its operator about the connection, and a log that remembers the latest messages.

* `Status`, `Status.asReport`;
* `StatusLog.remember`: the log holds at most `capacity` messages, `length_remember_le`.
-/

namespace DeltaBridge

/-- A message about the connection. -/
structure Status where
  message : Text
  isError : Bool
  deriving DecidableEq, Repr

/-- The report of a status message. -/
def Status.asReport (s : Status) : Report :=
  if s.isError then ⟨.error, .statusLog, "Error: " ++ s.message⟩ else ⟨.info, .statusLog, s.message⟩

/-- The latest status messages, oldest first. -/
structure StatusLog where
  capacity : Nat
  history : List Status
  deriving DecidableEq, Repr

namespace StatusLog

/-- The words for a capacity that makes no sense. -/
def negativeCapacityText : Text := "maxlen must be non-negative"

/-- A log without messages; its capacity cannot be negative. -/
def empty? (capacity : Int) : Option StatusLog := if capacity < 0 then none else some ⟨capacity.toNat, []⟩

/-- The log with one more message; the oldest one goes if there is no room. -/
def remember (l : StatusLog) (s : Status) : StatusLog :=
  let all := l.history ++ [s]
  { l with history := all.drop (all.length - l.capacity) }

theorem length_remember_le (l : StatusLog) (s : Status) : (l.remember s).history.length ≤ l.capacity := by
  simp only [remember, List.length_drop]
  omega

/-- The latest message. -/
def last? (l : StatusLog) : Option Status := l.history.getLast?

end StatusLog

end DeltaBridge
