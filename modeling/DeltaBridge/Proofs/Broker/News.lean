import DeltaBridge.Broker.Link
import DeltaBridge.Proofs.Broker.Trace

/-!
# News of a connection

Some callbacks tell whether there is a connection. What a session makes of them depends on its link
alone.

* `Callback.news?`: what a callback says of the connection; `newsIn`: the latest news in a trace,
  `newsIn_append`;
* `Link.hear`: the link after a callback;
* **`Link.hear_eq_connected_iff`**: a link believes the news unless it is shut down, and
  `Link.hear_eq_shutdown_iff`: it stays shut down.
-/

namespace DeltaBridge

/-- What a callback says of the connection: there is one, or there is none. Most say nothing. -/
def Callback.news? : Callback → Option Bool
  | .connected r => some !r.isFailure
  | .connectFailed => some false
  | .disconnected _ => some false
  | _ => none

/-- The news that a client tells. -/
def Deed.news? : Deed → Option Bool
  | .during (.callback c) _ _ => c.news?
  | _ => none

/-- The latest news of the connection in a trace. -/
def newsIn : List Deed → Option Bool
  | [] => none
  | d :: t => (newsIn t).or d.news?

theorem newsIn_append (t u : List Deed) : newsIn (t ++ u) = (newsIn u).or (newsIn t) := by
  induction t with
  | nil => rw [List.nil_append, newsIn, Option.or_none]
  | cons d t ih => rw [List.cons_append, newsIn, newsIn, ih, Option.or_assoc]

theorem newsIn_callback (c : Callback) (t : List Deed) (f : Option Failure) :
    newsIn [.during (.callback c) t f] = c.news? := by
  rw [newsIn, newsIn, Option.none_or, Deed.news?]

namespace Link

variable {l : Link} {c : Callback}

/-- The link after a callback. -/
def hear (l : Link) : Callback → Link
  | .connected r => l.move (if r.isFailure then .error else .connected)
  | .connectFailed => l.move .reconnecting
  | .disconnected r => l.move (if r.isFailure then .reconnecting else .disconnected)
  | _ => l

theorem move_eq_shutdown_iff {m : Link} : l.move m = .shutdown ↔ l = .shutdown ∨ m = .shutdown := by
  cases l <;> cases m <;> decide

theorem move_connecting_eq_connected_iff : l.move .connecting = .connected ↔ l = .connected := by
  cases l <;> decide

theorem move_error_ne_connected : l.move .error ≠ .connected := by cases l <;> decide

/-- A link believes what it hears of the connection, unless it is shut down. -/
theorem hear_eq_connected_iff :
    l.hear c = .connected ↔ l ≠ .shutdown ∧ c.news?.getD (decide (l = .connected)) = true := by
  cases c with
  | connected r => cases hr : r.isFailure <;> cases l <;> simp [hear, hr, Callback.news?] <;> decide
  | connectFailed => cases l <;> simp [hear, Callback.news?] <;> decide
  | disconnected r =>
    cases hr : r.isFailure <;> cases l <;> simp [hear, hr, Callback.news?] <;> decide
  | message _ _ | subscribed _ | noted _ _ => cases l <;> simp [hear, Callback.news?]

/-- No callback shuts a link down, and none ends that. -/
theorem hear_eq_shutdown_iff : l.hear c = .shutdown ↔ l = .shutdown := by
  cases c with
  | connected r => cases hr : r.isFailure <;> simp [hear, hr, move_eq_shutdown_iff]
  | connectFailed => simp [hear, move_eq_shutdown_iff]
  | disconnected r => cases hr : r.isFailure <;> simp [hear, hr, move_eq_shutdown_iff]
  | message _ _ | subscribed _ | noted _ _ => rfl

end Link

end DeltaBridge
