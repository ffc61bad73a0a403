import DeltaBridge.Broker.Network
import DeltaBridge.Delta.Document
import DeltaBridge.Delta.Status

/-!
# Actions

What the bridge does is an `Act`: it reads and changes a state, makes calls of the network library,
reports, tells the operator, and ends with a result or a failure. State, journal and trace are there
after a failure too.

* `Failure`, `Failure.message`: why an action has no result;
* `Journal`: all that has been done so far;
* `Deed`: one thing that an action did; what is done on an `Occasion` is one deed with its parts;
* `Act`, `Act.attempt`, `Act.perform`, `Act.tell`: actions, and the elementary ones.
-/

namespace DeltaBridge

/-! ## Failures -/

/-- Why the connection to the broker does not do what is asked. -/
inductive BrokerError where
  | startFailed (reason : Text)
  | notConnected
  /-- The payload for a topic has no JSON text. -/
  | unwritable (topic : Text) (e : Json.WriteError)
  | refused (topic : Text) (code : Int)
  deriving DecidableEq, Repr

/-- The reason in words. -/
def BrokerError.message : BrokerError → Text
  | startFailed reason => "MQTT connection failed: " ++ reason
  | notConnected => "MQTT client is not connected"
  | unwritable topic e => "Payload for topic '" ++ topic ++ "' is not valid JSON: " ++ e.message
  | refused topic code => "Failed to publish message to topic '" ++ topic ++ "': " ++ intText code

/-- Why an action has no result. -/
inductive Failure where
  | broker (e : BrokerError)
  /-- A call of the network library failed. -/
  | call (reason : Text)
  | interrupted
  /-- A call was to be made on a client that does not exist. -/
  | noClient
  /-- A value has no JSON text. -/
  | unwritable (e : Json.WriteError)
  /-- A value cannot be shown in a message. -/
  | unshowable (e : ShowError)
  deriving DecidableEq, Repr

namespace Failure

/-- The failure in words. -/
def message : Failure → Text
  | broker e => e.message
  | call reason => reason
  | interrupted => []
  | noClient => "'NoneType' object has no attribute 'subscribe'"
  | unwritable e => e.message
  | unshowable e => e.message

end Failure

/-! ## Journals -/

/-- All that has been done: the reports, the status messages told, and the calls made. -/
structure Journal where
  reports : List Report
  statuses : List Status
  calls : List CallRecord

namespace Journal

/-- Nothing has been done. -/
def empty : Journal := ⟨[], [], []⟩

/-- The journal with some more reports. -/
def report (j : Journal) (rs : List Report) : Journal := { j with reports := j.reports ++ rs }

/-- The journal with one more call. -/
def record (j : Journal) (r : CallRecord) : Journal := { j with calls := j.calls ++ [r] }

end Journal

/-- What a listener does with a status message. If it fails it has a reason in words, so a failure
that cannot be put into words is not expressed. -/
structure Heard where
  reports : List Report
  /-- The reason why it failed, if it did. -/
  failure : Option Text

/-- Someone who is told the status, given all that was told before. -/
abbrev Listener := (past : List Status) → Status → Heard

/-- The listener that reports each message. -/
def Listener.reporting : Listener := fun _ s => ⟨[s.asReport], none⟩

/-! ## Deeds -/

/-- What something is done for. -/
inductive Occasion where
  /-- A client tells something about its connection. -/
  | callback (c : Callback)
  /-- The session is to end. -/
  | ending
  /-- A message is to be handled. -/
  | message (topic : Text) (payload : Value)
  /-- A batch of readings is to be sent. -/
  | readings (rs : List Record)
  /-- A batch of units is to be sent. -/
  | units (ns : List UnitNotice)

/-- One thing that an action did. -/
inductive Deed where
  | made (r : CallRecord)
  | told (s : Status)
  /-- The topics to ask for were replaced. -/
  | wanted (topics : TopicSet)
  /-- All that was done on an occasion, and why it failed, if it did. -/
  | during (o : Occasion) (parts : List Deed) (failure : Option Failure)

/-! ## Actions -/

/-- The end of an action, and what was done, in its order. -/
structure Ended (σ α : Type) where
  result : Except Failure α
  state : σ
  journal : Journal
  trace : List Deed

/-- The end, with some deeds before. -/
def Ended.after {σ α : Type} (t : List Deed) (e : Ended σ α) : Ended σ α := { e with trace := t ++ e.trace }

section After

variable {σ α : Type} (t : List Deed) (e : Ended σ α)

@[simp] theorem Ended.result_after : (e.after t).result = e.result := rfl

@[simp] theorem Ended.state_after : (e.after t).state = e.state := rfl

@[simp] theorem Ended.journal_after : (e.after t).journal = e.journal := rfl

@[simp] theorem Ended.trace_after : (e.after t).trace = t ++ e.trace := rfl

end After

/-- The reason why there is no result. -/
def failure? {α : Type} : Except Failure α → Option Failure
  | .ok _ => none
  | .error e => some e

/-- Something that is done with a state, on a network. -/
def Act (σ α : Type) : Type := Network → σ → Journal → Ended σ α

namespace Act

variable {σ τ α β : Type}

/-- Does the action. -/
def run (a : Act σ α) (n : Network) (s : σ) (j : Journal) : Ended σ α := a n s j

instance : Monad (Act σ) where
  pure a := fun _ s j => ⟨.ok a, s, j, []⟩
  bind x f := fun n s j =>
    match x n s j with
    | ⟨.ok a, s, j, t⟩ => (f a n s j).after t
    | ⟨.error e, s, j, t⟩ => ⟨.error e, s, j, t⟩

instance : LawfulMonad (Act σ) :=
  LawfulMonad.mk' (Act σ)
    (fun x => by
      funext n s j
      show (match x n s j with | ⟨.ok a, s, j, t⟩ => _ | ⟨.error e, s, j, t⟩ => _) = x n s j
      rcases x n s j with ⟨_ | _, _, _, _⟩
      · rfl
      · exact congrArg (Ended.mk _ _ _) (List.append_nil _))
    (fun _ _ => rfl)
    (fun x f g => by
      funext n s j
      simp only [bind]
      rcases x n s j with ⟨_ | a, s, j, t⟩
      · rfl
      · simp only [Ended.after]
        rcases f a n s j with ⟨_ | _, _, _, _⟩
        · rfl
        · simp only [List.append_assoc])

/-- Ends with a failure. -/
def fail (e : Failure) : Act σ α := fun _ s j => ⟨.error e, s, j, []⟩

/-- The state. -/
def state : Act σ σ := fun _ s j => ⟨.ok s, s, j, []⟩

/-- Changes the state. -/
def change (f : σ → σ) : Act σ Unit := fun _ s j => ⟨.ok (), f s, j, []⟩

/-- Leaves a deed in the trace. -/
def mark (d : Deed) : Act σ Unit := fun _ s j => ⟨.ok (), s, j, [d]⟩

/-- The outcome of an action, be it a result or a failure. -/
def attempt (x : Act σ α) : Act σ (Except Failure α) := fun n s j =>
  match x n s j with
  | ⟨r, s, j, t⟩ => ⟨.ok r, s, j, t⟩

/-- Does an action on an occasion, as one deed. -/
def during (o : Occasion) (x : Act σ α) : Act σ α := fun n s j =>
  match x n s j with
  | ⟨r, s, j, t⟩ => ⟨r, s, j, [.during o t (failure? r)]⟩

/-- The result, or the failure, of a computation without effects. -/
def ofExcept : Except Failure α → Act σ α
  | .ok a => pure a
  | .error e => fail e

/-- A computation that reports. -/
def ofLogged (x : Logged α) : Act σ α := fun _ s j => ⟨.ok x.value, s, j.report x.reports, []⟩

instance : MonadLift Logged (Act σ) := ⟨ofLogged⟩

/-- What the network library does when a client starts its loop. -/
def atStart : Act σ (List Callback) := fun n s j => ⟨.ok (n.atStart j.calls), s, j, []⟩

/-- What the network library tells while a new connection is awaited. -/
def waiting : Act σ (List (List Callback)) := fun n s j => ⟨.ok (n.waiting j.calls), s, j, []⟩

/-- The end of a call with the given outcome. -/
def endOfCall : Outcome → Except Failure Int
  | .returned code => .ok code
  | .failed reason => .error (.call reason)
  | .interrupted => .error .interrupted

/-- Makes a call on a client; its result code. -/
def perform (c : Client) (x : Call) : Act σ Int := fun n s j =>
  let o := n.answer j.calls c x
  ⟨endOfCall o, s, j.record ⟨c, x, o⟩, [.made ⟨c, x, o⟩]⟩

/-- Creates a client. -/
def create (id : Text) : Act σ Client := fun n s j =>
  let c := j.calls.length
  let o := n.answer j.calls c (.create id)
  ⟨(endOfCall o).map fun _ => c, s, j.record ⟨c, .create id, o⟩, [.made ⟨c, .create id, o⟩]⟩

/-- Tells a listener the status; the reason why the listener failed, if it did. -/
def tell (l : Listener) (status : Status) : Act σ (Option Text) := fun _ s j =>
  let h := l j.statuses status
  ⟨.ok h.failure, s, { j with reports := j.reports ++ h.reports, statuses := j.statuses ++ [status] },
    [.told status]⟩

/-- Does an action for each of some things, one after the other. -/
def each (f : α → Act σ Unit) : List α → Act σ Unit
  | [] => pure ()
  | x :: xs => do f x; each f xs

/-- An action on a part of the state. -/
def within (part : τ → σ) (put : σ → τ → τ) (x : Act σ α) : Act τ α := fun n s j =>
  match x n (part s) j with
  | ⟨r, p, j, t⟩ => ⟨r, put p s, j, t⟩

/-! ## What the elementary actions do -/

variable (n : Network) (s : σ) (j : Journal)

@[simp] theorem run_pure (a : α) : (pure a : Act σ α).run n s j = ⟨.ok a, s, j, []⟩ := rfl

@[simp] theorem run_fail (e : Failure) : (fail e : Act σ α).run n s j = ⟨.error e, s, j, []⟩ := rfl

@[simp] theorem run_state : (state : Act σ σ).run n s j = ⟨.ok s, s, j, []⟩ := rfl

@[simp] theorem run_change (f : σ → σ) : (change f).run n s j = ⟨.ok (), f s, j, []⟩ := rfl

@[simp] theorem run_mark (d : Deed) : (mark d : Act σ Unit).run n s j = ⟨.ok (), s, j, [d]⟩ := rfl

@[simp] theorem run_ofLogged (x : Logged α) :
    (ofLogged x : Act σ α).run n s j = ⟨.ok x.value, s, j.report x.reports, []⟩ := rfl

@[simp] theorem run_tell (l : Listener) (status : Status) :
    (tell l status : Act σ (Option Text)).run n s j =
      ⟨.ok (l j.statuses status).failure, s,
        { j with
          reports := j.reports ++ (l j.statuses status).reports
          statuses := j.statuses ++ [status] },
        [.told status]⟩ := rfl

theorem run_bind (x : Act σ α) (f : α → Act σ β) :
    (x >>= f).run n s j =
      match x.run n s j with
      | ⟨.ok a, s, j, t⟩ => ((f a).run n s j).after t
      | ⟨.error e, s, j, t⟩ => ⟨.error e, s, j, t⟩ := rfl

theorem run_bind_of_ok {x : Act σ α} {f : α → Act σ β} {a : α} {s' : σ} {j' : Journal} {t : List Deed}
    (h : x.run n s j = ⟨.ok a, s', j', t⟩) : (x >>= f).run n s j = ((f a).run n s' j').after t := by
  rw [run_bind, h]

theorem run_bind_of_error {x : Act σ α} {f : α → Act σ β} {e : Failure} {s' : σ} {j' : Journal}
    {t : List Deed} (h : x.run n s j = ⟨.error e, s', j', t⟩) :
    (x >>= f).run n s j = ⟨.error e, s', j', t⟩ := by
  rw [run_bind, h]

theorem run_attempt (x : Act σ α) :
    (attempt x).run n s j =
      ⟨.ok (x.run n s j).result, (x.run n s j).state, (x.run n s j).journal, (x.run n s j).trace⟩ := rfl

theorem run_during (o : Occasion) (x : Act σ α) :
    (during o x).run n s j =
      ⟨(x.run n s j).result, (x.run n s j).state, (x.run n s j).journal,
        [.during o (x.run n s j).trace (failure? (x.run n s j).result)]⟩ := rfl

theorem run_within (part : τ → σ) (put : σ → τ → τ) (x : Act σ α) (b : τ) :
    (within part put x).run n b j =
      ⟨(x.run n (part b) j).result, put (x.run n (part b) j).state b, (x.run n (part b) j).journal,
        (x.run n (part b) j).trace⟩ := rfl

theorem run_perform (c : Client) (x : Call) :
    (perform c x : Act σ Int).run n s j =
      ⟨endOfCall (n.answer j.calls c x), s, j.record ⟨c, x, n.answer j.calls c x⟩,
        [.made ⟨c, x, n.answer j.calls c x⟩]⟩ := rfl

end Act

end DeltaBridge
