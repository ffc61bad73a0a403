import DeltaBridge.Broker.Session
import DeltaBridge.Delta.Document

/-!
# Where delta documents go

Documents are either reported, or published on a topic of the broker.

* `Sink`, `Sink.publishValues`, `Sink.publishUnits`;
* `announceUnits`: the units of a registry, published if there are any.
-/

namespace DeltaBridge

/-- Where delta documents go, with the label of the source that they name. -/
inductive Sink where
  | log (label : Option Text)
  | topic (name : Text) (label : Option Text) (qos : Int)
  deriving DecidableEq, Repr

/-- The session that there may be. -/
abbrev Transport := Option Session

namespace Transport

open Act

/-- An action on the session; without one it fails for want of a connection. -/
def use {α : Type} (x : Act Session α) : Act Transport α := fun n t j =>
  match t with
  | none => ⟨.error (.broker .notConnected), none, j, []⟩
  | some s =>
    match x n s j with
    | ⟨r, s, j, t⟩ => ⟨r, some s, j, t⟩

/-- There is a session, and it has a connection. -/
def isConnected : Transport → Bool
  | none => false
  | some s => s.isConnected

end Transport

namespace Sink

open Act

/-- Reports a document under a title. -/
def report (title : Text) (document : Value) : Act Transport Unit :=
  match Json.write document with
  | .ok t => ofLogged (.emit .info .valueLog (title ++ " " ++ t))
  | .error e => fail (.unwritable e)

/-- Sends a batch of readings. -/
def publishValues (k : Sink) (rs : List Record) : Act Transport Unit := during (.readings rs) <|
  match k with
  | log label => report "delta" (valuesDelta label rs)
  | topic name label qos => Transport.use (Session.publish name (valuesDelta label rs) qos false)

/-- Sends a batch of units. The broker keeps them for those who subscribe later. -/
def publishUnits (k : Sink) (ns : List UnitNotice) : Act Transport Unit := during (.units ns) <|
  match k with
  | log _ => report "meta" (unitsDelta ns)
  | topic name _ qos => Transport.use (Session.publish name (unitsDelta ns) qos true)

end Sink

open Act in
/-- Sends the units of a registry, if there are any; their number. -/
def announceUnits (r : Registry) (k : Sink) : Act Transport Nat := do
  match r.unitNotices with
  | [] =>
    ofLogged (.emit .debug .units "No metadata was created for the configured sensors. Nothing updated")
    return 0
  | ns =>
    ofLogged (.emit .debug .units ("Publishing meta data types " ++ shownList (ns.map UnitNotice.shown)))
    k.publishUnits ns
    return ns.length

end DeltaBridge
