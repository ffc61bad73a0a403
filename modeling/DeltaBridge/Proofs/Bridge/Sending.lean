import DeltaBridge.Proofs.Bridge.Delivery
import DeltaBridge.Proofs.Delta.Document

/-!
# How sending fails

Plain readings and units are sent with failures of the broker, which are contained, and failures of
calls, which are not. Readings that are nested too deep fail otherwise, and so do flawed readings
with a sink that only reports.

* `Session.packet_object`: documents on their way to the broker;
* `Sink.ReadingsSent`, **`Sink.Sent.readings`**: how readings are sent to a topic;
* `Sink.Sent.failure_units`: units fail with their call;
* **`Sink.Sent.result_log`**: reporting fails with readings that cannot be written.
-/

namespace DeltaBridge

namespace Session

theorem packet_object_of_ok {topic : Text} {ms : List (Text × Value)} {t : Text}
    (h : Json.write (.object ms) = .ok t) : packet topic (.object ms) = .ok (.text t) := by
  rw [packet, h]

theorem packet_object_of_error {topic : Text} {ms : List (Text × Value)} {e : Json.WriteError}
    (h : Json.write (.object ms) = .error e) :
    packet topic (.object ms) = .error (unwritten topic e) := by
  rw [packet, h]

theorem failure_resultOf (topic : Text) (o : Outcome) :
    failure? (Bridge.contained (resultOf topic o)) = o.failure? := by
  cases o with
  | returned code =>
    by_cases h : code = 0
    · rw [resultOf, if_neg (by simpa using h)]
      rfl
    · rw [resultOf, if_pos h]
      rfl
  | failed reason => rfl
  | interrupted => rfl

end Session

namespace Sink

/-! ## Readings -/

/-- How plain readings are sent to a topic, and what is done for it. -/
inductive ReadingsSent (name : Text) (rs : List Record) : Except Failure Unit → List Deed → Prop
  /-- Nothing is sent without a connection. -/
  | notConnected : ReadingsSent name rs (.error (.broker .notConnected)) []
  | flawed (h : writeError? rs = some .nonFinite) :
    ReadingsSent name rs (.error (.broker (.unwritable name .nonFinite))) []
  | tooDeep (h : writeError? rs = some .tooDeep) :
    ReadingsSent name rs (.error (.unwritable .tooDeep)) []
  /-- A call is made, and its outcome decides. -/
  | called {t : List Deed} (o : Outcome) (h : writeError? rs = none)
    (hf : failureIn t = o.failure?) : ReadingsSent name rs (Session.resultOf name o) t

variable {n : Network} {k : Sink} {r : Except Failure Unit} {t : List Deed}

/-- **With a connection** plain readings are published, unless they are flawed or nested too
deep. -/
theorem Sent.readings {rs : List Record} {name : Text} {label : Option Text} {qos : Int}
    (h : Sent n (fun label => valuesDelta label rs) false (.topic name label qos) r t)
    (hrs : ∀ r ∈ rs, r.Plain) : ReadingsSent name rs r t := by
  obtain ⟨u, hu⟩ := write_valuesDelta label rs
  cases h with
  | published h =>
    cases hw : writeError? rs with
    | none =>
      rw [hw] at hu
      have hp : Session.packet name (valuesDelta label rs) = .ok (.text u) :=
        Session.packet_object_of_ok hu
      cases h with
      | notConnected => exact .notConnected
      | unwritten h =>
        rw [hp] at h
        cases h
      | answered past c h => exact .called _ hw (by rw [failureIn_made]; rfl)
    | some e =>
      rw [hw] at hu
      have hp : Session.packet name (valuesDelta label rs) = .error (Session.unwritten name e) :=
        Session.packet_object_of_error hu
      cases h with
      | notConnected => exact .notConnected
      | unwritten h =>
        cases hp.symm.trans h
        rcases eq_of_writeError? hrs hw with ⟨rfl, -⟩ | ⟨rfl, -⟩
        · exact .flawed hw
        · exact .tooDeep hw
      | answered past c h =>
        rw [hp] at h
        cases h

/-- **Reporting readings fails** if they cannot be written. -/
theorem Sent.result_log {rs : List Record} {label : Option Text}
    (h : Sent n (fun label => valuesDelta label rs) false (.log label) r t) :
    t = [] ∧ failure? r = (writeError? rs).map .unwritable := by
  obtain ⟨u, hu⟩ := write_valuesDelta label rs
  cases h with
  | reported h =>
    cases hw : writeError? rs with
    | none => exact ⟨rfl, rfl⟩
    | some e =>
      rw [h, hw] at hu
      cases hu
  | unwritten h =>
    cases hw : writeError? rs with
    | none =>
      rw [h, hw] at hu
      cases hu
    | some e =>
      rw [h, hw] at hu
      cases hu
      exact ⟨rfl, rfl⟩

/-! ## Units -/

/-- Units fail with their call, or with a failure that is contained. -/
theorem Sent.failure_units {ns : List UnitNotice} {name : Text} {label : Option Text} {qos : Int}
    (h : Sent n (fun _ => unitsDelta ns) true (.topic name label qos) r t) :
    failure? (Bridge.contained r) = failureIn t := by
  obtain ⟨u, hu⟩ := write_unitsDelta ns
  have hp : Session.packet name (unitsDelta ns) = .ok (.text u) := Session.packet_object_of_ok hu
  cases h with
  | published h =>
    cases h with
    | notConnected => rfl
    | unwritten h =>
      rw [hp] at h
      cases h
    | answered past c h =>
      rw [Session.failure_resultOf, failureIn_made]
      rfl

end Sink

end DeltaBridge
