import DeltaBridge.Bridge.Service
import DeltaBridge.Proofs.Broker.Trace

/-!
# Deliveries

How the delivery of a document ends, and what the bridge makes of it: a message is handled, or the
units are announced.

* `Session.Published`: how publishing a message ends, `Session.ends_publish`,
  `Session.ends_publish_of_connected`;
* `Sink.Sent`: how a document is sent, `Sink.ends_publishValues`, `Sink.ends_publishUnits`;
* `Bridge.Handled`: how a message is handled, **`Bridge.ends_handleMessage`**;
* `Bridge.Announced`: how units are announced, **`Bridge.ends_announce`**.
-/

namespace DeltaBridge

open Act

/-! ## Publishing -/

namespace Session

/-- The result of publishing, by the answer to the call. -/
def resultOf (topic : Text) : Outcome → Except Failure Unit
  | .returned code => if code ≠ 0 then .error (.broker (.refused topic code)) else .ok ()
  | .failed reason => .error (.call reason)
  | .interrupted => .error .interrupted

/-- How publishing a message ends, and what is done for it. -/
inductive Published (n : Network) (topic : Text) (payload : Value) (qos : Int) (retain : Bool) :
    Except Failure Unit → List Deed → Prop
  /-- Nothing is sent without a connection. -/
  | notConnected : Published n topic payload qos retain (.error (.broker .notConnected)) []
  /-- The payload cannot be sent. -/
  | unwritten {e : Failure} (h : packet topic payload = .error e) :
    Published n topic payload qos retain (.error e) []
  /-- One call is made, and its answer decides. -/
  | answered (past : List CallRecord) (c : Client) {p : Value} (h : packet topic payload = .ok p) :
    Published n topic payload qos retain
      (resultOf topic (n.answer past c (.publish topic p qos retain)))
      [.made ⟨c, .publish topic p qos retain, n.answer past c (.publish topic p qos retain)⟩]

variable (n : Network) (s : Session) (j : Journal)

/-- **With a connection one call is made for a payload that can be sent; its answer decides.** -/
theorem ends_publish_of_connected {c : Client} (hc : s.client = some c) (hs : s.isConnected = true)
    {topic : Text} {payload p : Value} (hp : packet topic payload = .ok p) (qos : Int)
    (retain : Bool) :
    Ends n s j (publish topic payload qos retain)
      (resultOf topic (n.answer j.calls c (.publish topic p qos retain))) s
      [.made ⟨c, .publish topic p qos retain,
        n.answer j.calls c (.publish topic p qos retain)⟩] := by
  unfold publish
  refine Ends.next rfl ?_
  simp only [hc, hs, hp]
  refine Ends.next rfl ?_
  have hd := Ends.perform (n := n) (s := s) (j := j) c (.publish topic p qos retain)
  cases ho : n.answer j.calls c (.publish topic p qos retain) with
  | returned code =>
    rw [ho] at hd
    refine Ends.bind (u := []) hd fun j _ => ?_
    by_cases hz : code = 0
    · rw [if_neg (by simpa using hz), resultOf, if_neg (by simpa using hz)]
      exact .ofLogged _
    · rw [if_pos hz, resultOf, if_pos hz]
      exact .fail _
  | failed reason => rw [ho] at hd; exact hd.bind_error
  | interrupted => rw [ho] at hd; exact hd.bind_error

theorem ends_publish (topic : Text) (payload : Value) (qos : Int) (retain : Bool) :
    ∃ r t, Ends n s j (publish topic payload qos retain) r s t ∧
      Published n topic payload qos retain r t := by
  cases hc : s.client with
  | none =>
    refine ⟨_, _, Ends.next rfl ?_, .notConnected⟩
    rw [hc]
    exact .fail _
  | some c =>
    by_cases hs : s.isConnected = true
    · cases hp : packet topic payload with
      | error e =>
        refine ⟨_, _, Ends.next rfl ?_, .unwritten hp⟩
        simp only [hc, hs, hp]
        exact Ends.bind_error (.fail e)
      | ok p => exact ⟨_, _, ends_publish_of_connected n s j hc hs hp qos retain, .answered _ c hp⟩
    · refine ⟨_, _, Ends.next rfl ?_, .notConnected⟩
      simp only [hc, hs]
      exact .fail _

end Session

/-! ## Sending documents -/

namespace Transport

variable {α : Type} {n : Network} {s s' : Session} {j j' : Journal} {x : Act Session α}
  {r : Except Failure α} {t : List Deed}

theorem run_use (h : x.run n s j = ⟨r, s', j', t⟩) :
    (use x).run n (some s) j = ⟨r, some s', j', t⟩ := by
  unfold Act.run at h ⊢
  simp only [use, h]

theorem ends_use (h : Ends n s j x r s' t) : Ends n (some s) j (use x) r (some s') t := by
  obtain ⟨j', hr, hj⟩ := h
  exact ⟨j', run_use hr, hj⟩

end Transport

namespace Sink

/-- How a document is sent to a sink, and what is done for it; the document may have the label of a
source. -/
inductive Sent (n : Network) (document : Option Text → Value) (retain : Bool) :
    Sink → Except Failure Unit → List Deed → Prop
  | reported {label : Option Text} {t : Text} (h : Json.write (document label) = .ok t) :
    Sent n document retain (.log label) (.ok ()) []
  | unwritten {label : Option Text} {e : Json.WriteError}
    (h : Json.write (document label) = .error e) :
    Sent n document retain (.log label) (.error (.unwritable e)) []
  | published {name : Text} {label : Option Text} {qos : Int} {r : Except Failure Unit}
    {t : List Deed} (h : Session.Published n name (document label) qos retain r t) :
    Sent n document retain (.topic name label qos) r t

variable (n : Network) (s : Transport) (j : Journal)

theorem ends_report {d : Option Text → Value} (retain : Bool) (title : Text) (label : Option Text) :
    ∃ r t, Ends n s j (report title (d label)) r s t ∧ Sent n d retain (.log label) r t := by
  unfold report
  cases h : Json.write (d label) with
  | ok t => exact ⟨_, _, .ofLogged _, .reported h⟩
  | error e => exact ⟨_, _, .fail _, .unwritten h⟩

theorem ends_use_publish {d : Option Text → Value} (name : Text) (label : Option Text) (qos : Int)
    (retain : Bool) :
    ∃ r t, Ends n s j (Transport.use (Session.publish name (d label) qos retain)) r s t ∧
      Sent n d retain (.topic name label qos) r t := by
  cases s with
  | none => exact ⟨_, _, ⟨j, rfl, .refl j⟩, .published .notConnected⟩
  | some s =>
    obtain ⟨r, t, he, hp⟩ := Session.ends_publish n s j name (d label) qos retain
    exact ⟨r, t, Transport.ends_use he, .published hp⟩

theorem ends_publishValues (k : Sink) (rs : List Record) :
    ∃ r t, Ends n s j (k.publishValues rs) r s [.during (.readings rs) t (failure? r)] ∧
      Sent n (fun label => valuesDelta label rs) false k r t := by
  cases k with
  | log label =>
    obtain ⟨r, t, he, hs⟩ :=
      ends_report n s j (d := fun label => valuesDelta label rs) false "delta" label
    exact ⟨r, t, he.during _, hs⟩
  | topic name label qos =>
    obtain ⟨r, t, he, hs⟩ :=
      ends_use_publish n s j (d := fun label => valuesDelta label rs) name label qos false
    exact ⟨r, t, he.during _, hs⟩

theorem ends_publishUnits (k : Sink) (ns : List UnitNotice) :
    ∃ r t, Ends n s j (k.publishUnits ns) r s [.during (.units ns) t (failure? r)] ∧
      Sent n (fun _ => unitsDelta ns) true k r t := by
  cases k with
  | log label =>
    obtain ⟨r, t, he, hs⟩ := ends_report n s j (d := fun _ => unitsDelta ns) true "meta" label
    exact ⟨r, t, he.during _, hs⟩
  | topic name label qos =>
    obtain ⟨r, t, he, hs⟩ :=
      ends_use_publish n s j (d := fun _ => unitsDelta ns) name label qos true
    exact ⟨r, t, he.during _, hs⟩

end Sink

/-! ## Handling messages -/

theorem Interpreter.interpret_of_unbound {i : Interpreter} {topic : Text}
    (h : i.registry.bindingsFor topic = []) (payload : Value) :
    (i.interpret topic payload).value = .ok [] := by
  unfold interpret
  rw [h]
  rfl

namespace Bridge

variable (n : Network) (b : Bridge) (j : Journal)

/-- A failure of the broker is contained, any other goes on. -/
def contained : Except Failure Unit → Except Failure Unit
  | .error (.broker _) => .ok ()
  | r => r

theorem eq_ok_of_failure? {r : Except Failure Unit} (h : failure? r = none) : r = .ok () := by
  rcases r with f | ⟨⟩
  · cases h
  · rfl

theorem eq_of_contained {r : Except Failure Unit} (h : failure? (contained r) = none) :
    r = .ok () ∨ ∃ e, r = .error (.broker e) := by
  rcases r with f | ⟨⟩
  · cases f with
    | broker e => exact .inr ⟨e, rfl⟩
    | call _ | interrupted | noClient | unwritable _ | unshowable _ => cases h
  · exact .inl rfl

theorem eq_call_of_contained {r : Except Failure Unit} {reason : Text}
    (h : failure? (contained r) = some (.call reason)) : r = .error (.call reason) := by
  rcases r with f | ⟨⟩
  · cases f with
    | call _ => rw [show _ = reason from Failure.call.inj (Option.some.inj h)]
    | broker _ | interrupted | noClient | unwritable _ | unshowable _ => cases h
  · cases h

/-- The status message on readings that the broker did not take. -/
def deliveryStatus (e : BrokerError) : Status := ⟨"Delivery error: " ++ e.message, true⟩

/-- What the operator is told about a delivery. -/
def noticesOf : Except Failure Unit → List Deed
  | .error (.broker e) => [.told (deliveryStatus e)]
  | _ => []

/-- How a message is handled by the interpreter and the sink of a bridge, and what is done for
it. -/
inductive Handled (n : Network) (i : Interpreter) (k : Sink) (topic : Text) (payload : Value) :
    Except Failure (List Record) → List Deed → Prop
  | unshowable {e : ShowError} (h : (i.interpret topic payload).value = .error e) :
    Handled n i k topic payload (.error (.unshowable e)) []
  /-- Nobody asks for the records of the message. -/
  | unbound {rs : List Record} (h : (i.interpret topic payload).value = .ok rs)
    (hb : i.registry.bindingsFor topic = []) : Handled n i k topic payload (.ok rs) []
  /-- The records are sent, once, and the operator is told if the broker does not take them. -/
  | offered {rs : List Record} {r : Except Failure Unit} {t : List Deed}
    (h : (i.interpret topic payload).value = .ok rs) (hb : i.registry.bindingsFor topic ≠ [])
    (hs : Sink.Sent n (fun label => valuesDelta label rs) false k r t) :
    Handled n i k topic payload ((contained r).map fun _ => rs)
      (.during (.readings rs) t (failure? r) :: noticesOf r)

theorem ends_onTransport {α : Type} {b : Bridge} {j : Journal} {x : Act Transport α}
    {r : Except Failure α} {s : Transport} {t : List Deed} (h : Ends n b.transport j x r s t) :
    Ends n b j (onTransport x) r { b with transport := s } t := h.within

theorem ends_deliver (topic : Text) (rs : List Record) :
    ∃ r t, Ends n b j (deliver topic rs) (contained r) b
      (.during (.readings rs) t (failure? r) :: noticesOf r) ∧
      Sink.Sent n (fun label => valuesDelta label rs) false b.sink r t := by
  obtain ⟨r, t, he, hs⟩ := Sink.ends_publishValues n b.transport j b.sink rs
  refine ⟨r, t, Ends.next rfl (Ends.bind (ends_onTransport n he).attempt fun j _ => ?_), hs⟩
  rcases r with f | ⟨⟩
  · cases f with
    | broker e =>
      exact Ends.after (.ofLogged _) fun j _ => Ends.bind (u := []) (.tell _ _) fun j _ => .pure ()
    | call _ | interrupted | noClient | unwritable _ | unshowable _ => exact .fail _
  · exact .pure ()

/-- **Each message is handled in one of three ways, and leaves the bridge as it is.** -/
theorem ends_handleMessage (topic : Text) (payload : Value) :
    ∃ r t, Ends n b j (handleMessage topic payload) r b
      [.during (.message topic payload) t (failure? r)] ∧
      Handled n b.interpreter b.sink topic payload r t := by
  unfold handleMessage
  cases h : (b.interpreter.interpret topic payload).value with
  | error e =>
    refine ⟨_, _, Ends.during ?_ _, .unshowable h⟩
    refine Ends.next rfl (Ends.logged ?_)
    rw [h]
    exact .fail _
  | ok rs =>
    by_cases hb : b.interpreter.registry.bindingsFor topic = []
    · refine ⟨_, _, Ends.during ?_ _, .unbound h hb⟩
      refine Ends.next rfl (Ends.logged ?_)
      rw [h]
      simp only [registry, hb]
      exact .pure rs
    · obtain ⟨r, t, he, hs⟩ :=
        ends_deliver n b (j.report (b.interpreter.interpret topic payload).reports) topic rs
      refine ⟨_, _, Ends.during ?_ _, .offered h hb hs⟩
      refine Ends.next rfl (Ends.logged ?_)
      have hb' : (b.registry.bindingsFor topic).isEmpty = false := by simpa [registry] using hb
      rw [h]
      simp only [hb']
      rcases hr : contained r with f | ⟨⟩
      · rw [hr] at he
        exact he.bind_error
      · rw [hr] at he
        rw [← List.append_nil (_ :: _)]
        exact Ends.bind he fun j _ => .pure rs

/-! ## Announcing units -/

/-- Whether the units are still to be announced after an attempt: a failure that is not one of the
broker leaves this as it was. -/
def pendingAfter (before : Bool) : Except Failure Unit → Bool
  | .ok _ => false
  | .error (.broker _) => true
  | .error _ => before

/-- How units are announced through a sink, and what is done for it. -/
inductive Announced (n : Network) (registry : Registry) (k : Sink) :
    Except Failure Unit → List Deed → Prop
  | nothing (h : registry.unitNotices = []) : Announced n registry k (.ok ()) []
  | offered {r : Except Failure Unit} {t : List Deed} (h : registry.unitNotices ≠ [])
    (hs : Sink.Sent n (fun _ => unitsDelta registry.unitNotices) true k r t) :
    Announced n registry k r [.during (.units registry.unitNotices) t (failure? r)]

/-- The report on an announcement of units. -/
def unitsReport (ns : List UnitNotice) : Report :=
  ⟨.debug, .units, "Publishing meta data types " ++ shownList (ns.map UnitNotice.shown)⟩

theorem ends_announceUnits_of_sent {g : Registry} {k : Sink} {s : Transport}
    {r : Except Failure Unit} {t : List Deed} (hne : g.unitNotices ≠ [])
    (h : Ends n s (j.report [unitsReport g.unitNotices]) (k.publishUnits g.unitNotices) r s t) :
    Ends n s j (announceUnits g k) (r.map fun _ => g.unitNotices.length) s t := by
  unfold announceUnits
  cases hu : g.unitNotices with
  | nil => exact absurd hu hne
  | cons u us =>
    rw [hu] at h
    refine Ends.logged ?_
    rcases r with f | ⟨⟩
    · exact h.bind_error
    · rw [← List.append_nil t]
      exact Ends.bind h fun j _ => .pure _

theorem ends_announceUnits (g : Registry) (k : Sink) (s : Transport) :
    ∃ r t, Ends n s j (announceUnits g k) (r.map fun _ => g.unitNotices.length) s t ∧
      Announced n g k r t := by
  by_cases hne : g.unitNotices = []
  · refine ⟨.ok (), [], ?_, .nothing hne⟩
    unfold announceUnits
    rw [hne]
    exact Ends.logged (.pure 0)
  · obtain ⟨r, t, he, hs⟩ := Sink.ends_publishUnits n s (j.report [unitsReport g.unitNotices]) k
      g.unitNotices
    exact ⟨r, _, ends_announceUnits_of_sent n j hne he, .offered hne hs⟩

/-- The report with which an announcement begins. -/
def announcementReport : Report :=
  ⟨.debug, .bridge, "Updating server with SignalK metadata units"⟩

theorem ends_announce_of_units {r : Except Failure Unit} {t : List Deed}
    (h : Ends n b.transport (j.report [announcementReport]) (announceUnits b.registry b.sink)
      (r.map fun _ => b.registry.unitNotices.length) b.transport t) :
    Ends n b j announce (contained r)
      { b with unitsPending := pendingAfter b.unitsPending r } t := by
  refine Ends.logged (Ends.next rfl ?_)
  rw [← List.append_nil t]
  refine Ends.bind (ends_onTransport n h).attempt fun j _ => ?_
  rcases r with f | ⟨⟩
  · cases f with
    | broker e => exact Ends.next rfl (.ofLogged _)
    | call _ | interrupted | noClient | unwritable _ | unshowable _ => exact .fail _
  · exact .change _

/-- **A failure of the broker leaves the units pending; they are sent once, if there are any.** -/
theorem ends_announce :
    ∃ r t, Ends n b j announce (contained r)
      { b with unitsPending := pendingAfter b.unitsPending r } t ∧
      Announced n b.registry b.sink r t := by
  obtain ⟨r, t, he, ha⟩ := ends_announceUnits n (j.report [announcementReport]) b.registry b.sink
    b.transport
  exact ⟨r, t, ends_announce_of_units n b j he, ha⟩

end Bridge

end DeltaBridge
