import DeltaBridge.Proofs.Bridge.Documents
import DeltaBridge.Proofs.Broker.Phantom
import DeltaBridge.Proofs.Value.Scalars

/-!
# Publications

A publication makes one call at most, only on a connection, and succeeds exactly if the call is
accepted. Whatever becomes of it, the session stays as it is.

* `write_of_packet`, `packet_ne_ok_of_nonFinite`: what cannot be sent;
* `Session.Gated`: how a publication goes, **`gated_publish`**: every publication goes so;
* `link_live_stop`: a session that has a client when it is stopped stays shut down;
* **`lived_publish`**: publications in a life; `publishes_after_idle_stop`: a stop without a client
  is none.
-/

namespace DeltaBridge

namespace Session

open Act

/-! ## Payloads -/

/-- A list or an object is sent as its text. -/
theorem write_of_packet {topic : Text} {payload p : Value} (hc : payload.isContainer = true)
    (h : packet topic payload = .ok p) : ∃ t, Json.write payload = .ok t ∧ p = .text t := by
  cases payload with
  | list _ | object _ =>
    simp only [packet] at h
    split at h
    · rename_i t ht
      cases h
      exact ⟨t, ht, rfl⟩
    · cases h
  | null | bool _ | int _ | float _ | text _ | bytes _ => cases hc

/-- If a double in it is not finite, it cannot be sent. -/
theorem packet_ne_ok_of_nonFinite {topic : Text} {payload p : Value}
    (hc : payload.isContainer = true) (hf : payload.hasNonFinite = true) :
    packet topic payload ≠ .ok p := by
  intro h
  obtain ⟨t, ht, _⟩ := write_of_packet hc h
  have hfinite : payload.hasNonFinite = false := Json.finite_of_write ht
  rw [hf] at hfinite
  cases hfinite

/-! ## Single publications -/

section Publishing

variable (n : Network) (s : Session) (j : Journal) (topic : Text) (payload : Value) (qos : Int)
  (retain : Bool)

/-- How a publication goes that ends as given. -/
structure Gated (e : Ended Session Unit) : Prop where
  /-- The session stays as it is. -/
  state : e.state = s
  calls : e.journal.calls = j.calls ++ callsIn e.trace
  once : (callsIn e.trace).length ≤ 1
  /-- A call is made only on a connection, and it is that of the publication. -/
  call : ∀ r ∈ callsIn e.trace, s.link = .connected ∧ s.client = some r.client ∧
    ∃ p, packet topic payload = .ok p ∧ r.call = .publish topic p qos retain ∧
      r.outcome = n.answer j.calls r.client r.call
  result : e.result = .ok () ↔ ∃ c x, callsIn e.trace = [⟨c, x, .returned 0⟩]

variable {n s j topic payload qos retain}

theorem resultOf_eq_ok_iff {o : Outcome} : resultOf topic o = .ok () ↔ o = .returned 0 := by
  cases o with
  | returned code => by_cases hz : code = 0 <;> simp [resultOf, hz]
  | failed _ | interrupted => simp [resultOf]

theorem Gated.silent (f : Failure) : Gated n s j topic payload qos retain ⟨.error f, s, j, []⟩ :=
  ⟨rfl, by simp, by simp, by simp, by simp⟩

theorem run_publish_of_noClient (hc : s.client = none) :
    (publish topic payload qos retain).run n s j = ⟨.error (.broker .notConnected), s, j, []⟩ := by
  unfold publish
  rw [run_bind_of_ok n s j (run_state n s j), hc]
  rfl

theorem run_publish_of_not_connected (hs : s.isConnected = false) :
    (publish topic payload qos retain).run n s j = ⟨.error (.broker .notConnected), s, j, []⟩ := by
  cases hc : s.client with
  | none => exact run_publish_of_noClient hc
  | some c =>
    unfold publish
    rw [run_bind_of_ok n s j (run_state n s j)]
    simp only [hc, hs]
    rfl

theorem Gated.made {c : Client} (hs : s.isConnected = true) (hc : s.client = some c) {p : Value}
    (hp : packet topic payload = .ok p) {j' : Journal} {o : Outcome}
    (ho : n.answer j.calls c (.publish topic p qos retain) = o)
    (hj : j.Records [.made ⟨c, .publish topic p qos retain, o⟩] j') :
    Gated n s j topic payload qos retain
      ⟨resultOf topic o, s, j', [.made ⟨c, .publish topic p qos retain, o⟩]⟩ := by
  refine ⟨rfl, hj.calls, Nat.le_refl 1, fun r hr => ?_, ?_⟩
  · rw [callsIn_made, List.mem_singleton] at hr
    subst hr
    exact ⟨of_decide_eq_true hs, hc, p, hp, rfl, ho.symm⟩
  · rw [callsIn_made, resultOf_eq_ok_iff]
    constructor
    · rintro rfl
      exact ⟨c, _, rfl⟩
    · rintro ⟨c', x, hx⟩
      cases hx
      rfl

variable (n s j topic payload qos retain)

/-- **Every publication goes so.** -/
theorem gated_publish :
    Gated n s j topic payload qos retain ((publish topic payload qos retain).run n s j) := by
  cases hs : s.isConnected with
  | false =>
    rw [run_publish_of_not_connected hs]
    exact .silent _
  | true =>
    cases hc : s.client with
    | none =>
      rw [run_publish_of_noClient hc]
      exact .silent _
    | some c =>
      cases hp : packet topic payload with
      | error e =>
        rw [run_publish_of_unwritten hc hs hp]
        exact .silent _
      | ok p =>
        obtain ⟨j', hr, hj⟩ := ends_publish_of_connected n s j hc hs hp qos retain
        rw [hr]
        exact .made hs hc hp rfl hj

variable {n s j topic payload qos retain}

theorem Gated.failed {e : Ended Session Unit} (h : Gated n s j topic payload qos retain e)
    (ht : callsIn e.trace = []) : ∃ f, e.result = .error f := by
  cases hr : e.result with
  | error f => exact ⟨f, rfl⟩
  | ok a =>
    obtain ⟨c, x, hx⟩ := h.result.1 hr
    rw [ht] at hx
    cases hx

end Publishing

/-! ## Publications in a life -/

/-- A session that has a client when it is stopped stays shut down. -/
theorem link_live_stop (n : Network) {s : Session} (j : Journal) (hs : s.client.isSome = true)
    (later : List Operation) : ((live (.stop :: later)).run n s j).state.link = .shutdown := by
  obtain ⟨c, hc⟩ := Option.isSome_iff_exists.1 hs
  obtain ⟨r, t, ⟨j', hr, _⟩, ht, _⟩ := ends_stop_of_client n s j hc
  rw [run_live_cons, show Operation.act .stop = stop from rfl, hr]
  -- what came before the stop plays no part
  have hended : Reflects [.deed (.during .ending t (failure? r))] s.ended := reflects_ended ht _
  refine (reflects_live n hended j' later).shutdown.2 ?_
  rw [List.any_append, hended.shutdown.1 rfl, Bool.or_true]

/-- **Publications in a life of a fresh session.** Each goes as gated. A list or an object with a
double that is not finite somewhere is never sent, and nothing is once the session has been stopped
with a client. -/
theorem lived_publish (n : Network) (config : Config) (listener : Option Listener)
    (os : List Operation) (topic : Text) (payload : Value) (qos : Int) (retain : Bool) :
    let s := (lived n config listener os).state
    let j := (lived n config listener os).journal
    let e := (publish topic payload qos retain).run n s j
    Gated n s j topic payload qos retain e ∧
      (payload.isContainer = true → payload.hasNonFinite = true →
        callsIn e.trace = [] ∧ ∃ f, e.result = .error f) ∧
      (∀ before later, os = before ++ .stop :: later →
        (lived n config listener before).state.client.isSome = true →
        callsIn e.trace = [] ∧ e.result = .error (.broker .notConnected)) := by
  intro s j e
  have hgated : Gated n s j topic payload qos retain e :=
    gated_publish n s j topic payload qos retain
  refine ⟨hgated, fun hc hf => ?_, fun before later hos hclient => ?_⟩
  · have ht : callsIn e.trace = [] := by
      refine List.eq_nil_iff_forall_not_mem.2 fun r hr => ?_
      obtain ⟨_, _, p, hp, _⟩ := hgated.call r hr
      exact packet_ne_ok_of_nonFinite hc hf hp
    exact ⟨ht, hgated.failed ht⟩
  · have hlink : s.link = .shutdown := by
      show (lived n config listener os).state.link = .shutdown
      rw [hos, lived, run_live_append]
      exact link_live_stop n _ hclient later
    have hs : s.isConnected = false := by rw [isConnected, hlink]; rfl
    have hrun : e = ⟨.error (.broker .notConnected), s, j, []⟩ := run_publish_of_not_connected hs
    rw [hrun]
    exact ⟨rfl, rfl⟩

/-- A stop without a client is none: the session starts after it, connects and publishes. -/
theorem publishes_after_idle_stop :
    callsIn ((publish "t" (.text "x") 0 false).run .silent
      (lived .silent smallConfig none (.stop :: smallStart)).state
      (lived .silent smallConfig none (.stop :: smallStart)).journal).trace =
        [⟨0, .publish "t" (.text "x") 0 false, .returned 0⟩] :=
  rfl

end Session

end DeltaBridge
