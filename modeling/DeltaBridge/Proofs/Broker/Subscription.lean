import DeltaBridge.Proofs.Broker.Life

/-!
# Subscriptions

The topics that count as subscribed are those that the trace of a life shows: the topics of the last
call that asked for topics and was accepted, unless a disconnection came after it, or a stop of a
session with a client. And topics are asked for only when a client tells of a connection: all of
them, in one call.

* `subscribedBy`: the subscribed topics, read off a trace; `topicsOf`, `hasClient`: the topics to
  ask for, and whether there is a client;
* `Session.Orderly`: what a deed may ask for; `Session.Tells`: the trace shows the state;
* `follows_handle`, `follows_stop`, `follows_create`: the operations that matter;
* **`lived_subscribed`**: the subscribed topics after each life, and what it asked for;
  `trace_lived_callback`: where a callback stands in its trace.
-/

namespace DeltaBridge

/-! ## Reading a trace -/

namespace CallRecord

/-- The call has created a client. -/
def creates (r : CallRecord) : Bool :=
  match r.call, r.outcome with
  | .create _, .returned _ => true
  | _, _ => false

/-- The topics asked for, each with its quality of service. -/
def asked? (r : CallRecord) : Option (List (Text × Int)) :=
  match r.call with
  | .subscribe ts => some ts
  | _ => none

/-- The topics asked for, if the broker has accepted. -/
def accepted? (r : CallRecord) : Option (List Text) :=
  if r.outcome = .returned 0 then r.asked?.map (List.map Prod.fst) else none

end CallRecord

namespace Deed

/-- The new topics to ask for. -/
def wanted? : Deed → Option TopicSet
  | .wanted ts => some ts
  | _ => none

/-- A client tells of a connection. -/
def connects : Deed → Bool
  | .during (.callback (.connected r)) _ _ => !r.isFailure
  | _ => false

/-- The topics of the last call in the deed that asked for topics and was accepted. -/
def accepted? (d : Deed) : Option (List Text) :=
  (callsIn [d]).reverse.findSome? CallRecord.accepted?

end Deed

/-- A client was created. -/
def hasClient (past : List Deed) : Bool := (callsIn past).any CallRecord.creates

/-- The topics to ask for, after some deeds, the newest first. -/
def topicsOf : List Deed → TopicSet
  | [] => ∅
  | d :: past => d.wanted?.getD (topicsOf past)

/-- After the deed no topic is subscribed: it is a disconnection, or the end of a session with a
client. -/
def Deed.drops (past : List Deed) : Deed → Bool
  | .during (.callback (.disconnected _)) _ _ => true
  | .during .ending _ _ => hasClient past
  | _ => false

/-- The subscribed topics after some deeds, the newest first. -/
def subscribedBy : List Deed → List Text
  | [] => []
  | d :: past => if d.drops past then [] else d.accepted?.getD (subscribedBy past)

theorem hasClient_cons (d : Deed) (past : List Deed) :
    hasClient (d :: past) = ((callsIn [d]).any CallRecord.creates || hasClient past) := by
  rw [hasClient, hasClient, callsIn_cons, List.any_append]

theorem accepted?_eq_none {d : Deed} (h : ∀ r ∈ callsIn [d], r.asked? = none) :
    d.accepted? = none := by
  refine List.findSome?_eq_none_iff.2 fun r hr => ?_
  rw [CallRecord.accepted?, h r (List.mem_reverse.1 hr)]
  split <;> rfl

/-- A deed that neither creates a client nor asks for topics nor replaces them. -/
structure Deed.Idle (d : Deed) : Prop where
  calls : ∀ r ∈ callsIn [d], r.creates = false ∧ r.asked? = none
  wanted : d.wanted? = none

namespace Deed.Idle

variable {d : Deed}

theorem of_callsIn_eq_nil (h : callsIn [d] = []) (hw : d.wanted? = none) : d.Idle :=
  ⟨fun _ hr => absurd (h ▸ hr) List.not_mem_nil, hw⟩

theorem accepted (h : d.Idle) : d.accepted? = none := accepted?_eq_none fun r hr => (h.calls r hr).2

theorem creates (h : d.Idle) : (callsIn [d]).any CallRecord.creates = false := by
  rw [List.any_eq_false]
  intro r hr
  rw [(h.calls r hr).1]
  simp

end Deed.Idle

namespace Session

open Act

/-! ## What a trace shows -/

/-- What a deed may ask for, with the given quality of service: it does so only when a client tells
of a connection, and then for each topic, once and in order. -/
structure Orderly (qos : Int) (past : List Deed) (d : Deed) : Prop where
  asks : ∀ r ∈ callsIn [d], ∀ ts, r.asked? = some ts →
    d.connects = true ∧ (ts.map Prod.fst).Pairwise (fun s t => Text.precedes s t = true) ∧
      (∀ t, t ∈ ts.map Prod.fst ↔ t ∈ topicsOf past) ∧ ∀ p ∈ ts, p.2 = qos
  once : d.connects = true → hasClient past = true → (topicsOf past).isEmpty = false →
    (callsIn [d]).countP (fun r => r.asked?.isSome) = 1

/-- Each deed is orderly, given those before it. -/
def OrderlyFrom (qos : Int) : List Deed → List Deed → Prop
  | _, [] => True
  | past, d :: t => Orderly qos past d ∧ OrderlyFrom qos (d :: past) t

theorem orderlyFrom_append {qos : Int} {past t u : List Deed} :
    OrderlyFrom qos past (t ++ u) ↔ OrderlyFrom qos past t ∧
      OrderlyFrom qos (t.reverse ++ past) u := by
  induction t generalizing past with
  | nil => simp [OrderlyFrom]
  | cons d t ih => simp [OrderlyFrom, ih, and_assoc]

theorem Orderly.of_idle {qos : Int} {past : List Deed} {d : Deed} (h : d.Idle)
    (hc : d.connects = false) :
    Orderly qos past d := by
  refine ⟨?_, ?_⟩
  · intro r hr ts hts
    rw [(h.calls r hr).2] at hts
    cases hts
  · intro h'
    rw [hc] at h'
    cases h'

/-- The deeds, the newest first, show the state. -/
structure Tells (config : Config) (past : List Deed) (s : Session) : Prop where
  config : s.config = config
  client : s.client.isSome = hasClient past
  topics : s.topics = topicsOf past
  subscribed : s.subscribed.toList = subscribedBy past

/-- Nothing that a trace shows is changed. -/
structure Keeps (s s' : Session) : Prop where
  config : s'.config = s.config
  client : s'.client = s.client
  topics : s'.topics = s.topics

namespace Tells

variable {config : Config} {past : List Deed} {s s' : Session} {d : Deed}

theorem fresh (config : Config) (listener : Option Listener) :
    Tells config [] (fresh config listener) :=
  ⟨rfl, rfl, rfl, rfl⟩

theorem of_keeps (h : Tells config past s) (hk : Keeps s s') (hs : s'.subscribed = s.subscribed) :
    Tells config past s' :=
  ⟨hk.config.trans h.config, by rw [hk.client, h.client],
    hk.topics.trans h.topics, by rw [hs, h.subscribed]⟩

theorem idle (h : Tells config past s) (hd : d.Idle) (hk : Keeps s s')
    (hdrop : d.drops past = false) (hs : s'.subscribed = s.subscribed) :
    Tells config (d :: past) s' where
  config := hk.config.trans h.config
  client := by rw [hk.client, h.client, hasClient_cons, hd.creates, Bool.false_or]
  topics := by rw [hk.topics, h.topics, topicsOf, hd.wanted, Option.getD_none]
  subscribed := by rw [hs, h.subscribed, subscribedBy, hdrop, hd.accepted]; rfl

theorem drop (h : Tells config past s) (hd : d.Idle) (hk : Keeps s s') (hdrop : d.drops past = true)
    (hs : s'.subscribed = ∅) : Tells config (d :: past) s' where
  config := hk.config.trans h.config
  client := by rw [hk.client, h.client, hasClient_cons, hd.creates, Bool.false_or]
  topics := by rw [hk.topics, h.topics, topicsOf, hd.wanted, Option.getD_none]
  subscribed := by rw [hs, subscribedBy, hdrop]; rfl

end Tells

/-- The course in which the trace goes on to show the state and the calls of the journal, and is
orderly. -/
def shown (config : Config) : Course Session := fun s j t s' j' => j.Records t j' ∧
  ∀ past, Tells config past s → Tells config (t.reverse ++ past) s' ∧ OrderlyFrom config.qos past t

theorem composes_shown (config : Config) : Composes (shown config) where
  report _ j rs := ⟨.of_report j rs, fun _ h => ⟨h, trivial⟩⟩
  append := by
    rintro s j t s' j' u s'' j'' ⟨hj, ht⟩ ⟨hj', hu⟩
    refine ⟨hj.append hj', fun past h => ?_⟩
    obtain ⟨h', ht⟩ := ht past h
    obtain ⟨h'', hu⟩ := hu _ h'
    refine ⟨?_, orderlyFrom_append.2 ⟨ht, hu⟩⟩
    rwa [List.reverse_append, List.append_assoc]

section Operations

variable {n : Network} {config : Config}

theorem follows_of_deed {α : Type} {x : Act Session α}
    (h : ∀ s j, ∃ r s' d, Ends n s j x r s' [d] ∧ ∀ past, Tells config past s →
      Tells config (d :: past) s' ∧ Orderly config.qos past d) : Follows n (shown config) x := by
  intro s j
  obtain ⟨r, s', d, ⟨j', hr, hj⟩, hd⟩ := h s j
  rw [hr]
  refine ⟨hj, fun past hp => ?_⟩
  obtain ⟨ht, ho⟩ := hd past hp
  exact ⟨ht, ho, trivial⟩

theorem tells_idle {s s' : Session} {past : List Deed} {d : Deed} (h : Tells config past s)
    (hd : d.Idle) (hk : Keeps s s') (hs : s'.subscribed = s.subscribed)
    (hdrop : d.drops past = false) (hc : d.connects = false) :
    Tells config (d :: past) s' ∧ Orderly config.qos past d :=
  ⟨h.idle hd hk hdrop hs, .of_idle hd hc⟩

theorem follows_change {f : Session → Session} (hk : ∀ s, Keeps s (f s))
    (hs : ∀ s, (f s).subscribed = s.subscribed) : Follows n (shown config) (change f) :=
  fun s j => ⟨.refl j, fun _ h => ⟨h.of_keeps (hk s) (hs s), trivial⟩⟩

theorem follows_moveTo (l : Link) : Follows n (shown config) (moveTo l) :=
  follows_change (fun _ => ⟨rfl, rfl, rfl⟩) fun _ => rfl

theorem follows_tell (l : Listener) (status : Status) :
    Follows n (shown config) (tell l status) := by
  refine follows_of_deed fun s j => ⟨_, s, _, .tell l status, fun past h => ?_⟩
  exact tells_idle h (.of_callsIn_eq_nil rfl rfl) ⟨rfl, rfl, rfl⟩ rfl rfl rfl

theorem follows_perform (c : Client) {x : Call}
    (hx : ∀ o, (CallRecord.mk c x o).creates = false ∧ (CallRecord.mk c x o).asked? = none) :
    Follows n (shown config) (perform c x) := by
  refine follows_of_deed fun s j => ⟨_, s, _, .perform c x, fun past h => ?_⟩
  refine tells_idle h ⟨fun r hr => ?_, rfl⟩ ⟨rfl, rfl, rfl⟩ rfl rfl rfl
  rw [callsIn_made, List.mem_singleton] at hr
  rw [hr]
  exact hx _

theorem follows_announce (e : Bool) (m : Text) : Follows n (shown config) (announce e m) :=
  (passes_follows (composes_shown config)).announce (Follows.state (composes_shown config))
    follows_tell e m

/-! ## Callbacks -/

theorem map_fst_requests (s : Session) : s.requests.map Prod.fst = s.topics.toList := by
  simp [requests, Function.comp_def]

theorem orderly_of_requests {s : Session} {past : List Deed} (h : Tells config past s)
    {r : CallRecord} (hr : r.asked? = some s.requests) {d : Deed} (hd : callsIn [d] = [r])
    (hc : d.connects = true) :
    Orderly config.qos past d := by
  refine ⟨?_, ?_⟩
  · intro r' hr' ts hts
    rw [hd, List.mem_singleton] at hr'
    obtain rfl := hr'
    obtain rfl : s.requests = ts := Option.some.inj (hr.symm.trans hts)
    rw [map_fst_requests, ← h.topics, ← h.config]
    refine ⟨hc, s.topics.increasing, fun t => Iff.rfl, fun p hp => ?_⟩
    obtain ⟨t, _, rfl⟩ := List.mem_map.1 hp
    rfl
  · intro _ _ _
    rw [hd]
    simp [hr]

theorem tells_silent {s s' : Session} {past : List Deed} {d : Deed} (h : Tells config past s)
    (hd : callsIn [d] = []) (hw : d.wanted? = none) (hk : Keeps s s')
    (hs : s'.subscribed = s.subscribed) (hdrop : d.drops past = false)
    (hn : hasClient past = false ∨ (topicsOf past).isEmpty = true) :
    Tells config (d :: past) s' ∧ Orderly config.qos past d := by
  refine ⟨h.idle (.of_callsIn_eq_nil hd hw) hk hdrop hs, ?_, ?_⟩
  · intro r hr
    rw [hd] at hr
    cases hr
  · intro _ hc ht
    rcases hn with hn | hn
    · rw [hn] at hc
      cases hc
    · rw [hn] at ht
      cases ht

theorem tells_asked {s : Session} {past : List Deed} {r : Reason} {x : CallRecord} {t : List Deed}
    {f : Option Failure} (h : Tells config past s) (hr : r.isFailure = false) (ht : callsIn t = [x])
    (hx : x.asked? = some s.requests) (hcr : x.creates = false) :
    Tells config (.during (.callback (.connected r)) t f :: past)
        (if x.outcome = .returned 0 then { s.connected with subscribed := s.topics }
          else s.connected) ∧
      Orderly config.qos past (.during (.callback (.connected r)) t f) := by
  have hd : callsIn [.during (.callback (.connected r)) t f] = [x] := by rw [callsIn_during, ht]
  have ha : Deed.accepted? (.during (.callback (.connected r)) t f) = x.accepted? := by
    rw [Deed.accepted?, hd]
    cases hv : x.accepted? <;> simp [hv]
  have hcl : hasClient (.during (.callback (.connected r)) t f :: past) = hasClient past := by
    rw [hasClient_cons, hd]
    simp [hcr]
  refine ⟨?_, orderly_of_requests h hx hd (by rw [Deed.connects, hr]; rfl)⟩
  by_cases ho : x.outcome = .returned 0
  · rw [if_pos ho]
    refine ⟨h.config, by rw [hcl]; exact h.client, h.topics, ?_⟩
    rw [subscribedBy, ha, CallRecord.accepted?, if_pos ho, hx, Option.map_some, map_fst_requests]
    rfl
  · rw [if_neg ho]
    refine ⟨h.config, by rw [hcl]; exact h.client, h.topics, ?_⟩
    rw [subscribedBy, ha, CallRecord.accepted?, if_neg ho]
    exact h.subscribed

theorem follows_connected (r : Reason) : Follows n (shown config) (handle (.connected r)) := by
  refine follows_of_deed fun s j => ?_
  obtain ⟨e, s', t, he, hx, _⟩ := ends_onConnected n s j r
  refine ⟨e, s', _, he.during _, fun past h => ?_⟩
  generalize ht : callsIn t = xs at hx
  cases hx with
  | refused hr =>
    refine tells_idle h (.of_callsIn_eq_nil ?_ rfl) ⟨rfl, rfl, rfl⟩ rfl rfl ?_
    · rw [callsIn_during, ht]
    · rw [Deed.connects, hr]; rfl
  | silent hr hn =>
    refine tells_silent h ?_ rfl ⟨rfl, rfl, rfl⟩ rfl rfl ?_
    · rw [callsIn_during, ht]
    · rw [← h.client, ← h.topics]
      rcases hn with hn | hn
      · exact .inr hn
      · exact .inl (by rw [hn]; rfl)
  | asked o hr _ _ => exact tells_asked h hr ht rfl rfl

theorem follows_disconnected (r : Reason) :
    Follows n (shown config) (handle (.disconnected r)) := by
  refine follows_of_deed fun s j => ?_
  obtain ⟨t, he, ht, _⟩ := ends_onDisconnected n s j r
  refine ⟨_, _, _, he.during _, fun past h => ?_⟩
  have hi :
    Deed.Idle (.during (.callback (.disconnected r)) t (failure? (.ok () : Except Failure Unit))) :=
    .of_callsIn_eq_nil (by rw [callsIn_during, ht]) rfl
  exact ⟨h.drop hi ⟨rfl, rfl, rfl⟩ rfl rfl, .of_idle hi rfl⟩

/-- **Only connections ask for topics, and only disconnections drop them, among the callbacks.** -/
theorem follows_handle (c : Callback) : Follows n (shown config) (handle c) := by
  cases c with
  | connected r => exact follows_connected r
  | disconnected r => exact follows_disconnected r
  | connectFailed =>
    refine follows_of_deed fun s j =>
      ⟨_, _, _, (ends_onConnectFailed n s j).during _, fun past h => ?_⟩
    refine tells_idle h (.of_callsIn_eq_nil ?_ rfl) ⟨rfl, rfl, rfl⟩ rfl rfl rfl
    rw [callsIn_during, callsIn_toldTo]
  | message topic payload =>
    refine follows_of_deed fun s j =>
      ⟨_, _, _, (ends_onMessage n s j topic payload).during _, fun past h => ?_⟩
    exact tells_idle h (.of_callsIn_eq_nil rfl rfl) ⟨rfl, rfl, rfl⟩ rfl rfl rfl
  | subscribed rs =>
    refine follows_of_deed fun s j =>
      ⟨_, _, _, (ends_onSubscribed n s j rs).during _, fun past h => ?_⟩
    exact tells_idle h (.of_callsIn_eq_nil rfl rfl) ⟨rfl, rfl, rfl⟩ rfl rfl rfl
  | noted severity text =>
    refine follows_of_deed fun s j => ⟨_, _, _, (ends_note n s j _ _).during _, fun past h => ?_⟩
    exact tells_idle h (.of_callsIn_eq_nil rfl rfl) ⟨rfl, rfl, rfl⟩ rfl rfl rfl

/-! ## Other operations -/

theorem HangsUp.idle {c : Client} {xs : List CallRecord} (h : HangsUp c xs) :
    ∀ x ∈ xs, x.creates = false ∧ x.asked? = none := by
  cases h <;> simp [CallRecord.creates, CallRecord.asked?]

theorem follows_stop : Follows n (shown config) stop := by
  refine follows_of_deed fun s j => ?_
  cases hc : s.client with
  | none =>
    refine ⟨_, _, _, ends_stop_of_noClient n s j hc, fun past h => ?_⟩
    have hn : hasClient past = false := by rw [← h.client, hc]; rfl
    exact tells_idle h (.of_callsIn_eq_nil rfl rfl) ⟨rfl, rfl, rfl⟩ rfl hn rfl
  | some c =>
    obtain ⟨r, t, he, ht, _⟩ := ends_stop_of_client n s j hc
    refine ⟨_, _, _, he, fun past h => ?_⟩
    have hn : hasClient past = true := by rw [← h.client, hc]; rfl
    have hi : Deed.Idle (.during .ending t (failure? r)) := by
      refine ⟨fun x hx => ?_, rfl⟩
      rw [callsIn_during] at hx
      exact ht.idle x hx
    exact ⟨h.drop hi ⟨rfl, rfl, rfl⟩ hn rfl, .of_idle hi rfl⟩

theorem asked?_create {c : Client} {id : Text} {o : Outcome} :
    ∀ r ∈ callsIn [.made ⟨c, .create id, o⟩], r.asked? = none := by
  intro r hr
  rw [callsIn_made, List.mem_singleton] at hr
  rw [hr]
  rfl

theorem shown_created {s : Session} {j : Journal} {c : Client} {id : Text} {code : Int} :
    shown config s j [.made ⟨c, .create id, .returned code⟩] { s with client := some c }
      (j.record ⟨c, .create id, .returned code⟩) := by
  refine ⟨.of_call j _, fun past h =>
    ⟨⟨h.config, ?_, h.topics, ?_⟩, ⟨fun r hr ts hts => ?_, fun hc => ?_⟩, trivial⟩⟩
  · rw [List.reverse_singleton, List.singleton_append, hasClient_cons]
    rfl
  · rw [List.reverse_singleton, List.singleton_append, subscribedBy,
      accepted?_eq_none asked?_create]
    exact h.subscribed
  · rw [asked?_create r hr] at hts
    cases hts
  · cases hc

theorem shown_notCreated {s : Session} {j : Journal} {c : Client} {id : Text} {o : Outcome}
    (ho : ∀ code, o ≠ .returned code) :
    shown config s j [.made ⟨c, .create id, o⟩] s (j.record ⟨c, .create id, o⟩) := by
  have hi : Deed.Idle (.made ⟨c, .create id, o⟩) := by
    refine ⟨fun r hr => ⟨?_, asked?_create r hr⟩, rfl⟩
    rw [callsIn_made, List.mem_singleton] at hr
    rw [hr]
    cases o with
    | returned code => exact absurd rfl (ho code)
    | failed reason => rfl
    | interrupted => rfl
  refine ⟨.of_call j _, fun past h => ?_⟩
  obtain ⟨ht, hor⟩ := tells_idle h hi ⟨rfl, rfl, rfl⟩ rfl rfl rfl
  exact ⟨ht, hor, trivial⟩

/-- A creation, and what is done once there is a client. -/
theorem follows_create {α : Type} (id : Text) {f : Client → Act Session α}
    (hf : ∀ c, Follows n (shown config) (f c)) :
    Follows n (shown config) (do
      let c ← create id
      change fun s => { s with client := some c }
      f c) := by
  intro s j
  have hr : (create id : Act Session Client).run n s j =
      ⟨(endOfCall (n.answer j.calls j.calls.length (.create id))).map fun _ => j.calls.length, s, _,
        _⟩ := rfl
  generalize n.answer j.calls j.calls.length (.create id) = o at hr
  cases o with
  | returned code =>
    rw [run_bind_of_ok n s j hr]
    exact (composes_shown config).append shown_created (hf _ _ _)
  | failed reason =>
    rw [run_bind_of_error n s j hr]
    exact shown_notCreated (by simp)
  | interrupted =>
    rw [run_bind_of_error n s j hr]
    exact shown_notCreated (by simp)

theorem follows_want (topics : TopicSet) : Follows n (shown config) (want topics) := by
  refine follows_of_deed fun s j => ⟨_, _, _, ends_want n s j topics, fun past h => ?_⟩
  refine ⟨⟨h.config, h.client, rfl, h.subscribed⟩, fun r hr => ?_, fun hc => ?_⟩
  · cases hr
  · cases hc

theorem spreads_shown : Spreads (fun {_} x => Follows n (shown config) x) where
  pure := Follows.pure (composes_shown config)
  bind := Follows.bind (composes_shown config)
  attempt := Follows.attempt
  state := Follows.state (composes_shown config)
  atStart := Follows.atStart (composes_shown config)
  ofLogged := Follows.ofLogged (composes_shown config)
  noClient := Follows.fail (composes_shown config) _
  perform c x hx :=
    follows_perform c fun o => by cases x <;> first | exact hx.elim | exact ⟨rfl, rfl⟩
  create := follows_create
  handle := follows_handle

theorem follows_start (topics : TopicSet) : Follows n (shown config) (start topics) :=
  spreads_shown.follows_start (composes_shown config) follows_want follows_moveTo follows_announce
    topics

theorem follows_publish (topic : Text) (payload : Value) (qos : Int) (retain : Bool) :
    Follows n (shown config) (publish topic payload qos retain) :=
  (passes_follows (composes_shown config)).publish (Follows.state (composes_shown config))
    (Follows.fail (composes_shown config)) (fun c _ _ _ _ => follows_perform c fun _ => ⟨rfl, rfl⟩)
    topic payload qos retain

theorem follows_act (o : Operation) : Follows n (shown config) o.act := by
  have h := composes_shown config
  cases o with
  | setUp => exact spreads_shown.setUp
  | assign topics => exact follows_want _
  | start topics => exact Follows.bind h (follows_start _) fun _ => Follows.pure h ()
  | stop => exact follows_stop
  | callback c => exact follows_handle c
  | publish topic payload qos retain => exact follows_publish topic payload qos retain
  | drain =>
    refine (passes_follows h).drain (Follows.state h) ?_
    exact follows_change (fun _ => ⟨rfl, rfl, rfl⟩) fun _ => rfl

end Operations

theorem orderly_of_orderlyFrom {qos : Int} {past before later : List Deed} {d : Deed}
    (h : OrderlyFrom qos past (before ++ d :: later)) : Orderly qos (before.reverse ++ past) d :=
  (orderlyFrom_append.1 h).2.1

/-- How the life of a fresh session ends. -/
def lived (n : Network) (config : Config) (listener : Option Listener) (os : List Operation) :
    Ended Session Unit := (live os).run n (fresh config listener) .empty

section Lived

variable (n : Network) (config : Config) (listener : Option Listener)

theorem lived_append (os later : List Operation) :
    lived n config listener (os ++ later) =
      ((live later).run n (lived n config listener os).state
        (lived n config listener os).journal).after (lived n config listener os).trace :=
  run_live_append n _ _ os later

theorem shown_lived (os : List Operation) :
    shown config (fresh config listener) .empty (lived n config listener os).trace
      (lived n config listener os).state (lived n config listener os).journal :=
  follows_live (composes_shown config) follows_act os (fresh config listener) .empty

theorem tells_lived (os : List Operation) :
    Tells config (lived n config listener os).trace.reverse (lived n config listener os).state := by
  have ht := ((shown_lived n config listener os).2 [] (.fresh config listener)).1
  rwa [List.append_nil] at ht

/-- A callback in a life is one deed of the trace, after those of the operations before it. It asks
for what the session of that time asks for. -/
theorem trace_lived_callback (before later : List Operation) (c : Callback) :
    ∃ t f rest o, (lived n config listener (before ++ .callback c :: later)).trace =
        (lived n config listener before).trace ++ .during (.callback c) t f :: rest ∧
      callsIn t = (lived n config listener before).state.asks o c := by
  obtain ⟨r, t, o, ⟨j', hr, _⟩, ht, _⟩ := ends_handle_after n (lived n config listener before).state
    (lived n config listener before).journal c
  rw [lived_append, run_live_cons, show (Operation.callback c).act = handle c from rfl, hr]
  exact ⟨t, failure? r, _, o, rfl, ht⟩

end Lived

/-- **The trace of a life shows the subscribed topics.** Whatever the network answers and the
clients tell, they are the strictly increasing topics of the last accepted call that no
disconnection and no stop with a client has followed. Each call asks for all topics of its time,
once and in order, with the quality of service of the session; it is made on a connection, and a
connection of a session with a client and with topics makes one such call. -/
theorem lived_subscribed (n : Network) (config : Config) (listener : Option Listener)
    (os : List Operation) :
    (lived n config listener os).state.subscribed.toList =
        subscribedBy (lived n config listener os).trace.reverse ∧
      (lived n config listener os).state.subscribed.toList.Pairwise
        (fun s t => Text.precedes s t = true) ∧
      (lived n config listener os).journal.calls = callsIn (lived n config listener os).trace ∧
      ∀ before d later, (lived n config listener os).trace = before ++ d :: later →
        Orderly config.qos before.reverse d := by
  have hshown := shown_lived n config listener os
  have ho := (hshown.2 [] (.fresh config listener)).2
  refine ⟨(tells_lived n config listener os).subscribed, TopicSet.increasing _, hshown.1.calls, ?_⟩
  intro before d later he
  rw [he] at ho
  have := orderly_of_orderlyFrom ho
  rwa [List.append_nil] at this

end Session

end DeltaBridge
