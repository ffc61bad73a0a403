import DeltaBridge.Broker.Session
import DeltaBridge.Proofs.Broker.News

/-!
# What a session does with a callback

For each callback: the result, the state after it and the trace. The journal grows by what is in the
trace.

* `Session.toldTo`: the deed of telling a listener, `ends_announce`; `announces`: the status with
  which a callback is announced;
* `ends_subscribeAll_of_isEmpty`, `ends_subscribeAll_of_client`: asking for all topics;
* `Session.Connects`, `ends_onConnected`: a connection; `ends_onConnectFailed`,
  `ends_onDisconnected`, `ends_onMessage`, `ends_onSubscribed`: the other callbacks;
* **`ends_handle_after`**: the session after any callback, what it asks for and what it tells;
  `ends_handle`: what a callback does to the queue.
-/

namespace DeltaBridge

/-- The user interrupts no call. -/
def Network.Uninterrupted (n : Network) : Prop := ∀ past c x, n.answer past c x ≠ .interrupted

namespace Session

open Act

variable (n : Network) (s : Session) (j : Journal)

theorem ends_note (level : Level) (m : Text) : Ends n s j (note level m) (.ok ()) s [] :=
  .ofLogged _

theorem ends_want (topics : TopicSet) :
    Ends n s j (want topics) (.ok ()) { s with topics := topics } [.wanted topics] :=
  Ends.after (.change _) fun _ _ => .mark topics

/-! ## Telling and asking -/

/-- The deed of telling a listener, if there is one. -/
def toldTo (l : Option Listener) (status : Status) : List Deed :=
  if l.isSome then [.told status] else []

@[simp] theorem callsIn_toldTo (l : Option Listener) (status : Status) :
    callsIn (toldTo l status) = [] := by
  cases l <;> rfl

theorem statusesIn_toldTo (l : Option Listener) (status : Status) :
    statusesIn (toldTo l status) = if l.isSome then [status] else [] := by
  cases l <;> rfl

/-- The status message with which a callback is announced. -/
def announcement? (s : Session) : Callback → Option Status
  | .connected r =>
    some (if r.isFailure then ⟨"Connection error: " ++ r.name, true⟩
      else ⟨"Connected to " ++ s.config.server, false⟩)
  | .connectFailed => some ⟨"Attempting to reconnect to MQTT broker...", false⟩
  | .disconnected r =>
    if s.link = .shutdown then none
    else some (if r.isFailure then ⟨"Disconnected", false⟩ else ⟨"Connection closed.", false⟩)
  | _ => none

/-- What a listener is told on a callback. -/
def announces (s : Session) (c : Callback) : List Status :=
  if s.listener.isSome then (s.announcement? c).toList else []

theorem announces_of_none {c : Callback} (h : s.announcement? c = none) : s.announces c = [] := by
  rw [announces, h]
  exact ite_self _

theorem announces_of_some {c : Callback} {status : Status} (h : s.announcement? c = some status) :
    s.announces c = statusesIn (toldTo s.listener status) := by
  rw [announces, h, statusesIn_toldTo]
  rfl

theorem ends_announce (e : Bool) (m : Text) :
    Ends n s j (announce e m) (.ok ()) s (toldTo s.listener ⟨m, e⟩) := by
  refine Ends.after (ends_note n s j _ m) fun j _ => Ends.after .state fun j _ => ?_
  cases hl : s.listener with
  | none => exact .pure ()
  | some l =>
    refine Ends.bind (u := []) (.tell l ⟨m, e⟩) fun j _ => ?_
    cases (l _ ⟨m, e⟩).failure with
    | none => exact .pure ()
    | some reason => exact ends_note n s j _ _

theorem ends_subscribeAll_of_isEmpty (h : s.topics.isEmpty = true) :
    Ends n s j subscribeAll (.ok ()) s [] := by
  refine Ends.after .state fun j _ => ?_
  rw [if_pos h]
  exact ends_note n s j _ _

theorem ends_subscribeAll_of_noClient (h : s.topics.isEmpty = false) (hc : s.client = none) :
    Ends n s j subscribeAll (.error .noClient) s [] := by
  refine Ends.after .state fun j _ => ?_
  rw [if_neg (by simp [h])]
  refine Ends.after (ends_note n s j _ _) fun j _ => ?_
  rw [hc]
  exact .fail _

/-- The answer to the client that asks for all topics. -/
def answered (c : Client) : Outcome := n.answer j.calls c (.subscribe s.requests)

/-- **All topics are asked for in one call, and count as subscribed if it is accepted.** -/
theorem ends_subscribeAll_of_client {c : Client} (h : s.topics.isEmpty = false)
    (hc : s.client = some c) :
    Ends n s j subscribeAll ((endOfCall (answered n s j c)).map fun _ => ())
      (if answered n s j c = .returned 0 then { s with subscribed := s.topics } else s)
      [.made ⟨c, .subscribe s.requests, answered n s j c⟩] := by
  refine Ends.after .state fun j₁ h₁ => ?_
  rw [if_neg (by simp [h])]
  refine Ends.after (ends_note n s j₁ _ _) fun j₂ h₂ => ?_
  split
  · rename_i h'
    rw [hc] at h'
    cases h'
  rename_i c' h'
  obtain rfl : c = c' := by rw [hc] at h'; exact Option.some.inj h'
  have hp := Ends.perform (n := n) (s := s) (j := j₂) c (.subscribe s.requests)
  rw [show n.answer j₂.calls c (.subscribe s.requests) = answered n s j c by
    rw [answered, h₂.calls, h₁.calls, callsIn_nil, List.append_nil, List.append_nil]] at hp
  cases ha : answered n s j c with
  | returned code =>
    rw [ha] at hp
    refine Ends.bind (u := []) hp fun j₃ _ => ?_
    by_cases hz : code = 0
    · subst hz
      rw [if_neg (by simp), if_pos rfl]
      exact .change _
    · rw [if_pos hz, if_neg (by simpa using hz)]
      exact ends_note n s j₃ _ _
  | failed reason => rw [ha] at hp; exact hp.bind_error
  | interrupted => rw [ha] at hp; exact hp.bind_error

/-! ## The callbacks -/

theorem ends_onConnected_of_failure {r : Reason} (h : r.isFailure = true) :
    Ends n s j (onConnected r) (.ok ()) { s with link := s.link.move .error }
      (toldTo s.listener ⟨"Connection error: " ++ r.name, true⟩) := by
  unfold onConnected
  rw [if_pos h]
  exact Ends.after (.change _) fun j _ => ends_announce n _ j _ _

/-- The session with a connection. -/
def connected (s : Session) : Session := { s with link := s.link.move .connected }

/-- **A connection is announced, and then the topics are asked for.** -/
theorem ends_onConnected_of_success {r : Reason} (h : r.isFailure = false) {e : Except Failure Unit}
    {s' : Session} {t : List Deed}
    (hs : ∀ j', j'.calls = j.calls → Ends n s.connected j' subscribeAll e s' t) :
    Ends n s j (onConnected r) e s'
      (toldTo s.listener ⟨"Connected to " ++ s.config.server, false⟩ ++ t) := by
  unfold onConnected
  rw [if_neg (by simp [h])]
  refine Ends.after (.change _) fun j₁ h₁ => Ends.after .state fun j₂ h₂ => ?_
  refine Ends.bind (ends_announce n s.connected j₂ _ _) fun j₃ h₃ => hs j₃ ?_
  rw [h₃.calls, h₂.calls, h₁.calls]
  simp

/-- What a connection leads to: the session after it, and the calls made. -/
inductive Connects (s : Session) (r : Reason) : Session → List CallRecord → Prop
  | refused (h : r.isFailure = true) : Connects s r { s with link := s.link.move .error } []
  /-- There is nothing to ask, or no client to ask. -/
  | silent (h : r.isFailure = false) (hn : s.topics.isEmpty = true ∨ s.client = none) :
    Connects s r s.connected []
  | asked {c : Client} (o : Outcome) (h : r.isFailure = false) (ht : s.topics.isEmpty = false)
    (hc : s.client = some c) :
    Connects s r
      (if o = .returned 0 then { s.connected with subscribed := s.topics } else s.connected)
      [⟨c, .subscribe s.requests, o⟩]

theorem announcement?_connected (r : Reason) (h : r.isFailure = false) :
    s.announcement? (.connected r) = some ⟨"Connected to " ++ s.config.server, false⟩ := by
  rw [announcement?, h]
  rfl

theorem ends_onConnected (r : Reason) :
    ∃ e s' t, Ends n s j (onConnected r) e s' t ∧ Connects s r s' (callsIn t) ∧
      statusesIn t = s.announces (.connected r) ∧ (n.Uninterrupted → e ≠ .error .interrupted) := by
  by_cases hr : r.isFailure = true
  · refine ⟨_, _, _, ends_onConnected_of_failure n s j hr, ?_, ?_, by simp⟩
    · rw [callsIn_toldTo]
      exact .refused hr
    · exact (announces_of_some s (by rw [announcement?, if_pos hr])).symm
  have hr : r.isFailure = false := by simpa using hr
  have htold : ∀ t, statusesIn t = [] →
      statusesIn (toldTo s.listener ⟨"Connected to " ++ s.config.server, false⟩ ++ t) =
        s.announces (.connected r) := by
    intro t ht
    rw [statusesIn_append, ht, List.append_nil,
      announces_of_some s (announcement?_connected s r hr)]
  by_cases ht : s.topics.isEmpty = true
  · refine ⟨_, _, _, ends_onConnected_of_success n s j hr fun j' _ =>
      ends_subscribeAll_of_isEmpty n s.connected j' ht, ?_, htold _ rfl, by simp⟩
    rw [callsIn_append, callsIn_toldTo]
    exact .silent hr (.inl ht)
  have ht : s.topics.isEmpty = false := by simpa using ht
  cases hc : s.client with
  | none =>
    refine ⟨_, _, _, ends_onConnected_of_success n s j hr fun j' _ =>
      ends_subscribeAll_of_noClient n s.connected j' ht hc, ?_, htold _ rfl, by simp⟩
    rw [callsIn_append, callsIn_toldTo]
    exact .silent hr (.inr hc)
  | some c =>
    generalize ho : answered n s.connected j c = o
    have hs :
      ∀ j', j'.calls = j.calls → Ends n s.connected j' subscribeAll ((endOfCall o).map fun _ => ())
        (if o = .returned 0 then { s.connected with subscribed := s.topics } else s.connected)
        [.made ⟨c, .subscribe s.requests, o⟩] := by
      intro j' hj
      have ha : answered n s.connected j' c = o := by rw [← ho, answered, answered, hj]
      rw [← ha]
      exact ends_subscribeAll_of_client n s.connected j' ht hc
    refine ⟨_, _, _, ends_onConnected_of_success n s j hr hs, ?_, htold _ rfl, fun hn => ?_⟩
    · rw [callsIn_append, callsIn_toldTo]
      exact .asked o hr ht hc
    · cases o with
      | returned code => simp [endOfCall, Except.map]
      | failed reason => simp [endOfCall, Except.map]
      | interrupted => exact absurd ho (hn _ _ _)

theorem ends_onConnectFailed :
    Ends n s j onConnectFailed (.ok ()) { s with link := s.link.move .reconnecting }
      (toldTo s.listener ⟨"Attempting to reconnect to MQTT broker...", false⟩) :=
  Ends.after (.change _) fun j _ => ends_announce n _ j _ _

/-- The session without subscribed topics. -/
def forgetful (s : Session) : Session := { s with subscribed := ∅ }

/-- **A disconnection drops what was subscribed.** It is announced only before the end. -/
theorem ends_onDisconnected (r : Reason) :
    ∃ t, Ends n s j (onDisconnected r) (.ok ())
        { s.forgetful with link := s.link.hear (.disconnected r) } t ∧
      callsIn t = [] ∧ statusesIn t = s.announces (.disconnected r) := by
  unfold onDisconnected
  by_cases hl : s.link = .shutdown
  · have hs : { s.forgetful with link := s.link.hear (.disconnected r) } = s.forgetful := by
      rw [hl, Link.hear, Link.move_shutdown, ← hl]
      rfl
    rw [hs]
    refine ⟨[], Ends.after (.change _) fun j _ => Ends.after .state fun j _ => ?_, rfl, ?_⟩
    · rw [if_pos hl]
      exact .pure ()
    · exact (announces_of_none s (by rw [announcement?, if_pos hl])).symm
  by_cases hr : r.isFailure = true
  · refine ⟨toldTo s.listener ⟨"Disconnected", false⟩,
      Ends.after (.change _) fun j _ => Ends.after .state fun j _ => ?_, callsIn_toldTo _ _, ?_⟩
    · rw [if_neg hl, if_pos hr, Link.hear, if_pos hr]
      exact Ends.after (ends_note n s.forgetful j _ _) fun j _ => Ends.after (.change _) fun j _ =>
        ends_announce n _ j _ _
    · exact (announces_of_some s (by rw [announcement?, if_neg hl, if_pos hr])).symm
  · refine ⟨toldTo s.listener ⟨"Connection closed.", false⟩,
      Ends.after (.change _) fun j _ => Ends.after .state fun j _ => ?_, callsIn_toldTo _ _, ?_⟩
    · rw [if_neg hl, if_neg hr, Link.hear, if_neg hr]
      exact Ends.after (.change _) fun j _ => ends_announce n _ j _ _
    · exact (announces_of_some s (by rw [announcement?, if_neg hl, if_neg hr])).symm

theorem ends_onMessage (topic : Text) (payload : Value) :
    Ends n s j (onMessage topic payload) (.ok ()) { s with queue := s.queue ++ [(topic, payload)] }
      [] :=
  Ends.after (.change _) fun j _ => ends_note n _ j _ _

theorem ends_onSubscribed (rs : List Reason) : Ends n s j (onSubscribed rs) (.ok ()) s [] := by
  unfold onSubscribed
  split <;> exact ends_note n s j _ _

/-! ## Any callback -/

/-- What a callback asks for, with the answer: all topics, on a connection. -/
def asks (s : Session) (o : Outcome) (c : Callback) : List CallRecord :=
  if c.news? = some true ∧ s.topics.isEmpty = false then
    s.client.toList.map fun k => ⟨k, .subscribe s.requests, o⟩
  else []

/-- The subscribed topics after a callback, by the answer to what it asks for. -/
def subscribedAfter (s : Session) (o : Outcome) : Callback → TopicSet
  | .connected r =>
    if o = .returned 0 ∧ s.asks o (.connected r) ≠ [] then s.topics else s.subscribed
  | .disconnected _ => ∅
  | _ => s.subscribed

/-- The session after a callback. -/
def after (s : Session) (o : Outcome) (c : Callback) : Session :=
  { s with
    link := s.link.hear c
    queue := s.queue ++ c.message?.toList
    subscribed := s.subscribedAfter o c }

theorem after_of_no_message {o : Outcome} {c : Callback} (h : c.message? = none) :
    s.after o c = { s with link := s.link.hear c, subscribed := s.subscribedAfter o c } := by
  rw [after, h, Option.toList_none, List.append_nil]

theorem asks_of_news {o : Outcome} {c : Callback} (h : c.news? ≠ some true) : s.asks o c = [] :=
  if_neg fun h' => h h'.1

theorem failure?_of_mem_asks {o : Outcome} {c : Callback} {r : CallRecord} (h : r ∈ s.asks o c) :
    r.failure? = none := by
  unfold asks at h
  split at h
  · obtain ⟨k, _, rfl⟩ := List.mem_map.1 h
    rfl
  · cases h

theorem subscribedAfter_of_asks {o : Outcome} {r : Reason} (h : s.asks o (.connected r) = []) :
    s.subscribedAfter o (.connected r) = s.subscribed :=
  if_neg fun h' => h'.2 h

theorem after_of_connects {r : Reason} {s' : Session} {xs : List CallRecord}
    (h : Connects s r s' xs) :
    ∃ o, s' = s.after o (.connected r) ∧ xs = s.asks o (.connected r) := by
  simp only [after_of_no_message s (c := .connected r) rfl]
  cases h with
  | refused h =>
    have hn : s.asks (.returned 0) (.connected r) = [] :=
      asks_of_news s (by simp [Callback.news?, h])
    refine ⟨.returned 0, ?_, hn.symm⟩
    rw [subscribedAfter_of_asks s hn, Link.hear, if_pos h]
  | silent h hn =>
    have hn : s.asks (.returned 0) (.connected r) = [] := by
      rcases hn with hn | hn
      · exact if_neg (by simp [hn])
      · rw [asks, hn, Option.toList_none, List.map_nil, ite_self]
    refine ⟨.returned 0, ?_, hn.symm⟩
    rw [subscribedAfter_of_asks s hn, Link.hear, h]
    rfl
  | asked o h ht hc =>
    rename_i k
    have hk : s.asks o (.connected r) = [⟨k, .subscribe s.requests, o⟩] := by
      rw [asks, if_pos ⟨by simp [Callback.news?, h], ht⟩, hc]
      rfl
    have hs : s.subscribedAfter o (.connected r) =
        if o = .returned 0 then s.topics else s.subscribed := by
      rw [subscribedAfter, hk]
      simp
    refine ⟨o, ?_, hk.symm⟩
    rw [hs, Link.hear, h]
    split <;> rfl

/-- **All that a callback does.** -/
theorem ends_handle_after (c : Callback) :
    ∃ r t o, Ends n s j (handle c) r (s.after o c) [.during (.callback c) t (failure? r)] ∧
      callsIn t = s.asks o c ∧ statusesIn t = s.announces c ∧
      (n.Uninterrupted → r ≠ .error .interrupted) := by
  suffices h : ∃ r t o, Ends n s j (respond c) r (s.after o c) t ∧ callsIn t = s.asks o c ∧
      statusesIn t = s.announces c ∧ (n.Uninterrupted → r ≠ .error .interrupted) by
    obtain ⟨r, t, o, he, h⟩ := h
    exact ⟨r, t, o, he.during _, h⟩
  cases c with
  | connected r =>
    obtain ⟨e, s', t, he, hc, hs, hi⟩ := ends_onConnected n s j r
    obtain ⟨o, rfl, ht⟩ := after_of_connects s hc
    exact ⟨e, t, o, he, ht, hs, hi⟩
  -- but for a connection nothing is asked, and the answer does not matter
  | connectFailed =>
    refine ⟨.ok (), _, .returned 0, ?_, callsIn_toldTo _ _, (announces_of_some s rfl).symm, by simp⟩
    rw [after_of_no_message s rfl]
    exact ends_onConnectFailed n s j
  | disconnected r =>
    obtain ⟨t, he, ht, hs⟩ := ends_onDisconnected n s j r
    refine ⟨.ok (), t, .returned 0, ?_, ht, hs, by simp⟩
    rw [after_of_no_message s rfl]
    exact he
  | message topic payload =>
    exact ⟨.ok (), _, .returned 0, ends_onMessage n s j topic payload, rfl,
      (announces_of_none s rfl).symm, by simp⟩
  | subscribed rs =>
    refine ⟨.ok (), [], .returned 0, ?_, rfl, (announces_of_none s rfl).symm, by simp⟩
    rw [after_of_no_message s rfl]
    exact ends_onSubscribed n s j rs
  | noted severity text =>
    refine ⟨.ok (), [], .returned 0, ?_, rfl, (announces_of_none s rfl).symm, by simp⟩
    rw [after_of_no_message s rfl]
    exact ends_note n s j _ _

/-- **A callback puts its message, if it has one, at the end of the queue.** It publishes
nothing. -/
theorem ends_handle (c : Callback) :
    ∃ r s' t, Ends n s j (handle c) r s' [.during (.callback c) t (failure? r)] ∧
      s'.queue = s.queue ++ c.message?.toList ∧ failureIn t = none ∧
      (n.Uninterrupted → r ≠ .error .interrupted) := by
  obtain ⟨r, t, o, he, ht, _, hi⟩ := ends_handle_after n s j c
  refine ⟨r, _, t, he, rfl, ?_, hi⟩
  rw [failureIn, ht]
  exact List.findSome?_eq_none_iff.2 fun x hx => failure?_of_mem_asks s hx

end Session

end DeltaBridge
