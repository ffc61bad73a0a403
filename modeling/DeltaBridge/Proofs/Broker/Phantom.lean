import DeltaBridge.Proofs.Broker.Launch
import DeltaBridge.Proofs.Broker.Subscription

/-!
# Subscriptions without a connection

A disconnection and a stop drop what was subscribed. Other events that end a connection do not: a
refused connection, a failed attempt to connect, and a start that fails. And after a stop a late
connection subscribes again, while the session stays shut down.

* `Session.Event`, `Session.history`: what happens in a life: its trace, `deeds_history`, with the
  starts that fail;
* `Event.strands`, `stranded`: the events after which subscribed topics have no connection;
* `Session.Reflects`: the history shows the link; `reflects_callback`, `reflects_ended`,
  `reflects_start`: the operations that matter, `reflects_act`: all of them;
* **`lived_phantom`**: exactly when topics are subscribed without a connection.
-/

namespace DeltaBridge

/-- The deed hangs up a client for good. -/
def Deed.ends : Deed → Bool
  | .during .ending parts _ => !(callsIn parts).isEmpty
  | _ => false

namespace Session

open Act

/-- What happens in a life. -/
inductive Event where
  | deed (d : Deed)
  /-- A start fails, and the session takes it for an error. -/
  | startFailed

namespace Event

/-- The deed that an event is. -/
def deed? : Event → Option Deed
  | deed d => some d
  | startFailed => none

/-- The session is shut down with the event. -/
def ends : Event → Bool
  | deed d => d.ends
  | startFailed => false

/-- The event is about the connection. -/
def matters : Event → Bool
  | deed d => d.news?.isSome || d.ends
  | startFailed => true

/-- After the event there is no connection, but nothing subscribed is dropped. -/
def strands (past : List Event) : Event → Bool
  | startFailed => true
  | deed (.during (.callback (.connected r)) _ _) => r.isFailure || past.any ends
  | deed (.during (.callback .connectFailed) _ _) => true
  | deed _ => false

@[simp] theorem matters_made (r : CallRecord) : (deed (.made r)).matters = false := rfl

@[simp] theorem matters_told (status : Status) : (deed (.told status)).matters = false := rfl

@[simp] theorem matters_wanted (topics : TopicSet) : (deed (.wanted topics)).matters = false := rfl

end Event

/-- The last event about the connection is one after which subscribed topics have none; the events
are given the newest first. -/
def stranded : List Event → Bool
  | [] => false
  | e :: past => if e.matters then e.strands past else stranded past

/-! ## What a history shows -/

/-- The events, the newest first, show whether the session is shut down, and if topics are
subscribed, whether there is a connection. -/
structure Reflects (past : List Event) (s : Session) : Prop where
  shutdown : s.link = .shutdown ↔ past.any Event.ends = true
  connected : s.subscribed.toList ≠ [] → (s.link = .connected ↔ stranded past = false)

section Reflecting

variable {past : List Event} {s s' : Session}

theorem reflects_fresh (config : Config) (listener : Option Listener) :
    Reflects [] (fresh config listener) :=
  ⟨by simp [fresh], fun h => absurd rfl h⟩

theorem Reflects.of_same (h : Reflects past s) (hl : s'.link = s.link)
    (hs : s'.subscribed = s.subscribed) : Reflects past s' :=
  ⟨by rw [hl]; exact h.shutdown, by rw [hl, hs]; exact h.connected⟩

theorem Reflects.idle {t : List Deed} (h : Reflects past s)
    (ht : ∀ d ∈ t, (Event.deed d).matters = false) (hl : s'.link = s.link)
    (hs : s'.subscribed = s.subscribed) : Reflects ((t.map .deed).reverse ++ past) s' := by
  induction t generalizing past with
  | nil => exact h.of_same hl hs
  | cons d t ih =>
    obtain ⟨hd, ht⟩ := List.forall_mem_cons.1 ht
    have hends : (Event.deed d).ends = false := (Bool.or_eq_false_iff.1 hd).2
    rw [List.map_cons, List.reverse_cons, List.append_assoc]
    refine ih ⟨?_, ?_⟩ ht
    · rw [List.singleton_append, List.any_cons, hends]
      exact h.shutdown
    · rw [List.singleton_append, stranded, hd]
      exact h.connected

theorem Reflects.callback_of_news (h : Reflects past s) (o : Outcome) {c : Callback}
    (hc : c.news?.isSome = true) (t : List Deed) (f : Option Failure) :
    Reflects (.deed (.during (.callback c) t f) :: past) (s.after o c) := by
  refine ⟨Link.hear_eq_shutdown_iff.trans ?_, fun hsub => ?_⟩
  · rw [List.any_cons]
    exact h.shutdown
  have hmatters : (Event.deed (.during (.callback c) t f)).matters = true := by
    rw [Event.matters, Deed.news?, hc]
    rfl
  rw [stranded, if_pos hmatters]
  show s.link.hear c = .connected ↔ _
  rw [Link.hear_eq_connected_iff, ne_eq, h.shutdown]
  cases c with
  | connected r => cases hr : r.isFailure <;> simp [Event.strands, Callback.news?, hr]
  | connectFailed => simp [Event.strands, Callback.news?]
  | disconnected r => exact absurd rfl hsub
  | message _ _ | subscribed _ | noted _ _ => cases hc

theorem reflects_callback (h : Reflects past s) (o : Outcome) (c : Callback) (t : List Deed)
    (f : Option Failure) :
    Reflects (.deed (.during (.callback c) t f) :: past) (s.after o c) := by
  by_cases hc : c.news?.isSome = true
  · exact h.callback_of_news o hc t f
  · refine h.idle (t := [.during (.callback c) t f]) (fun d hd => ?_) ?_ ?_
    · rw [List.mem_singleton.1 hd, Event.matters, Deed.news?, Bool.eq_false_iff.2 hc]
      rfl
    · cases c <;> first | rfl | exact absurd rfl hc
    · cases c <;> first | rfl | exact absurd rfl hc

/-- A stop that hangs up a client leaves nothing subscribed. -/
theorem reflects_ended {k : Client} {t : List Deed} (ht : HangsUp k (callsIn t))
    (f : Option Failure) : Reflects (.deed (.during .ending t f) :: past) s.ended := by
  have hends : (Event.deed (.during .ending t f)).ends = true := by
    rw [Event.ends, Deed.ends]
    generalize callsIn t = xs at ht
    cases ht <;> rfl
  refine ⟨?_, fun hsub => absurd rfl hsub⟩
  rw [List.any_cons, hends]
  exact iff_of_true rfl rfl

theorem Reflects.startFailed (h : Reflects past s) :
    Reflects (.startFailed :: past) { s with link := s.link.move .error } := by
  refine ⟨?_, fun _ => iff_of_false Link.move_error_ne_connected (by simp [stranded, Event.matters,
    Event.strands])⟩
  show s.link.move .error = .shutdown ↔ _
  rw [Link.move_eq_shutdown_iff, List.any_cons]
  simpa [Event.ends] using h.shutdown

end Reflecting

/-! ## The operations -/

/-- The course in which the history goes on to show the link. -/
def reflecting : Course Session := fun s _ t s' _ =>
  ∀ past, Reflects past s → Reflects ((t.map .deed).reverse ++ past) s'

theorem composes_reflecting : Composes reflecting where
  report _ _ _ _ h := h
  append := by
    intro s j t s' j' u s'' j'' h h' past hp
    rw [List.map_append, List.reverse_append, List.append_assoc]
    exact h' _ (h past hp)

section Operations

variable {n : Network}

theorem follows_of_idle {α : Type} {x : Act Session α}
    (h : ∀ s j, ∃ r s' t, Ends n s j x r s' t ∧ (∀ d ∈ t, (Event.deed d).matters = false) ∧
      s'.link = s.link ∧ s'.subscribed = s.subscribed) : Follows n reflecting x := by
  intro s j
  obtain ⟨r, s', t, ⟨j', hr, _⟩, ht, hl, hs⟩ := h s j
  rw [hr]
  exact fun past hp => hp.idle ht hl hs

theorem follows_change_of_idle {f : Session → Session} (hl : ∀ s, (f s).link = s.link)
    (hs : ∀ s, (f s).subscribed = s.subscribed) : Follows n reflecting (change f) :=
  follows_of_idle fun s _ => ⟨_, _, _, .change f, by simp, hl s, hs s⟩

theorem follows_perform_reflecting (c : Client) (x : Call) : Follows n reflecting (perform c x) :=
  follows_of_idle fun s _ => ⟨_, s, _, .perform c x, by simp, rfl, rfl⟩

theorem follows_handle_reflecting (c : Callback) : Follows n reflecting (handle c) := by
  intro s j
  obtain ⟨r, t, o, ⟨j', hr, _⟩, _⟩ := ends_handle_after n s j c
  rw [hr]
  exact fun past hp => reflects_callback hp o c t _

theorem follows_stop_reflecting : Follows n reflecting stop := by
  intro s j
  cases hc : s.client with
  | none =>
    obtain ⟨j', hr, _⟩ := ends_stop_of_noClient n s j hc
    rw [hr]
    exact fun past hp => hp.idle (t := [_]) (by simp [Event.matters, Deed.news?, Deed.ends]) rfl rfl
  | some k =>
    obtain ⟨r, t, ⟨j', hr, _⟩, ht, _⟩ := ends_stop_of_client n s j hc
    rw [hr]
    exact fun past _ => reflects_ended ht _

theorem follows_want_reflecting (topics : TopicSet) : Follows n reflecting (want topics) :=
  follows_of_idle fun s j => ⟨_, _, _, ends_want n s j topics, by simp, rfl, rfl⟩

theorem spreads_reflecting : Spreads (fun {_} x => Follows n reflecting x) where
  pure := Follows.pure composes_reflecting
  bind := Follows.bind composes_reflecting
  attempt := Follows.attempt
  state := Follows.state composes_reflecting
  atStart := Follows.atStart composes_reflecting
  ofLogged := Follows.ofLogged composes_reflecting
  noClient := Follows.fail composes_reflecting _
  perform c x _ := follows_perform_reflecting c x
  create id f hf := by
    have h := composes_reflecting
    refine Follows.bind h (fun s j past hp => ?_) fun c => ?_
    · exact hp.idle (t := [.made _]) (by simp) rfl rfl
    · exact Follows.bind h (follows_change_of_idle (fun _ => rfl) fun _ => rfl) fun _ => hf c
  handle := follows_handle_reflecting

end Operations

/-! ## Starts -/

/-- The event with which a start ends that fails as the broker does. -/
def failing : Option Failure → List Event
  | some (.broker _) => [.startFailed]
  | _ => []

/-- The events of a start: its deeds, and its failure. -/
def startEvents {α : Type} (e : Ended Session α) : List Event :=
  e.trace.map .deed ++ failing (failure? e.result)

section Starting

variable (n : Network) {past : List Event} {s : Session}

theorem Reflects.starting (h : Reflects past s) (topics : TopicSet) :
    Reflects past (s.starting topics) := by
  refine ⟨?_, fun hsub => ?_⟩
  · show s.link.move .connecting = .shutdown ↔ _
    rw [Link.move_eq_shutdown_iff]
    simpa using h.shutdown
  · show s.link.move .connecting = .connected ↔ _
    rw [Link.move_connecting_eq_connected_iff]
    exact h.connected hsub

theorem startEvents_settle_ok (s : Session) (j : Journal) :
    startEvents ((settle (.ok ())).run n s j) =
      ((await (n.waiting j.calls)).run n s j).trace.map .deed := by
  obtain ⟨s', t, ⟨j', hr, _⟩, _⟩ := ends_await n s j (n.waiting j.calls)
  rw [show (settle (.ok ())).run n s j = (await (n.waiting j.calls)).run n s j from rfl, hr]
  exact List.append_nil _

theorem reflects_settle (h : Reflects past s) (j : Journal) (r : Except Failure Unit) :
    Reflects ((startEvents ((settle r).run n s j)).reverse ++ past)
      ((settle r).run n s j).state := by
  rcases r with e | a
  · unfold startEvents
    by_cases he : e = .interrupted
    · obtain ⟨j', hr, _⟩ := ends_settle_of_interrupted n s j
      rw [he, hr]
      exact h
    · obtain ⟨j', hr, _⟩ := ends_settle_of_error n s j he
      rw [hr, List.reverse_append]
      refine (h.idle (fun d hd => ?_) rfl rfl).startFailed
      unfold toldTo at hd
      split at hd
      · rw [List.mem_singleton.1 hd]
        rfl
      · cases hd
  · rw [startEvents_settle_ok]
    exact (spreads_reflecting (n := n)).await (n.waiting j.calls) s j past h

theorem exists_start (s : Session) (j : Journal) (topics : TopicSet) :
    ∃ j₁ r s₁ j₂ t, j.Records [.wanted topics] j₁ ∧
      launch.run n (s.starting topics) j₁ = ⟨r, s₁, j₂, t⟩ ∧
      (start topics).run n s j = (((settle r).run n s₁ j₂).after t).after [.wanted topics] ∧
      (startEvents ((start topics).run n s j)).reverse =
        (startEvents ((settle r).run n s₁ j₂)).reverse ++
          ((t.map .deed).reverse ++ [.deed (.wanted topics)]) := by
  obtain ⟨j₁, _, hj, hrun⟩ := run_start n s j topics
  rcases hr : launch.run n (s.starting topics) j₁ with ⟨r, s₁, j₂, t⟩
  have hopen : opening.run n (s.starting topics) j₁ = ((settle r).run n s₁ j₂).after t := by
    rw [opening_eq, run_bind, run_attempt, hr]
  rw [hopen] at hrun
  refine ⟨j₁, r, s₁, j₂, t, hj, hr, hrun, ?_⟩
  rw [hrun]
  simp [startEvents]

/-- **A start that fails strands what was subscribed.** -/
theorem reflects_start (h : Reflects past s) (j : Journal) (topics : TopicSet) :
    Reflects ((startEvents ((start topics).run n s j)).reverse ++ past)
      ((start topics).run n s j).state := by
  obtain ⟨j₁, r, s₁, j₂, t, _, hr, hrun, hevents⟩ := exists_start n s j topics
  have hwanted : Reflects (.deed (.wanted topics) :: past) (s.starting topics) :=
    (h.starting topics).idle (t := [.wanted topics]) (by simp) rfl rfl
  have hlaunch := (spreads_reflecting (n := n)).launch (s.starting topics) j₁ _ hwanted
  rw [hr] at hlaunch
  rw [hevents, hrun, List.append_assoc, List.append_assoc]
  exact reflects_settle n hlaunch j₂ r

end Starting

/-! ## Lives -/

/-- The events of an operation. -/
def Operation.events (o : Operation) (e : Ended Session Unit) : List Event :=
  match o with
  | .start _ => startEvents e
  | _ => e.trace.map .deed

theorem events_start (n : Network) (s : Session) (j : Journal) (topics : List Text) :
    Operation.events (.start topics) ((Operation.start topics).act.run n s j) =
      startEvents ((start (.ofList topics)).run n s j) := by
  rw [run_act_start, Operation.events, startEvents, startEvents]
  cases ((start (.ofList topics)).run n s j).result <;> rfl

/-- What happens in a life, from a session and a journal on. -/
def history (n : Network) : Session → Journal → List Operation → List Event
  | _, _, [] => []
  | s, j, o :: os =>
    o.events (o.act.run n s j) ++ history n (o.act.run n s j).state (o.act.run n s j).journal os

theorem deeds_events (o : Operation) (e : Ended Session Unit) :
    (o.events e).filterMap Event.deed? = e.trace := by
  have hdeeds : (e.trace.map Event.deed).filterMap Event.deed? = e.trace := by
    rw [List.filterMap_map]
    exact List.filterMap_some
  cases o with
  | start topics =>
    have hfailing : ∀ f, (failing f).filterMap Event.deed? = [] := by
      intro f
      unfold failing
      split <;> rfl
    rw [Operation.events, startEvents, List.filterMap_append, hdeeds, hfailing, List.append_nil]
  | setUp | assign _ | stop | callback _ | publish _ _ _ _ | drain => exact hdeeds

/-- A history is a trace with the starts that fail. -/
theorem deeds_history (n : Network) (s : Session) (j : Journal) (os : List Operation) :
    (history n s j os).filterMap Event.deed? = ((live os).run n s j).trace := by
  induction os generalizing s j with
  | nil => rfl
  | cons o os ih =>
    rw [run_live_cons, history, List.filterMap_append, deeds_events, ih]
    rfl

section Lives

variable (n : Network) {past : List Event} {s : Session}

/-- **Every operation goes on reflecting the link.** -/
theorem reflects_act (h : Reflects past s) (j : Journal) (o : Operation) :
    Reflects ((o.events (o.act.run n s j)).reverse ++ past) (o.act.run n s j).state := by
  have hc := composes_reflecting
  cases o with
  | start topics =>
    rw [events_start, run_act_start]
    exact reflects_start n h j _
  | setUp => exact (spreads_reflecting (n := n)).setUp s j past h
  | assign topics => exact follows_want_reflecting (n := n) _ s j past h
  | stop => exact follows_stop_reflecting (n := n) s j past h
  | callback c => exact follows_handle_reflecting (n := n) c s j past h
  | publish topic payload qos retain =>
    have hpublish : Follows n reflecting (publish topic payload qos retain) :=
      (passes_follows hc).publish (Follows.state hc) (Follows.fail hc)
        (fun c _ _ _ _ => follows_perform_reflecting c _) topic payload qos retain
    exact hpublish s j past h
  | drain =>
    refine (passes_follows (n := n) hc).drain (Follows.state hc) ?_ s j past h
    exact follows_change_of_idle (fun _ => rfl) fun _ => rfl

theorem reflects_live (h : Reflects past s) (j : Journal) (os : List Operation) :
    Reflects ((history n s j os).reverse ++ past) ((live os).run n s j).state := by
  induction os generalizing past s j with
  | nil => exact h
  | cons o os ih =>
    rw [run_live_cons, history, List.reverse_append, List.append_assoc]
    exact ih (reflects_act n h j o) _

end Lives

/-- **Exactly when topics are subscribed without a connection.** They are if the calls and the
disconnections show that some are subscribed, and the last event about the connection was a refused
connection, a failed attempt to connect, a failed start, or any connection once the session was shut
down. After a disconnection or a stop they never are. -/
theorem lived_phantom (n : Network) (config : Config) (listener : Option Listener)
    (os : List Operation) :
    (history n (fresh config listener) .empty os).filterMap Event.deed? =
        (lived n config listener os).trace ∧
      ((lived n config listener os).state.subscribed.toList ≠ [] ∧
          (lived n config listener os).state.isConnected = false ↔
        subscribedBy (lived n config listener os).trace.reverse ≠ [] ∧
          stranded (history n (fresh config listener) .empty os).reverse = true) := by
  refine ⟨deeds_history n _ _ os, ?_⟩
  have hreflects := reflects_live n (reflects_fresh config listener) .empty os
  have hshown := follows_live (n := n) (composes_shown config) follows_act os
    (fresh config listener) .empty
  obtain ⟨htells, _⟩ := hshown.2 [] (.fresh config listener)
  rw [List.append_nil] at hreflects htells
  have hsubscribed : (lived n config listener os).state.subscribed.toList =
      subscribedBy (lived n config listener os).trace.reverse := htells.subscribed
  rw [← hsubscribed]
  refine and_congr_right fun hsub => ?_
  have hlink : (lived n config listener os).state.link = .connected ↔ _ := hreflects.connected hsub
  rw [isConnected, decide_eq_false_iff_not, hlink, Bool.not_eq_false]

/-- A client that is refused after a connection leaves the session with its topic subscribed, and
without a connection. -/
theorem refused_leaves_subscribed :
    (lived .silent smallConfig none
        (smallStart ++ [.callback (.connected ⟨"Not authorized", true⟩)])).state.subscribed.toList =
          [("t" : Text)] ∧
      (lived .silent smallConfig none
        (smallStart ++ [.callback (.connected ⟨"Not authorized", true⟩)])).state.isConnected =
          false :=
  ⟨rfl, rfl⟩

end Session

end DeltaBridge
