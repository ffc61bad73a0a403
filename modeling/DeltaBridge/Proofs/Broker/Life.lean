import DeltaBridge.Proofs.Broker.Callback

/-!
# Lives of sessions

The life of a session is a sequence of operations: it is set up, started and stopped, given topics,
told things by clients, and messages go out and in. An operation that fails does not end the life.

* `Session.Operation`, `Session.live`: operations, and a whole life, `run_live_append`;
* `live_induction`, `follows_live`: what all operations preserve, or follow, the life does;
* `Session.Passes`: a property that passes from parts of an action to the whole; `Passes.ready`,
  `Passes.await`, `Passes.announce`, `Passes.publish`: it passes to what a session does;
  `follows_atStart`, `follows_await`: a course that callbacks follow;
* `Session.Spreads`: such a property that the parts of a start have; **`Spreads.launch`**,
  `Spreads.follows_start`: it spreads to those that start a session;
* `Session.HangsUp`: the calls that hang up a client; `Session.ended`, `ends_stop_of_noClient`,
  `ends_stop_of_hangUp`, `ends_stop_of_client`: how a session is stopped;
* `Session.smallStart`: the beginning of a small life.
-/

namespace DeltaBridge.Session

open Act

/-- What is done with a session. -/
inductive Operation where
  | setUp
  /-- The topics to ask for are replaced. -/
  | assign (topics : List Text)
  | start (topics : List Text)
  | stop
  | callback (c : Callback)
  | publish (topic : Text) (payload : Value) (qos : Int) (retain : Bool)
  | drain

/-- The action of an operation. -/
def Operation.act : Operation → Act Session Unit
  | setUp => Session.setUp
  | assign topics => want (.ofList topics)
  | start topics => do let _ ← Session.start (.ofList topics)
  | stop => Session.stop
  | callback c => handle c
  | publish topic payload qos retain => Session.publish topic payload qos retain
  | drain => do let _ ← Session.drain

/-- The operations one after the other, whether they fail or not. -/
def live (os : List Operation) : Act Session Unit := each (fun o => do let _ ← attempt o.act) os

section Steps

variable (n : Network) (s : Session) (j : Journal)

theorem run_act_start (topics : List Text) :
    (Operation.start topics).act.run n s j =
      ⟨((start (.ofList topics)).run n s j).result.map fun _ => (),
        ((start (.ofList topics)).run n s j).state, ((start (.ofList topics)).run n s j).journal,
        ((start (.ofList topics)).run n s j).trace⟩ := by
  show (start (.ofList topics) >>= fun _ => pure ()).run n s j = _
  rw [run_bind]
  rcases (start (.ofList topics)).run n s j with ⟨e | b, s', j', t⟩
  · rfl
  · simp [Ended.after, Except.map]

theorem run_live_cons (o : Operation) (os : List Operation) :
    (live (o :: os)).run n s j =
      ((live os).run n (o.act.run n s j).state (o.act.run n s j).journal).after
        (o.act.run n s j).trace := by
  rw [live, each, run_bind, run_bind, run_attempt]
  simp only [run_pure, Ended.after, List.append_nil]
  rfl

theorem run_live_append (os later : List Operation) :
    (live (os ++ later)).run n s j =
      ((live later).run n ((live os).run n s j).state ((live os).run n s j).journal).after
        ((live os).run n s j).trace := by
  induction os generalizing s j with
  | nil => rfl
  | cons o os ih =>
    rw [List.cons_append, run_live_cons, run_live_cons, ih]
    simp only [Ended.after, List.append_assoc]

end Steps

/-- **What each operation of a life preserves, the life preserves.** -/
theorem live_induction {n : Network} {I : Session → Journal → Prop} {s : Session} {j : Journal}
    {os : List Operation} (h : I s j)
    (hstep : ∀ before o later, os = before ++ o :: later →
      I ((live before).run n s j).state ((live before).run n s j).journal →
        I (o.act.run n ((live before).run n s j).state ((live before).run n s j).journal).state
          (o.act.run n ((live before).run n s j).state ((live before).run n s j).journal).journal) :
    I ((live os).run n s j).state ((live os).run n s j).journal := by
  induction os generalizing s j with
  | nil => exact h
  | cons o os ih =>
    rw [run_live_cons]
    refine ih (hstep [] o os rfl h) fun before o' later he hI => ?_
    have hlater := hstep (o :: before) o' later (by rw [he]; rfl)
    rw [run_live_cons] at hlater
    exact hlater hI

theorem follows_live {n : Network} {ρ : Course Session} (h : Composes ρ)
    (ho : ∀ o : Operation, Follows n ρ o.act) (os : List Operation) : Follows n ρ (live os) :=
  Follows.each h (fun o => Follows.bind h (ho o).attempt fun _ => Follows.pure h ()) os

/-! ## Starting -/

/-- What a session does to a client that it has just made. -/
def ready (config : Config) (c : Client) : Act Session Unit := do
  match config.username with
  | none | some [] => pure ()
  | some user => let _ ← perform c (.authenticate user config.password)
  if config.address.encrypted then let _ ← perform c .encrypt
  let _ ← perform c (.setReconnectDelay config.shortestDelay config.longestDelay)
  note .info ("MQTT client initialized with ID: " ++ config.clientId)

theorem setUp_eq :
    setUp = (do
      let config := (← state).config
      let c ← create config.clientId
      change fun s => { s with client := some c }
      ready config c) := rfl

/-- The calls that set up a client and connect it. -/
def Opens : Call → Prop
  | .authenticate _ _ | .encrypt | .setReconnectDelay _ _ | .connect _ _ _ | .startLoop => True
  | _ => False

/-- A property of actions that passes from the parts to the whole. -/
structure Passes (P : {α : Type} → Act Session α → Prop) : Prop where
  pure : ∀ {α : Type} (a : α), P (pure a)
  bind : ∀ {α β : Type} {x : Act Session α} {f : α → Act Session β},
    P x → (∀ a, P (f a)) → P (x >>= f)
  ofLogged : ∀ {α : Type} (x : Logged α), P (ofLogged x)

theorem passes_follows {n : Network} {ρ : Course Session} (h : Composes ρ) :
    Passes (fun {_} x => Follows n ρ x) :=
  ⟨Follows.pure h, Follows.bind h, Follows.ofLogged h⟩

namespace Passes

variable {P : {α : Type} → Act Session α → Prop} (h : Passes P)

include h

theorem each {α : Type} {f : α → Act Session Unit} (hf : ∀ a, P (f a)) : ∀ xs, P (each f xs)
  | [] => h.pure ()
  | x :: xs => h.bind (hf x) fun _ => each hf xs

theorem await (hs : P state) (hc : ∀ c, P (handleAside c)) (css : List (List Callback)) :
    P (await css) := by
  induction css with
  | nil =>
    refine h.bind hs fun s => ?_
    split
    · exact h.pure true
    · exact h.bind (h.ofLogged _) fun _ => h.pure false
  | cons cs css ih =>
    refine h.bind hs fun s => ?_
    split
    · exact h.pure true
    · exact h.bind (h.each hc cs) fun _ => ih

theorem ready {c : Client} (hc : ∀ x, Opens x → x ≠ .startLoop → P (perform c x))
    (config : Config) : P (ready config c) := by
  have hlast : P (do
      let _ ← perform c (.setReconnectDelay config.shortestDelay config.longestDelay)
      note .info ("MQTT client initialized with ID: " ++ config.clientId)) :=
    h.bind (hc (.setReconnectDelay _ _) trivial (by simp)) fun _ => h.ofLogged _
  have hrest : P (do
      if config.address.encrypted then let _ ← perform c .encrypt
      let _ ← perform c (.setReconnectDelay config.shortestDelay config.longestDelay)
      note .info ("MQTT client initialized with ID: " ++ config.clientId)) := by
    split
    · exact h.bind (hc .encrypt trivial (by simp)) fun _ => hlast
    · exact hlast
  unfold Session.ready
  rcases config.username with _ | _ | ⟨a, user⟩
  · exact hrest
  · exact hrest
  · exact h.bind (hc (.authenticate _ _) trivial (by simp)) fun _ => hrest

theorem announce (hs : P state) (ht : ∀ l status, P (tell l status)) (isError : Bool) (m : Text) :
    P (announce isError m) := by
  refine h.bind (h.ofLogged _) fun _ => h.bind hs fun s => ?_
  split
  · exact h.pure ()
  · refine h.bind (ht _ _) fun r => ?_
    split
    · exact h.pure ()
    · exact h.ofLogged _

theorem drain (hs : P state) (hc : P (change fun s => { s with queue := [] })) :
    P (Operation.act .drain) :=
  h.bind (h.bind hs fun _ => h.bind hc fun _ => h.pure _) fun _ => h.pure ()

theorem publish (hs : P state) (hf : ∀ {α : Type} (e : Failure), P (fail e : Act Session α))
    (hc : ∀ c topic payload qos retain, P (perform c (.publish topic payload qos retain)))
    (topic : Text) (payload : Value) (qos : Int) (retain : Bool) :
    P (publish topic payload qos retain) := by
  refine h.bind hs fun s => ?_
  split
  · exact hf _
  · split
    · exact hf _
    · refine h.bind ?_ fun packet => h.bind (hc _ _ _ _ _) fun code => ?_
      · cases packet topic payload with
        | ok v => exact h.pure v
        | error e => exact hf e
      · split
        · exact hf _
        · exact h.ofLogged _

end Passes

section Hearing

variable {n : Network} {ρ : Course Session} (h : Composes ρ) (hc : ∀ c, Follows n ρ (handle c))

include h hc

/-- A course that callbacks follow is followed while a client starts its loop. -/
theorem follows_atStart : Follows n ρ (do each handle (← atStart)) :=
  Follows.bind h (Follows.atStart h) fun cs => Follows.each h hc cs

/-- A course that callbacks follow is followed while a connection is awaited. -/
theorem follows_await (css : List (List Callback)) : Follows n ρ (await css) := by
  refine (passes_follows h).await (Follows.state h) (fun c => ?_) css
  exact Follows.bind h (hc c).attempt fun _ => Follows.pure h ()

end Hearing

/-- A property of actions that spreads from the parts to the whole, and that the parts of a start
have. -/
structure Spreads (P : {α : Type} → Act Session α → Prop) : Prop where
  pure : ∀ {α : Type} (a : α), P (pure a)
  bind : ∀ {α β : Type} {x : Act Session α} {f : α → Act Session β},
    P x → (∀ a, P (f a)) → P (x >>= f)
  attempt : ∀ {α : Type} {x : Act Session α}, P x → P (attempt x)
  state : P state
  atStart : P atStart
  ofLogged : ∀ {α : Type} (x : Logged α), P (ofLogged x)
  noClient : ∀ {α : Type}, P (fail .noClient : Act Session α)
  perform : ∀ c x, Opens x → P (perform c x)
  create : ∀ {α : Type} (id : Text) {f : Client → Act Session α}, (∀ c, P (f c)) → P (do
    let c ← create id
    change fun s => { s with client := some c }
    f c)
  handle : ∀ c, P (handle c)

namespace Spreads

variable {P : {α : Type} → Act Session α → Prop} (h : Spreads P)

include h

theorem passes : Passes P := ⟨h.pure, h.bind, h.ofLogged⟩

theorem setUp : P Session.setUp := by
  rw [setUp_eq]
  refine h.bind h.state fun s => h.create _ fun c => ?_
  exact h.passes.ready (fun x hx _ => h.perform c x hx) s.config

theorem callClient {x : Call} (hx : Opens x) : P (callClient x) := by
  refine h.bind h.state fun s => ?_
  split
  · exact h.noClient
  · exact h.bind (h.perform _ x hx) fun _ => h.pure ()

/-- **It spreads to the launch of a client.** -/
theorem launch : P launch := by
  refine h.bind h.setUp fun _ => h.bind h.state fun s => ?_
  refine h.bind (h.callClient (x := .connect _ _ _) trivial) fun _ => ?_
  refine h.bind (h.callClient (x := .startLoop) trivial) fun _ => ?_
  exact h.bind h.atStart fun cs => h.passes.each h.handle cs

theorem handleAside (c : Callback) : P (handleAside c) :=
  h.bind (h.attempt (h.handle c)) fun _ => h.pure ()

theorem await (css : List (List Callback)) : P (await css) :=
  h.passes.await h.state h.handleAside css

end Spreads

/-- A course that spreads is followed by a start, if a change of the topics and of the link and an
announcement are of the course. -/
theorem Spreads.follows_start {n : Network} {ρ : Course Session}
    (hs : Spreads (fun {_} x => Follows n ρ x)) (h : Composes ρ)
    (hw : ∀ topics, Follows n ρ (want topics)) (hm : ∀ l, Follows n ρ (moveTo l))
    (ha : ∀ isError m, Follows n ρ (Session.announce isError m)) (topics : TopicSet) :
    Follows n ρ (start topics) := by
  refine Follows.bind h (hw topics) fun _ => Follows.bind h (hm _) fun _ => ?_
  refine Follows.bind h (Follows.state h) fun s => Follows.bind h (Follows.ofLogged h _) fun _ => ?_
  refine Follows.bind h hs.launch.attempt fun r => ?_
  split
  · exact Follows.bind h (Follows.waiting h) fun css => hs.await css
  · exact Follows.fail h _
  · refine Follows.bind h (hm _) fun _ => ?_
    exact Follows.bind h (ha _ _) fun _ => Follows.fail h _

/-! ## Stopping -/

/-- The calls that hang up a client. Its loop is stopped only if the disconnection returns. -/
inductive HangsUp (c : Client) : List CallRecord → Prop
  | both (code : Int) (o : Outcome) :
    HangsUp c [⟨c, .disconnect, .returned code⟩, ⟨c, .stopLoop, o⟩]
  | failed {o : Outcome} (h : ∀ code, o ≠ .returned code) : HangsUp c [⟨c, .disconnect, o⟩]

variable (n : Network) (s : Session) (j : Journal)

theorem ends_hangUp (c : Client) :
    ∃ r t, Ends n s j (hangUp c) r s t ∧ HangsUp c (callsIn t) ∧ statusesIn t = [] := by
  obtain ⟨j₁, hr, hj⟩ := ends_note n s j .info "Disconnecting from MQTT broker"
  have hd := Ends.perform (n := n) (s := s) (j := j₁) c .disconnect
  cases ho : n.answer j₁.calls c .disconnect with
  | returned code =>
    rw [ho] at hd
    obtain ⟨j₂, hr₂, hj₂⟩ := hd
    have hl := Ends.perform (n := n) (s := s) (j := j₂) c .stopLoop
    generalize n.answer j₂.calls c .stopLoop = o at hl
    have hc : HangsUp c (callsIn ([.made ⟨c, .disconnect, .returned code⟩] ++
        [.made ⟨c, .stopLoop, o⟩])) := .both code o
    cases o with
    | returned code' =>
      refine ⟨.ok (), _, Ends.seq hr hj (Ends.seq hr₂ hj₂ ?_), hc, rfl⟩
      exact Ends.bind (u := []) hl fun j _ => .pure ()
    | failed reason =>
      exact ⟨_, _, Ends.seq hr hj (Ends.seq hr₂ hj₂ hl.bind_error), hc, rfl⟩
    | interrupted => exact ⟨_, _, Ends.seq hr hj (Ends.seq hr₂ hj₂ hl.bind_error), hc, rfl⟩
  | failed reason =>
    rw [ho] at hd
    exact ⟨_, _, Ends.seq hr hj hd.bind_error, .failed (by simp), rfl⟩
  | interrupted =>
    rw [ho] at hd
    exact ⟨_, _, Ends.seq hr hj hd.bind_error, .failed (by simp), rfl⟩

theorem ends_stop_of_noClient (hc : s.client = none) :
    Ends n s j stop (.ok ()) s [.during .ending [] none] := by
  refine Ends.during (r := .ok ()) (Ends.after .state fun j _ => ?_) .ending
  rw [hc]
  exact .pure ()

/-- The result of a stop, by that of ending the connection: only an interruption goes on. -/
def stopped : Except Failure Unit → Except Failure Unit
  | .error .interrupted => .error .interrupted
  | _ => .ok ()

/-- The session as a stop leaves it, if there is a client. -/
def ended (s : Session) : Session := { s with link := .shutdown, subscribed := ∅ }

/-- A stop ends as hanging up the client does, once the link is shut down. -/
theorem ends_stop_of_hangUp {c : Client} (hc : s.client = some c) {r : Except Failure Unit}
    {t : List Deed}
    (h : Ends n { s with link := s.link.move .shutdown } j (hangUp c) r
      { s with link := s.link.move .shutdown } t) :
    Ends n s j stop (stopped r) s.ended [.during .ending t (failure? (stopped r))] := by
  have hl : s.ended = { s with link := s.link.move .shutdown, subscribed := ∅ } := by
    rw [Link.move_eq_shutdown_iff.2 (.inr rfl)]
    rfl
  rw [hl]
  -- the state is taken apart, so that the one with the link shut down is one of its own
  rcases s with ⟨config, listener, link, client, topics, subscribed, queue⟩
  obtain rfl : client = some c := hc
  refine Ends.during (r := stopped r) ?_ .ending
  rw [← List.append_nil t]
  refine Ends.next rfl (Ends.next rfl (Ends.bind h.attempt fun j' _ => ?_))
  rcases r with e | a
  · cases e
    case interrupted => exact Ends.after (.change _) fun j' _ => .fail _
    all_goals
      refine Ends.after (ends_note n _ j' _ _) fun j' _ => ?_
      exact Ends.after (.change _) fun j' _ => .pure ()
  · exact Ends.after (.change _) fun j' _ => .pure ()

/-- **A session with a client is shut down and has no subscribed topics, even if the client cannot
be disconnected.** -/
theorem ends_stop_of_client {c : Client} (hc : s.client = some c) :
    ∃ r t, Ends n s j stop r s.ended [.during .ending t (failure? r)] ∧ HangsUp c (callsIn t) ∧
      statusesIn t = [] := by
  obtain ⟨r, t, he, ht, hs⟩ := ends_hangUp n { s with link := s.link.move .shutdown } j c
  exact ⟨stopped r, t, ends_stop_of_hangUp n s j hc he, ht, hs⟩

/-! ## A small life -/

/-- A configuration without anything special. -/
def smallConfig : Config := ⟨"b", none, none, "c", 60, 0, "30.0", 1, 60, ⟨"b", 1883, false⟩⟩

/-- A session is started with one topic, and its client connects. -/
def smallStart : List Operation := [.start ["t"], .callback (.connected ⟨"Success", false⟩)]

end DeltaBridge.Session
