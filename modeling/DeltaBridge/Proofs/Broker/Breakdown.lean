import DeltaBridge.Proofs.Broker.Launch

/-!
# Breakdowns

What a start does before it waits goes wrong exactly when one of its calls does, also one that is made
in a callback. The start then fails as the broker does, the operator is told so last, and the link is
in error; if no call goes wrong, the start tells whether there is a connection. A stop ends the session
whatever becomes of its calls. Only an interruption goes on.

* `Faithful`: a result that fails exactly as a call in the trace, `Faithful.append`;
* `Session.Breaks`: an action on a client that fails so, `breaks_handle`; `ends_launch`;
* `Session.setOut`: what a start does before it waits, `ends_setOut`, `run_start_eq`;
* `Session.BreaksDown`, `Session.Settles`: how a start ends, `settles`;
* `Session.ShutsDown`: how a stop ends, `shutsDown`;
* **`failures_contained`**: every start and every stop ends so, `failures_contained_unheard`.
-/

namespace DeltaBridge

/-! ## Results and calls -/

/-- The result fails exactly as a call in the trace does. -/
def Faithful {α : Type} (r : Except Failure α) (t : List Deed) : Prop :=
  ∀ f, failure? r = some f ↔ ∃ x ∈ callsIn t, x.outcome.failure? = some f

namespace Faithful

variable {α β : Type} {r : Except Failure α} {t u : List Deed}

theorem of_ok (a : α) (h : callsIn t = []) : Faithful (.ok a) t := by
  intro f
  rw [h]
  simp [failure?]

theorem call (c : Client) (x : Call) (o : Outcome) :
    Faithful (Act.endOfCall o) [.made ⟨c, x, o⟩] := by
  intro f
  cases o <;> simp [Act.endOfCall, failure?, Outcome.failure?]

/-- What has gone well before does not matter. -/
theorem append {b : β} (h : Faithful (.ok b) t) (h' : Faithful r u) : Faithful r (t ++ u) := by
  intro f
  have ht : ¬∃ x ∈ callsIn t, x.outcome.failure? = some f := fun hx => by cases (h f).2 hx
  rw [h' f, callsIn_append]
  simp only [List.mem_append, or_and_right, exists_or, ht, false_or]

theorem error {e : Failure} (h : Faithful (.error e : Except Failure α) t) :
    Faithful (.error e : Except Failure β) t := h

theorem map (h : Faithful r t) (g : α → β) : Faithful (r.map g) t := by
  cases r <;> exact h

theorem during (h : Faithful r t) (o : Occasion) (f : Option Failure) :
    Faithful r [.during o t f] := by
  intro g
  rw [h g, callsIn_during]

theorem eq_error (h : Faithful r t) {x : CallRecord} {f : Failure} (hx : x ∈ callsIn t)
    (hf : x.outcome.failure? = some f) : r = .error f := by
  have hr := (h f).2 ⟨x, hx, hf⟩
  cases r with
  | ok a => cases hr
  | error e => rw [Option.some.inj hr]

theorem eq_ok (h : Faithful r t) (hx : ∀ x ∈ callsIn t, ∃ code, x.outcome = .returned code) :
    ∃ a, r = .ok a := by
  cases r with
  | ok a => exact ⟨a, rfl⟩
  | error e =>
    obtain ⟨x, hmem, hf⟩ := (h e).1 rfl
    obtain ⟨code, ho⟩ := hx x hmem
    rw [ho] at hf
    cases hf

end Faithful

namespace Session

open Act

/-! ## Actions on a client -/

/-- What an action leaves alone: the listener, and whether the link is shut down. -/
structure Undisturbed (s s' : Session) : Prop where
  listener : s'.listener = s.listener
  shutdown : s'.link = .shutdown ↔ s.link = .shutdown

theorem Undisturbed.refl (s : Session) : Undisturbed s s := ⟨rfl, .rfl⟩

theorem Undisturbed.trans {s s' s'' : Session} (h : Undisturbed s s') (h' : Undisturbed s' s'') :
    Undisturbed s s'' :=
  ⟨h'.listener.trans h.listener, h'.shutdown.trans h.shutdown⟩

/-- If the client is that of the session, each run of the action fails exactly as a call that it
makes, and the session keeps the client. -/
def Breaks (n : Network) (k : Client) {α : Type} (x : Act Session α) : Prop :=
  ∀ s j, s.client = some k → ∃ r s' t, Ends n s j x r s' t ∧ Faithful r t ∧
    s'.client = some k ∧ Undisturbed s s'

section Breaking

variable (n : Network) (k : Client)

theorem passes_breaks : Passes (fun {_} x => Breaks n k x) where
  pure a s j hs := ⟨_, s, [], .pure a, .of_ok a rfl, hs, .refl s⟩
  ofLogged x s j hs := ⟨_, s, [], .ofLogged x, .of_ok _ rfl, hs, .refl s⟩
  bind := by
    intro α β x f hx hf s j hs
    obtain ⟨r, s₁, t, ⟨j₁, hr, hj⟩, ht, hs₁, hu⟩ := hx s j hs
    rcases r with e | a
    · exact ⟨_, s₁, t, .bind_error ⟨j₁, hr, hj⟩, ht.error, hs₁, hu⟩
    · obtain ⟨r, s₂, u, hru, hfu, hs₂, hu'⟩ := hf a s₁ j₁ hs₁
      exact ⟨r, s₂, t ++ u, .seq hr hj hru, ht.append hfu, hs₂, hu.trans hu'⟩

variable {n k}

theorem Breaks.ofState {α : Type} {f : Session → Act Session α}
    (h : ∀ s, s.client = some k → Breaks n k (f s)) : Breaks n k (state >>= f) := by
  intro s j hs
  obtain ⟨r, s', t, he, hrest⟩ := h s hs s j hs
  exact ⟨r, s', t, .next rfl he, hrest⟩

theorem Breaks.change {f : Session → Session} (hc : ∀ s, (f s).client = s.client)
    (hu : ∀ s, Undisturbed s (f s)) : Breaks n k (change f) :=
  fun s _ hs => ⟨_, f s, [], .change f, .of_ok _ rfl, (hc s).trans hs, hu s⟩

theorem Breaks.during {α : Type} {x : Act Session α} (h : Breaks n k x) (o : Occasion) :
    Breaks n k (during o x) := by
  intro s j hs
  obtain ⟨r, s', t, he, hf, hrest⟩ := h s j hs
  exact ⟨r, s', _, he.during o, hf.during o _, hrest⟩

variable (n k)

theorem breaks_state : Breaks n k state :=
  fun s _ hs => ⟨_, s, [], .state, .of_ok s rfl, hs, .refl s⟩

theorem breaks_atStart : Breaks n k atStart :=
  fun s j hs => ⟨_, s, [], ⟨j, rfl, .refl j⟩, .of_ok _ rfl, hs, .refl s⟩

theorem breaks_tell (l : Listener) (status : Status) : Breaks n k (tell l status) :=
  fun s _ hs => ⟨_, s, _, .tell l status, .of_ok _ rfl, hs, .refl s⟩

theorem breaks_perform (x : Call) : Breaks n k (perform k x) :=
  fun s _ hs => ⟨_, s, _, .perform k x, .call k x _, hs, .refl s⟩

theorem breaks_moveTo {l : Link} (hl : l ≠ .shutdown) : Breaks n k (moveTo l) :=
  .change (fun _ => rfl) fun _ => ⟨rfl, by rw [Link.move_eq_shutdown_iff, or_iff_left hl]⟩

theorem breaks_forget : Breaks n k forget := .change (fun _ => rfl) fun _ => ⟨rfl, .rfl⟩

theorem breaks_announce (isError : Bool) (m : Text) : Breaks n k (announce isError m) :=
  (passes_breaks n k).announce (breaks_state n k) (breaks_tell n k) isError m

theorem breaks_callClient (x : Call) : Breaks n k (callClient x) := by
  have h := passes_breaks n k
  refine .ofState fun s hs => ?_
  rw [hs]
  exact h.bind (breaks_perform n k x) fun _ => h.pure ()

theorem breaks_subscribeAll : Breaks n k subscribeAll := by
  have h := passes_breaks n k
  refine .ofState fun s hs => ?_
  split
  · exact h.ofLogged _
  · rw [hs]
    refine h.bind (h.ofLogged _) fun _ => h.bind (breaks_perform n k _) fun code => ?_
    split
    · exact h.ofLogged _
    · exact .change (fun _ => rfl) fun _ => ⟨rfl, .rfl⟩

theorem breaks_respond (c : Callback) : Breaks n k (respond c) := by
  have h := passes_breaks n k
  cases c with
  | connected r =>
    show Breaks n k (onConnected r)
    unfold onConnected
    split
    · exact h.bind (breaks_moveTo n k (by simp)) fun _ => breaks_announce n k _ _
    · refine h.bind (breaks_moveTo n k (by simp)) fun _ => h.bind (breaks_state n k) fun s => ?_
      exact h.bind (breaks_announce n k _ _) fun _ => breaks_subscribeAll n k
  | connectFailed => exact h.bind (breaks_moveTo n k (by simp)) fun _ => breaks_announce n k _ _
  | disconnected r =>
    refine h.bind (breaks_forget n k) fun _ => h.bind (breaks_state n k) fun s => ?_
    split
    · exact h.pure ()
    · split
      · refine h.bind (h.ofLogged _) fun _ => h.bind (breaks_moveTo n k (by simp)) fun _ => ?_
        exact breaks_announce n k _ _
      · exact h.bind (breaks_moveTo n k (by simp)) fun _ => breaks_announce n k _ _
  | message topic payload =>
    refine h.bind (.change (fun _ => rfl) fun _ => ⟨rfl, .rfl⟩) fun _ => ?_
    exact h.ofLogged _
  | subscribed rs =>
    show Breaks n k (onSubscribed rs)
    unfold onSubscribed
    split <;> exact h.ofLogged _
  | noted severity text => exact h.ofLogged _

/-- **A callback fails exactly as a call that it makes.** -/
theorem breaks_handle (c : Callback) : Breaks n k (handle c) := (breaks_respond n k c).during _

theorem breaks_dialled (config : Config) :
    Breaks n k (do
      dial config k
      callClient .startLoop
      each handle (← atStart)) := by
  have h := passes_breaks n k
  refine h.bind ?_ fun _ => h.bind (breaks_callClient n k .startLoop) fun _ => ?_
  · refine h.bind (h.ready (fun x _ _ => breaks_perform n k x) config) fun _ => ?_
    exact h.bind (breaks_state n k) fun s => breaks_callClient n k _
  · exact h.bind (breaks_atStart n k) fun cs => h.each (breaks_handle n k) cs

end Breaking

/-! ## Before a start waits -/

variable (n : Network) (s : Session) (j : Journal)

/-- **A launch fails exactly as a call that it makes.** -/
theorem ends_launch :
    ∃ r s' t, Ends n s j launch r s' t ∧ Faithful r t ∧ Undisturbed s s' := by
  rw [launch_eq, openLoop_eq]
  simp only [bind_assoc]
  obtain ⟨j', hcreate, hj⟩ := Ends.create (n := n) (s := s) (j := j) s.config.clientId
  generalize j.calls.length = k at hcreate hj
  generalize n.answer j.calls k (.create s.config.clientId) = o at hcreate hj
  have hf : Faithful ((endOfCall o).map fun _ => k) [.made ⟨k, .create s.config.clientId, o⟩] :=
    (Faithful.call k _ o).map _
  cases o with
  | returned code =>
    obtain ⟨r, s', t, ht, hrf, _, hu⟩ := breaks_dialled n k s.config (s.owning k) j' rfl
    exact ⟨r, s', _, .next rfl (.seq hcreate hj (.next rfl ht)), hf.append hrf,
      hu.listener, hu.shutdown⟩
  | failed reason | interrupted =>
    exact ⟨_, s, _, .next rfl (.bind_error ⟨_, hcreate, hj⟩), hf.error, .refl s⟩

/-- What a start does before it waits. -/
def setOut (topics : TopicSet) : Act Session Unit := do
  want topics
  moveTo .connecting
  let address := (← state).config.address
  note .info ("Connecting to MQTT broker at " ++ address.host ++ ":" ++ natText address.port)
  launch

theorem ends_setOut (topics : TopicSet) :
    ∃ r s' t, Ends n s j (setOut topics) r s' t ∧ Faithful r t ∧ Undisturbed s s' := by
  obtain ⟨j₁, hr₁, hj₁⟩ := ends_want n s j topics
  obtain ⟨r, s', t, hl, hf, hu⟩ := ends_launch n (s.starting topics) (j₁.report _)
  refine ⟨r, s', _, .seq hr₁ hj₁ (.next rfl (.next rfl (.logged hl))),
    (Faithful.of_ok () rfl).append hf, hu.listener, hu.shutdown.trans ?_⟩
  show s.link.move .connecting = .shutdown ↔ s.link = .shutdown
  rw [Link.move_eq_shutdown_iff, or_iff_left (by simp)]

/-- A start sets out, and then does what follows from how that went. -/
theorem run_start_eq (topics : TopicSet) :
    (start topics).run n s j =
      ((settle ((setOut topics).run n s j).result).run n ((setOut topics).run n s j).state
        ((setOut topics).run n s j).journal).after ((setOut topics).run n s j).trace := by
  rw [start_eq, setOut]
  -- what `launch` does plays no part
  generalize launch = x
  simp only [want, moveTo, note, bind_assoc, run_bind, run_change, run_mark, run_state, run_ofLogged,
    run_attempt, Ended.after]
  rcases x.run n _ _ with ⟨e | a, s', j', t⟩ <;> simp

/-! ## Starts -/

theorem reports_announce (isError : Bool) (m : Text) :
    ∃ later, ((announce isError m).run n s j).journal.reports =
      j.reports ++ ⟨if isError then .error else .info, .broker, m⟩ :: later := by
  cases hl : s.listener with
  | none => exact ⟨[], by simp [announce, note, run_bind, hl, Journal.report]⟩
  | some l =>
    generalize hh : l j.statuses ⟨m, isError⟩ = heard
    rcases heard with ⟨reports, _ | reason⟩
    · exact ⟨reports, by simp [announce, note, run_bind, hl, hh, Journal.report]⟩
    · exact ⟨reports ++ [⟨.error, .broker, "Error in status callback: " ++ reason⟩],
        by simp [announce, note, run_bind, hl, hh, Journal.report]⟩

/-- A start of the session `s` has set out so, and then a call has failed for the given reason: the
start fails for that reason, the link is in error, and this is reported, and told last. -/
structure BreaksDown (s : Session) (out : Ended Session Unit) (reason : Text)
    (e : Ended Session Bool) : Prop where
  result : e.result = .error (.broker (.startFailed reason))
  link : e.state.link = .error
  notConnected : e.state.isConnected = false
  reported : ∃ later, e.journal.reports =
    out.journal.reports ++ ⟨.error, .broker, "Connection error: " ++ reason⟩ :: later
  told : s.listener.isSome = true →
    e.journal.statuses.getLast? = some ⟨"Connection error: " ++ reason, true⟩

theorem exists_settle_of_call (reason : Text) :
    ∃ j' later,
      (settle (.error (.call reason))).run n s j =
        ⟨.error (.broker (.startFailed reason)), { s with link := s.link.move .error }, j',
          toldTo s.listener ⟨"Connection error: " ++ reason, true⟩⟩ ∧
      j.Records (toldTo s.listener ⟨"Connection error: " ++ reason, true⟩) j' ∧
      j'.reports = j.reports ++ ⟨.error, .broker, "Connection error: " ++ reason⟩ :: later := by
  obtain ⟨j', hr, hj⟩ := ends_announce n { s with link := s.link.move .error } j true
    ("Connection error: " ++ reason)
  obtain ⟨later, hlater⟩ := reports_announce n { s with link := s.link.move .error } j true
    ("Connection error: " ++ reason)
  rw [hr] at hlater
  have hmove : (moveTo .error).run n s j = ⟨.ok (), { s with link := s.link.move .error }, j, []⟩ :=
    rfl
  refine ⟨j', later, ?_, hj, hlater⟩
  show (do
    moveTo .error
    announce true ("Connection error: " ++ reason)
    fail (.broker (.startFailed reason)) : Act Session Bool).run n s j = _
  rw [run_bind_of_ok n s j hmove, run_bind_of_ok n _ j hr]
  simp [Ended.after]

theorem breaksDown_settle {s₀ : Session} (hu : Undisturbed s₀ s) (hl : s₀.link ≠ .shutdown)
    (reason : Text) (t : List Deed) :
    BreaksDown s₀ ⟨.error (.call reason), s, j, t⟩ reason
      (((settle (.error (.call reason))).run n s j).after t) := by
  have hlink : s.link.move .error = .error := by
    have hne : s.link ≠ .shutdown := fun h => hl (hu.shutdown.1 h)
    cases h : s.link <;> first | rfl | exact absurd h hne
  obtain ⟨j', later, hr, hj, hlater⟩ := exists_settle_of_call n s j reason
  rw [hr]
  refine ⟨rfl, hlink, ?_, ⟨later, hlater⟩, fun htold => ?_⟩
  · show decide (s.link.move .error = .connected) = false
    rw [hlink]
    rfl
  · show j'.statuses.getLast? = _
    rw [hj.statuses, statusesIn_toldTo, hu.listener, if_pos htold, List.getLast?_concat]

/-- How a start of the session `s` ends that has set out so: it fails if a call has failed or was
interrupted, and otherwise tells whether there is a connection. -/
structure Settles (s : Session) (out : Ended Session Unit) (e : Ended Session Bool) : Prop where
  calls : ∃ later, callsIn e.trace = callsIn out.trace ++ later
  failed : s.link ≠ .shutdown → ∀ r ∈ callsIn out.trace, ∀ reason, r.outcome = .failed reason →
    BreaksDown s out reason e
  interrupted : ∀ r ∈ callsIn out.trace, r.outcome = .interrupted → e.result = .error .interrupted
  returned : (∀ r ∈ callsIn out.trace, ∃ code, r.outcome = .returned code) → ∃ b, e.result = .ok b

theorem settles (topics : TopicSet) :
    Settles s ((setOut topics).run n s j) ((start topics).run n s j) := by
  obtain ⟨r, s', t, ⟨j', hr, _⟩, hf, hu⟩ := ends_setOut n s j topics
  rw [run_start_eq, hr]
  refine ⟨⟨_, callsIn_append _ _⟩, fun hl x hx reason hreason => ?_, fun x hx hi => ?_, fun h => ?_⟩
  · obtain rfl := hf.eq_error hx (f := .call reason) (by rw [hreason]; rfl)
    exact breaksDown_settle n s' j' hu hl reason t
  · obtain rfl := hf.eq_error hx (f := .interrupted) (by rw [hi]; rfl)
    rfl
  · obtain ⟨⟨⟩, rfl⟩ := hf.eq_ok h
    obtain ⟨s'', u, ⟨j'', hrun, _⟩, _⟩ := ends_await n s' j' (n.waiting j'.calls)
    refine ⟨s''.isConnected, ?_⟩
    show ((await (n.waiting j'.calls)).run n s' j').result = _
    rw [hrun]

/-! ## Stops -/

theorem breaks_hangUp (k : Client) : Breaks n k (hangUp k) := by
  have h := passes_breaks n k
  refine h.bind (h.ofLogged _) fun _ => h.bind (breaks_perform n k _) fun _ => ?_
  exact h.bind (breaks_perform n k _) fun _ => h.pure ()

/-- How a stop of the session `s` with the client `k` ends: the session is shut down and has no
subscribed topics, and if the calls are not interrupted, the stop does not fail. -/
structure ShutsDown (s : Session) (k : Client) (e : Ended Session Unit) : Prop where
  calls : HangsUp k (callsIn e.trace)
  link : e.state.link = .shutdown
  subscribed : e.state.subscribed = ∅
  result : (∀ r ∈ callsIn e.trace, r.outcome ≠ .interrupted) → e.result = .ok ()

theorem stopped_eq_ok {r : Except Failure Unit} (h : r ≠ .error .interrupted) :
    stopped r = .ok () := by
  unfold stopped
  split
  · exact absurd rfl h
  · rfl

theorem shutsDown {k : Client} (hs : s.client = some k) : ShutsDown s k (stop.run n s j) := by
  obtain ⟨r, t, ⟨j', hr, hj⟩, ht, _⟩ := ends_hangUp n { s with link := s.link.move .shutdown } j k
  obtain ⟨r', s', t', ⟨j'', hr', _⟩, hf, _⟩ :=
    breaks_hangUp n k { s with link := s.link.move .shutdown } j hs
  rw [hr] at hr'
  cases hr'
  obtain ⟨_, hstop, _⟩ := ends_stop_of_hangUp n s j hs ⟨j', hr, hj⟩
  rw [hstop]
  refine ⟨by rwa [callsIn_during], rfl, rfl, fun hi => stopped_eq_ok fun hr => ?_⟩
  obtain ⟨x, hx, hfailed⟩ := (hf .interrupted).1 (by rw [hr]; rfl)
  rw [callsIn_during] at hi
  cases ho : x.outcome with
  | interrupted => exact hi x hx ho
  | returned code | failed reason =>
    rw [ho] at hfailed
    cases hfailed

/-! ## Starts and stops -/

/-- **A call that fails makes a start fail as the broker does, and no stop.** -/
theorem failures_contained :
    (∀ topics, Settles s ((setOut topics).run n s j) ((start topics).run n s j)) ∧
      ∀ k, s.client = some k → ShutsDown s k (stop.run n s j) :=
  ⟨settles n s j, fun _ => shutsDown n s j⟩

/-- A network where the client tells of a connection while its loop is started, and the topics cannot
be asked for. -/
def unheard : Network where
  answer _ _ x := match x with
    | .subscribe _ => .failed "not connected"
    | _ => .returned 0
  atStart _ := [.connected ⟨"Success", false⟩]
  waiting _ := []

/-- A session that is reconnecting and is started again there. -/
theorem failures_contained_unheard :
    ((start (.ofList ["t"])).run unheard
        { fresh smallConfig (some .reporting) with link := .reconnecting, client := some 0 }
        .empty).state.link = .error ∧
      ((start (.ofList ["t"])).run unheard
        { fresh smallConfig (some .reporting) with link := .reconnecting, client := some 0 }
        .empty).journal.statuses.getLast? =
          some ⟨"Connection error: not connected", true⟩ := by
  have h := ((failures_contained unheard
    { fresh smallConfig (some .reporting) with link := .reconnecting, client := some 0 }
    .empty).1 (.ofList ["t"])).failed (by simp) ⟨0, .subscribe [("t", 0)], .failed "not connected"⟩
    (List.mem_of_getElem? (i := 4) rfl) "not connected" rfl
  exact ⟨h.link, h.told rfl⟩

end Session

end DeltaBridge
