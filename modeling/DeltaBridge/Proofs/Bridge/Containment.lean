import DeltaBridge.Proofs.Bridge.Sending
import DeltaBridge.Proofs.Bridge.Turning
import DeltaBridge.Proofs.Sensor.Interpretation

/-!
# What a bridge withstands

A bridge that sends to a topic withstands what the broker answers: a start, a turn and the handling
of a message fail only if a call that publishes fails, or if the records of a message cannot be
shown or are nested too deep.

* `messageFault`, `Deed.fault`, `faultIn`: the faults of a trace, `Bridge.failure_of_faithful`;
* `Bridge.Tried`: what is done for a message, `Bridge.tried_of_handled`;
* `Bridge.ends_startUp`: how a bridge starts;
* `Bridge.Withstands`, **`Bridge.withstands`**: how a start, a message and a turn end;
* `Bridge.choosy`: a network that refuses some publications and fails others.
-/

namespace DeltaBridge

open Act

/-! ## Faults -/

/-- The fault of a message, by what was done for it: its records cannot be shown; or they are nested
too deep, and the operator was not told that there is no connection; or a publication fails. -/
def messageFault (i : Interpreter) (m : Text × Value) (parts : List Deed) : Option Failure :=
  match (i.interpret m.1 m.2).value with
  | .error e => some (.unshowable e)
  | .ok rs =>
    if writeError? rs = some .tooDeep ∧ statusesIn parts = [] then some (.unwritable .tooDeep)
    else failureIn parts

/-- The fault of a deed: that of the message in it, or a publication in it fails. -/
def Deed.fault (i : Interpreter) : Deed → Option Failure
  | .during (.message topic payload) parts _ => messageFault i (topic, payload) parts
  | d => failureIn [d]

theorem Deed.fault_of_works {i : Interpreter} {d : Deed} (h : d.works = false) :
    d.fault i = failureIn [d] := by
  cases d with
  | during o parts f =>
    cases o with
    | message _ _ | units _ => cases h
    | callback _ | ending | readings _ => rfl
  | made _ | told _ | wanted _ => rfl

/-- The first fault in a trace. -/
def faultIn (i : Interpreter) (t : List Deed) : Option Failure := t.findSome? (Deed.fault i)

theorem faultIn_eq {i : Interpreter} {t : List Deed} (h : ∀ d ∈ t, d.raised? = d.fault i) :
    t.findSome? Deed.raised? = faultIn i t := by
  induction t with
  | nil => rfl
  | cons d t ih =>
    rw [faultIn, List.findSome?_cons, List.findSome?_cons, h d List.mem_cons_self,
      ih fun x hx => h x (List.mem_cons_of_mem d hx)]
    rfl

theorem Outcome.failure?_of_ne {o : Outcome} (h : o ≠ .interrupted) :
    o.failure? = none ∨ ∃ reason, o.failure? = some (.call reason) := by
  cases o with
  | returned code => exact .inl rfl
  | failed reason => exact .inr ⟨reason, rfl⟩
  | interrupted => exact absurd rfl h

theorem Sink.Sent.failureIn_of_uninterrupted {n : Network} {k : Sink} {d : Option Text → Value}
    {retain : Bool} {r : Except Failure Unit} {t : List Deed} (h : Sent n d retain k r t)
    (hn : n.Uninterrupted) :
    failureIn t = none ∨ ∃ reason, failureIn t = some (.call reason) := by
  cases h with
  | reported _ => exact .inl rfl
  | unwritten _ => exact .inl rfl
  | published h =>
    cases h with
    | notConnected => exact .inl rfl
    | unwritten _ => exact .inl rfl
    | answered past c h =>
      rw [failureIn_made]
      exact Outcome.failure?_of_ne (hn past c _)

namespace Bridge

variable {n : Network} {i : Interpreter} {name : Text} {label : Option Text} {qos : Int}

/-! ## Messages -/

/-- What is done for a message on an uninterrupted network, and the failure of it: its records are
sent once, and if the broker does not take them the operator is told. The failure of a call is not
told, nor that of records nested too deep. -/
inductive Tried (i : Interpreter) (m : Text × Value) : List Deed → Option Failure → Prop
  | unshowable {e : ShowError} (h : (i.interpret m.1 m.2).value = .error e) :
    Tried i m [] (some (.unshowable e))
  | unbound {rs : List Record} (h : (i.interpret m.1 m.2).value = .ok rs)
    (hb : i.registry.bindingsFor m.1 = []) : Tried i m [] none
  | taken {rs : List Record} {sent : List Deed} (h : (i.interpret m.1 m.2).value = .ok rs)
    (hw : writeError? rs = none) (hs : failureIn sent = none) :
    Tried i m [.during (.readings rs) sent none] none
  | refused {rs : List Record} {sent : List Deed} (e : BrokerError)
    (h : (i.interpret m.1 m.2).value = .ok rs)
    (hw : writeError? rs = some .tooDeep → e = .notConnected) (hs : failureIn sent = none) :
    Tried i m [.during (.readings rs) sent (some (.broker e)), .told (deliveryStatus e)] none
  | failed {rs : List Record} {sent : List Deed} (reason : Text)
    (h : (i.interpret m.1 m.2).value = .ok rs) (hw : writeError? rs = none)
    (hs : failureIn sent = some (.call reason)) :
    Tried i m [.during (.readings rs) sent (some (.call reason))] (some (.call reason))
  | tooDeep {rs : List Record} (h : (i.interpret m.1 m.2).value = .ok rs)
    (hw : writeError? rs = some .tooDeep) :
    Tried i m [.during (.readings rs) [] (some (.unwritable .tooDeep))]
      (some (.unwritable .tooDeep))

theorem tried_of_handled (hn : n.Uninterrupted) {m : Text × Value} (hm : m.2.isWire = true)
    {r : Except Failure (List Record)} {parts : List Deed}
    (h : Handled n i (.topic name label qos) m.1 m.2 r parts) :
    Tried i m parts (failure? r) := by
  cases h with
  | unshowable h => exact .unshowable h
  | unbound h hb => exact .unbound h hb
  | offered h hb hs =>
    have hfails := hs.failureIn_of_uninterrupted hn
    cases hs.readings (Interpreter.plain_interpret hm h) with
    | notConnected => exact .refused .notConnected h (fun _ => rfl) rfl
    | flawed hw => exact .refused _ h (fun hd => by rw [hw] at hd; cases hd) rfl
    | tooDeep hw => exact .tooDeep h hw
    | called o hw hf =>
      cases o with
      | returned code =>
        by_cases hz : code = 0
        · rw [Session.resultOf, if_neg (by simpa using hz)]
          exact .taken h hw hf
        · rw [Session.resultOf, if_pos hz]
          exact .refused _ h (fun hd => by rw [hw] at hd; cases hd) hf
      | failed reason => exact .failed reason h hw hf
      | interrupted =>
        rw [hf] at hfails
        rcases hfails with hnone | ⟨_, hcall⟩
        · cases hnone
        · cases hcall

theorem fault_of_tried {topic : Text} {payload : Value} {parts : List Deed} {f : Option Failure}
    (h : Tried i (topic, payload) parts f) :
    Deed.fault i (.during (.message topic payload) parts f) = f := by
  show messageFault i (topic, payload) parts = f
  unfold messageFault
  cases h with
  | unshowable h => rw [h]
  | unbound h hb =>
    rw [Interpreter.interpret_of_unbound hb]
    rfl
  | taken h hw hs =>
    rw [h]
    simp [hw, hs]
  | refused e h hw hs =>
    rename_i rs sent
    have htold : statusesIn [.during (.readings rs) sent (some (.broker e)),
        .told (deliveryStatus e)] ≠ [] := by
      rw [← List.singleton_append, statusesIn_append, statusesIn_told]
      simp
    rw [h]
    dsimp only
    rw [if_neg fun hd => htold hd.2, ← List.singleton_append, failureIn_append, failureIn_during, hs]
    rfl
  | failed reason h hw hs =>
    rw [h]
    simp [hw, hs]
  | tooDeep h hw =>
    rw [h]
    exact if_pos ⟨hw, rfl⟩

/-! ## Traces -/

theorem failure_of_announced {r : Except Failure Unit} {t : List Deed}
    (h : Announced n i.registry (.topic name label qos) r t) :
    failure? (contained r) = failureIn t := by
  cases h with
  | nothing _ => rfl
  | offered _ hs => rw [hs.failure_units, failureIn_during]

/-- **A run of the work fails with the first fault in its trace.** -/
theorem failure_of_faithful (hn : n.Uninterrupted) {r : Except Failure Unit} {t : List Deed}
    (h : Faithful n i (.topic name label qos) r t)
    (hu : AnnouncedIn n i.registry (.topic name label qos) t)
    (hw : ∀ m ∈ handledIn t, m.2.isWire = true) :
    failure? r = faultIn i t ∧
      ∀ topic payload parts f, .during (.message topic payload) parts f ∈ t →
      Tried i (topic, payload) parts f := by
  have htried : ∀ topic payload parts f, .during (.message topic payload) parts f ∈ t →
      Tried i (topic, payload) parts f := by
    intro topic payload parts f hm
    obtain ⟨r, rfl, hh⟩ := h.handled _ _ _ _ hm
    exact tried_of_handled (m := (topic, payload)) hn (hw _ (mem_handledIn hm)) hh
  refine ⟨h.result.trans (faultIn_eq fun d hd => ?_), htried⟩
  rcases h.aside d hd with hworks | haside
  · cases d with
    | during o parts f =>
      cases o with
      | message topic payload => exact (fault_of_tried (htried _ _ _ _ hd)).symm
      | units ns =>
        obtain ⟨r, rfl, ha⟩ := hu _ _ _ hd
        rw [raised?_units, failure_of_announced ha]
        rfl
      | callback _ | ending | readings _ => cases hworks
    | made _ | told _ | wanted _ => cases hworks
  · rw [raised?_of_works haside.works, Deed.fault_of_works haside.works]
    exact haside.failure.symm

/-! ## Units -/

/-- What becomes of units that were tried in vain: after a failure of the broker they are pending,
and after a failure of the call they are as they were, and the run ends with that. -/
def Retries (before after : Bool) (result : Option Failure) (t : List Deed) : Prop :=
  ∀ ns parts g, .during (.units ns) parts (some g) ∈ t →
    (∃ e, g = .broker e) ∧ after = true ∨ (∃ reason, g = .call reason) ∧ result = some g ∧
      after = before

theorem retries_of_announced (hn : n.Uninterrupted) {before : Bool} {r : Except Failure Unit}
    {t : List Deed} (h : Announced n i.registry (.topic name label qos) r t) :
    Retries before (pendingAfter before r) (failure? (contained r)) t := by
  intro ns parts g hm
  cases h with
  | nothing _ => cases hm
  | offered _ hs =>
    rename_i sent
    have hg := List.mem_singleton.1 hm
    have hr : failure? r = some g := (Deed.during.inj hg).2.2.symm
    rcases hs.failureIn_of_uninterrupted hn with hnone | ⟨reason, hc⟩
    · rcases eq_of_contained (hs.failure_units.trans hnone) with rfl | ⟨e, rfl⟩
      · cases hr
      · cases hr
        exact .inl ⟨⟨e, rfl⟩, rfl⟩
    · obtain rfl := eq_call_of_contained (hs.failure_units.trans hc)
      cases hr
      exact .inr ⟨⟨reason, rfl⟩, rfl, rfl⟩

theorem Due.retries (hn : n.Uninterrupted) {b : Bridge} (hk : b.sink = .topic name label qos)
    {r : Except Failure Unit} {p : Bool} {t : List Deed} (h : Due n b r p t) :
    Retries b.unitsPending p (failure? r) t := by
  cases h with
  | idle _ =>
    intro ns parts g hm
    cases hm
  | tried _ ha =>
    rw [hk] at ha
    exact retries_of_announced hn ha

theorem Due.tries {b : Bridge} {r : Except Failure Unit} {p : Bool} {t : List Deed}
    (h : Due n b r p t) (hdue : (b.unitsPending && b.transport.isConnected) = true)
    (hne : b.registry.unitNotices ≠ []) :
    ∃ parts f, t = [.during (.units b.registry.unitNotices) parts f] := by
  cases h with
  | idle hidle =>
    rw [hidle] at hdue
    cases hdue
  | tried _ ha =>
    cases ha with
    | nothing hnil => exact absurd hnil hne
    | offered _ _ => exact ⟨_, _, rfl⟩

/-! ## The start of a bridge -/

section StartUp

variable (b : Bridge) (j : Journal)

theorem ends_connect (hn : n.Uninterrupted) :
    ∃ s t, Ends n b j connect (.ok ()) { b with transport := s } t ∧ ∀ d ∈ t, d.Aside := by
  rcases b with ⟨interpreter, sink, transport, running, pending⟩
  cases transport with
  | none =>
    refine ⟨none, [.told ⟨"MQTT disabled, not connecting", false⟩],
      Ends.next rfl ?_, by simpa using ⟨rfl, rfl⟩⟩
    exact Ends.bind (u := []) (.tell _ _) fun j _ => .pure ()
  | some s =>
    obtain ⟨r, s', t, he, ht, hf⟩ :=
      Session.ends_start n s j hn (.ofList interpreter.registry.topics)
    have ha := (ends_onTransport n (b := ⟨interpreter, sink, some s, running, pending⟩)
      (Transport.ends_use he)).attempt
    rcases r with f | c
    · obtain ⟨e, rfl⟩ := hf f rfl
      refine ⟨some s', t ++ [.told ⟨"Transport error: " ++ e.message, true⟩],
        Ends.next rfl (Ends.bind ha fun j _ => ?_),
        List.forall_mem_append.2 ⟨ht, by simpa using ⟨rfl, rfl⟩⟩⟩
      exact Ends.after (.ofLogged _) fun j _ => Ends.bind (u := []) (.tell _ _) fun j _ => .pure ()
    · refine ⟨some s', t, Ends.next rfl ?_, ht⟩
      rw [← List.append_nil t]
      exact Ends.bind ha fun j _ => .pure ()

theorem ends_each_noteTopic (es : List (Text × List Binding)) :
    Ends n b j (each noteTopic es) (.ok ()) b [] := by
  induction es generalizing j with
  | nil => exact .pure ()
  | cons e es ih => exact Ends.after (.ofLogged _) fun j _ => ih j

/-- **A start connects, and then announces the units.** Only a failure to announce them ends it. -/
theorem ends_startUp (hn : n.Uninterrupted) :
    ∃ s r t u, Ends n b j startUp (contained r)
        { b with transport := s, running := true, unitsPending := pendingAfter b.unitsPending r }
        (t ++ u) ∧
      (∀ d ∈ t, d.Aside) ∧ Announced n b.registry b.sink r u := by
  obtain ⟨j₁, hr₁, hj₁⟩ := ends_each_noteTopic (n := n) b
    (j.report (Logged.emit .info .bridge
      ("starting with " ++ natText b.registry.entries.length ++ " topic bindings")).reports)
        b.registry.entries
  obtain ⟨s, t, ⟨j₂, hr₂, hj₂⟩, ht⟩ := ends_connect { b with running := true } j₁ hn
  obtain ⟨r, u, hu, ha⟩ := ends_announce n { b with running := true, transport := s } j₂
  refine ⟨s, r, t, u, Ends.next rfl (Ends.logged (Ends.seq (t := []) (u := t ++ u) hr₁ hj₁ ?_)), ht,
    ha⟩
  exact Ends.next rfl (Ends.seq hr₂ hj₂ hu)

end StartUp

/-! ## Starts, messages and turns -/

/-- How something ends that a bridge does: with the first fault in its trace, if there is one. Until
then each message is dealt with as it should be, and units that the broker does not take are
pending. -/
structure Withstands {α : Type} (b : Bridge) (e : Ended Bridge α) : Prop where
  result : failure? e.result = faultIn b.interpreter e.trace
  tried : ∀ topic payload parts f, .during (.message topic payload) parts f ∈ e.trace →
    Tried b.interpreter (topic, payload) parts f
  retries : Retries b.unitsPending e.state.unitsPending (failure? e.result) e.trace

theorem withstands_startUp (hn : n.Uninterrupted) {b : Bridge} (hk : b.sink = .topic name label qos)
    (j : Journal) :
    Withstands b (startUp.run n b j) := by
  obtain ⟨s, r, t, u, ⟨j', hr, hj⟩, ht, ha⟩ := ends_startUp b j hn
  rw [hk] at ha
  have hserves :
    Serves n b.interpreter (.topic name label qos) [] (contained r) u [] := .of_announced ha
  have hfaithful := (Faithful.of_aside ht).append hserves.toFaithful
  have hmem :
    ∀ ns parts f, .during (.units ns) parts f ∈ t ++ u → .during (.units ns) parts f ∈ u := by
    intro ns parts f hm
    rcases List.mem_append.1 hm with hm | hm
    · cases (ht _ hm).works
    · exact hm
  have hnone : handledIn (t ++ u) = [] := by
    have htn :
      handledIn t = [] := List.filterMap_eq_nil_iff.2 fun d hd => handled?_of_works (ht d hd).works
    rw [handledIn_append, htn]
    cases ha <;> rfl
  obtain ⟨hres, htried⟩ := failure_of_faithful hn hfaithful
    (fun ns parts f hm => hserves.announced ns parts f (hmem _ _ _ hm)) (by simp [hnone])
  rw [hr]
  exact ⟨hres, htried, fun ns parts g hm => retries_of_announced hn ha ns parts g (hmem _ _ _ hm)⟩

theorem withstands_handleMessage (hn : n.Uninterrupted) {b : Bridge}
    (hk : b.sink = .topic name label qos) (j : Journal) {m : Text × Value}
    (hm : m.2.isWire = true) :
    Withstands b ((handleMessage m.1 m.2).run n b j) := by
  obtain ⟨r, parts, ⟨j', hr, hj⟩, hh⟩ := ends_handleMessage n b j m.1 m.2
  rw [hk] at hh
  have hhandles := Handles.message hh
  obtain ⟨hres, htried⟩ := failure_of_faithful hn hhandles.toFaithful
    (fun ns parts f hu => absurd hu (hhandles.units ns parts f)) fun x hx => by
      rw [List.mem_singleton.1 (hhandles.mem_of_mem_handledIn hx)]
      exact hm
  rw [hr]
  refine ⟨?_, htried, fun ns parts g hu => absurd hu (hhandles.units ns parts _)⟩
  rw [← hres]
  cases r <;> rfl

theorem withstands_turnAmid (hn : n.Uninterrupted) {b : Bridge} {s : Session}
    (hk : b.sink = .topic name label qos) (hb : b.transport = some s) (j : Journal)
    (cs : List Callback) (css : List (List Callback))
    (hw : ∀ m ∈ s.queue ++ messagesOf cs, m.2.isWire = true) :
    Withstands b ((turnAmid cs css).run n b j) := by
  obtain ⟨r, s', p, t, ⟨j', hr, hj⟩, ht⟩ := ends_turnAmid (n := n) hb j cs css
  obtain ⟨hserves, _, _⟩ := ht.serves
  rw [hk] at hserves
  have hwire : ∀ m ∈ handledIn t, m.2.isWire = true := by
    cases ht with
    | stuck hd => simp [hd.quiet.2]
    | worked hd ha hh hs =>
      intro m hm
      rw [handledIn_append, hd.quiet.2, List.nil_append] at hm
      exact hw m (hs.mem_of_mem_handledIn hm)
  obtain ⟨hres, htried⟩ := failure_of_faithful hn hserves.toFaithful hserves.announced hwire
  rw [hr]
  refine ⟨hres, htried, ?_⟩
  cases ht with
  | stuck hd => exact hd.retries hn hk
  | worked hd ha hh hs =>
    intro ns parts g hm
    rcases List.mem_append.1 hm with hm | hm
    · rcases hd.retries hn hk ns parts g hm with h | ⟨_, h, _⟩
      · exact .inl h
      · cases h
    · exact absurd hm (hs.units _ _ _)

theorem tries_turnAmid {b : Bridge} {s : Session} (hb : b.transport = some s) (j : Journal)
    (cs : List Callback) (css : List (List Callback)) (hp : b.unitsPending = true)
    (hc : s.isConnected = true) (hne : b.registry.unitNotices ≠ []) :
    ∃ parts f rest, ((turnAmid cs css).run n b j).trace =
      .during (.units b.registry.unitNotices) parts f :: rest := by
  obtain ⟨r, s', p, t, ⟨j', hr, hj⟩, ht⟩ := ends_turnAmid (n := n) hb j cs css
  have hdue : (b.unitsPending && b.transport.isConnected) = true := by
    rw [hp, hb]
    exact hc
  rw [hr]
  cases ht with
  | stuck hd =>
    obtain ⟨parts, f, rfl⟩ := hd.tries hdue hne
    exact ⟨parts, f, [], rfl⟩
  | worked hd ha hh hs =>
    rename_i t u
    obtain ⟨parts, f, rfl⟩ := hd.tries hdue hne
    exact ⟨parts, f, u, rfl⟩

theorem settles_serve {b : Bridge} {s : Session} (hb : b.transport = some s) (j : Journal)
    (es : List Event) :
    Settles b.registry b.unitsPending ((serve es).run n b j).state.unitsPending
      ((serve es).run n b j).trace := by
  obtain ⟨r, s', p, t, ⟨j', hr, hj⟩, h⟩ := ends_serve (n := n) hb j es
  rw [hr]
  exact h.settles

/-- So it is with the turn of the bridge itself, which is the one without callbacks. -/
theorem withstands_turn (hn : n.Uninterrupted) {b : Bridge} {s : Session}
    (hk : b.sink = .topic name label qos) (hb : b.transport = some s) (j : Journal)
    (hw : ∀ m ∈ s.queue, m.2.isWire = true) : Withstands b (turn.run n b j) := by
  have h := withstands_turnAmid hn hk hb j [] []
  rw [turnAmid_nil, messagesOf, List.filterMap_nil, List.append_nil] at h
  exact h hw

/-- **A bridge that sends to a topic fails only with a call that publishes and fails, or with a
message whose records cannot be shown or are nested too deep.** So it is with a start, with the
handling of a message and with a turn, which may have callbacks during it or none (`turnAmid_nil`),
whatever else the network answers. Units that are pending stay so, in any run, until they are
announced and the broker takes them, and a turn with a connection tries to announce them. -/
theorem withstands (hn : n.Uninterrupted) {b : Bridge} (hk : b.sink = .topic name label qos)
    (j : Journal) :
    Withstands b (startUp.run n b j) ∧
      (∀ m : Text × Value, m.2.isWire = true → Withstands b ((handleMessage m.1 m.2).run n b j)) ∧
      ∀ s, b.transport = some s →
        (∀ es, Settles b.registry b.unitsPending ((serve es).run n b j).state.unitsPending
          ((serve es).run n b j).trace) ∧
        ∀ cs css, (∀ m ∈ s.queue ++ messagesOf cs, m.2.isWire = true) →
          Withstands b ((turnAmid cs css).run n b j) ∧
            (b.unitsPending = true → s.isConnected = true → b.registry.unitNotices ≠ [] →
              ∃ parts f rest, ((turnAmid cs css).run n b j).trace =
                .during (.units b.registry.unitNotices) parts f :: rest) :=
  ⟨withstands_startUp hn hk j, fun _ hm => withstands_handleMessage hn hk j hm, fun _ hb =>
    ⟨settles_serve hb j, fun cs css hw =>
      ⟨withstands_turnAmid hn hk hb j cs css hw, tries_turnAmid hb j cs css⟩⟩⟩

/-- The reason for which a publication to a topic with a wildcard fails. -/
def wildcardReason : Text := "Publish topic cannot contain wildcards."

/-- A network where a publication to a topic with a wildcard fails, and any other one is refused. -/
def choosy : Network where
  answer _ _
    | .publish topic _ _ _ => if 0x23 ∈ topic then .failed wildcardReason else .returned 4
    | _ => .returned 0
  atStart _ := []
  waiting _ := []

/-- The end of a turn of the small bridge in which a message arrives, for a topic to send to. -/
def smallTurn (name : Text) : Ended Bridge Unit :=
  (turnAmid [.message smallMessage.1 smallMessage.2] []).run choosy (small (.topic name none 0))
    .empty

/-- A refused message is told to the operator, and the turn goes on; a publication that fails ends
the turn. -/
theorem small_withstands :
    Withstands (small (.topic "d" none 0))
        (startUp.run choosy (small (.topic "d" none 0)) .empty) ∧
      Withstands (small (.topic "d" none 0))
        ((handleMessage smallMessage.1 smallMessage.2).run choosy (small (.topic "d" none 0))
          .empty) ∧
      Withstands (small (.topic "d" none 0)) (smallTurn "d") ∧
      (smallTurn "d").result = .ok () ∧
      (smallTurn "d").journal.statuses = [deliveryStatus (.refused "d" 4)] ∧
      Withstands (small (.topic "d/#" none 0)) (smallTurn "d/#") ∧
      (smallTurn "d/#").result = .error (.call wildcardReason) := by
  have hn : choosy.Uninterrupted := by
    intro past c call
    cases call
    case publish topic payload qos retain =>
      show (if 0x23 ∈ topic then Outcome.failed wildcardReason else .returned 4) ≠ .interrupted
      split <;> exact Outcome.noConfusion
    all_goals exact Outcome.noConfusion
  obtain ⟨hstart, hmessage, hrefused⟩ := withstands hn (b := small (.topic "d" none 0)) rfl .empty
  obtain ⟨-, -, hfailed⟩ := withstands hn (b := small (.topic "d/#" none 0)) rfl .empty
  obtain ⟨-, hrefused⟩ := hrefused smallSession rfl
  obtain ⟨-, hfailed⟩ := hfailed smallSession rfl
  exact ⟨hstart, hmessage smallMessage rfl, (hrefused _ [] (by decide)).1, rfl, rfl,
    (hfailed _ [] (by decide)).1, rfl⟩

end Bridge

end DeltaBridge
