import DeltaBridge.Proofs.Bridge.Sending
import DeltaBridge.Proofs.Bridge.Turning
import DeltaBridge.Proofs.Sensor.Interpretation

/-!
# From the broker to a topic

A bridge that sends to a topic handles each message that arrives once, in the order of arrival, as
long as none fails. A message whose records cannot be shown, or are nested too deep, ends the run.

* `Network.Answers`: the network answers each publication with a code;
* `Bridge.Exactly`: what is done for a message, `Bridge.exactly_of_handled`;
* **`Bridge.serve_in_order`**: what any run does with all that arrives.
-/

namespace DeltaBridge

open Act

/-- Each publication is answered with a code. -/
def Network.Answers (n : Network) : Prop :=
  ∀ past c topic payload qos retain, ∃ code, n.answer past c (.publish topic payload qos retain) =
    .returned code

theorem Sink.Sent.failureIn_of_answers {n : Network} {k : Sink} {d : Option Text → Value}
    {retain : Bool} {r : Except Failure Unit} {t : List Deed} (h : Sent n d retain k r t)
    (hn : n.Answers) :
    failureIn t = none := by
  cases h with
  | reported _ => rfl
  | unwritten _ => rfl
  | published h =>
    cases h with
    | notConnected => rfl
    | unwritten _ => rfl
    | answered past c h =>
      obtain ⟨code, hc⟩ := hn past c _ _ _ _
      rw [hc]
      rfl

namespace Bridge

/-- What is done for a message, and the failure of it. Nothing is done for a message that cannot be
shown, nor for one whose topic has no bindings. Else its records are sent once, and the operator is
told once if the broker does not take them. Records nested too deep are never taken, and with a
connection they fail otherwise. -/
inductive Exactly (i : Interpreter) (m : Text × Value) : List Deed → Option Failure → Prop
  | unshowable {e : ShowError} (h : (i.interpret m.1 m.2).value = .error e) :
    Exactly i m [] (some (.unshowable e))
  | unbound {rs : List Record} (h : (i.interpret m.1 m.2).value = .ok rs)
    (hb : i.registry.bindingsFor m.1 = []) : Exactly i m [] none
  | taken {rs : List Record} {sent : List Deed} (h : (i.interpret m.1 m.2).value = .ok rs)
    (hb : i.registry.bindingsFor m.1 ≠ []) (hw : writeError? rs = none) :
    Exactly i m [.during (.readings rs) sent none] none
  | refused {rs : List Record} {sent : List Deed} (e : BrokerError)
    (h : (i.interpret m.1 m.2).value = .ok rs) (hb : i.registry.bindingsFor m.1 ≠ [])
    (hw : writeError? rs = some .tooDeep → e = .notConnected) :
    Exactly i m
      [.during (.readings rs) sent (some (.broker e)), .told (deliveryStatus e)] none
  | tooDeep {rs : List Record} (h : (i.interpret m.1 m.2).value = .ok rs)
    (hb : i.registry.bindingsFor m.1 ≠ []) (hw : writeError? rs = some .tooDeep) :
    Exactly i m [.during (.readings rs) [] (some (.unwritable .tooDeep))]
      (some (.unwritable .tooDeep))

variable {n : Network} {i : Interpreter} {name : Text} {label : Option Text} {qos : Int}

theorem exactly_of_handled (hn : n.Answers) {m : Text × Value} (hm : m.2.isWire = true)
    {r : Except Failure (List Record)} {parts : List Deed}
    (h : Handled n i (.topic name label qos) m.1 m.2 r parts) :
    Exactly i m parts (failure? r) := by
  cases h with
  | unshowable h => exact .unshowable h
  | unbound h hb => exact .unbound h hb
  | offered h hb hs =>
    have hanswered := hs.failureIn_of_answers hn
    cases hs.readings (Interpreter.plain_interpret hm h) with
    | notConnected => exact .refused .notConnected h hb fun _ => rfl
    | flawed hw => exact .refused _ h hb fun hd => by rw [hw] at hd; cases hd
    | tooDeep hw => exact .tooDeep h hb hw
    | called o hw hf =>
      rw [hanswered] at hf
      cases o with
      | returned code =>
        by_cases hz : code = 0
        · rw [Session.resultOf, if_neg (by simpa using hz)]
          exact .taken h hb hw
        · rw [Session.resultOf, if_pos hz]
          exact .refused _ h hb fun hd => by rw [hw] at hd; cases hd
      | failed _ | interrupted => cases hf

/-- The fault of a message: its records cannot be shown, or they are nested too deep. -/
def faultOf (i : Interpreter) (m : Text × Value) : Option Failure :=
  match (i.interpret m.1 m.2).value with
  | .error e => some (.unshowable e)
  | .ok rs => if writeError? rs = some .tooDeep then some (.unwritable .tooDeep) else none

theorem faultOf_of_exactly {m : Text × Value} {parts : List Deed} {f : Failure}
    (h : Exactly i m parts (some f)) : faultOf i m = some f := by
  unfold faultOf
  cases h with
  | unshowable h => rw [h]
  | tooDeep h hb hw =>
    rw [h]
    exact if_pos hw

theorem contained_of_announced (hn : n.Answers) {r : Except Failure Unit} {t : List Deed}
    (h : Announced n i.registry (.topic name label qos) r t) : failure? (contained r) = none := by
  cases h with
  | nothing _ => rfl
  | offered _ hs => rw [hs.failure_units, hs.failureIn_of_answers hn]

theorem raised?_of_announcedIn (hn : n.Answers) {t : List Deed}
    (h : AnnouncedIn n i.registry (.topic name label qos) t) (ns : List UnitNotice)
    (parts : List Deed) (f : Option Failure) (hm : .during (.units ns) parts f ∈ t) :
    Deed.raised? (.during (.units ns) parts f) = none := by
  obtain ⟨r, rfl, ha⟩ := h ns parts f hm
  rw [raised?_units, contained_of_announced hn ha]

theorem Due.eq_ok_of_answers (hn : n.Answers) {b : Bridge} (hk : b.sink = .topic name label qos)
    {r : Except Failure Unit} {p : Bool} {t : List Deed} (h : Due n b r p t) : r = .ok () := by
  cases h with
  | idle _ => rfl
  | tried _ ha =>
    rw [hk] at ha
    rcases eq_of_contained (contained_of_announced hn ha) with h | ⟨e, h⟩
    · rw [h]
      rfl
    · rw [h]
      rfl

theorem exactly_of_served (hn : n.Answers) {b : Bridge} {s s' : Session}
    (hk : b.sink = .topic name label qos) {es : List Event} {r : Except Failure Unit} {p : Bool}
    {t : List Deed} (h : Served n b s es r s' p t)
    (hw : ∀ m ∈ s.queue ++ es.flatMap Event.messages, m.2.isWire = true) (topic : Text)
    (payload : Value) (parts : List Deed) (f : Option Failure)
    (hm : .during (.message topic payload) parts f ∈ t) :
    Exactly b.interpreter (topic, payload) parts f := by
  have hwire : payload.isWire = true := by
    rcases List.mem_append.1 (h.serves.mem_due (mem_handledIn hm)) with hm | hm
    · exact hw (topic, payload) (List.mem_append_left _ hm)
    · exact hw (topic, payload) (List.mem_append_right _ (h.early.subset hm))
  obtain ⟨r, rfl, hh⟩ := h.serves.handled _ _ _ _ hm
  rw [hk] at hh
  exact exactly_of_handled (m := (topic, payload)) hn hwire hh

/-- **All that arrives is handled once and in order, up to the first message that fails.** A run
without such a message hears all callbacks, and leaves in the queue what was told after the last
turn emptied it. A run with one ends in the turn that handles it, with the fault of that message:
what that turn took from the queue with it and comes after it is lost, and what was told later in
the turn stays in the queue. The turn of the bridge is the one without callbacks
(`Event.act_turn_nil`). -/
theorem serve_in_order (hn : n.Answers) {b : Bridge} {s : Session}
    (hk : b.sink = .topic name label qos) (hb : b.transport = some s) (j : Journal)
    (es : List Event) (hw : ∀ m ∈ s.queue ++ es.flatMap Event.messages, m.2.isWire = true) :
    ∃ s', ((serve es).run n b j).state.transport = some s' ∧
      (∀ topic payload parts f,
        .during (.message topic payload) parts f ∈ ((serve es).run n b j).trace →
        Exactly b.interpreter (topic, payload) parts f) ∧
      (((serve es).run n b j).result = .ok () ∧
          arrivedIn ((serve es).run n b j).trace = es.flatMap Event.messages ∧
          handledIn ((serve es).run n b j).trace ++ s'.queue =
            s.queue ++ es.flatMap Event.messages ∧
          s'.queue = queueAfter s.queue es ∧
          (∀ topic payload parts f,
            .during (.message topic payload) parts f ∈ ((serve es).run n b j).trace → f = none) ∨
        ∃ f before cs css after past m parts lost,
          ((serve es).run n b j).result = .error f ∧ faultOf b.interpreter m = some f ∧
            es = before ++ .turn cs css :: after ∧
            arrivedIn ((serve es).run n b j).trace =
              before.flatMap Event.messages ++ messagesOf cs ++ s'.queue ∧
            handledIn ((serve es).run n b j).trace ++ lost =
              s.queue ++ before.flatMap Event.messages ++ messagesOf cs ∧
            ((serve es).run n b j).trace =
              past ++ [.during (.message m.1 m.2) parts (some f)] ∧
            ∀ topic payload parts g, .during (.message topic payload) parts g ∈ past →
              g = none) := by
  obtain ⟨r, s', p, t, ⟨j', hr, hj⟩, hserved⟩ := ends_serve (n := n) hb j es
  rw [hr]
  have hex := exactly_of_served hn hk hserved hw
  have hannounced := hserved.serves.announced
  rw [hk] at hannounced
  refine ⟨s', rfl, hex, ?_⟩
  have hfaithful := hserved.serves.toFaithful
  cases hserved with
  | through h =>
    exact .inl ⟨rfl, h.heard, h.account, h.queue,
      fun topic payload parts f hm => hfaithful.raises_nothing _ hm⟩
  | broken he h hturn =>
    rename_i before after cs css f s₁ p₁ t u
    obtain ⟨past, m, parts, ht, hpast⟩ :=
      hfaithful.last_message (raised?_of_announcedIn hn hannounced)
    have hm : faultOf b.interpreter m = some f :=
      faultOf_of_exactly (hex m.1 m.2 parts _ (by rw [ht]; simp))
    have hk' : (b.working s₁ p₁).sink = .topic name label qos := hk
    cases hturn with
    | stuck hd => cases hd.eq_ok_of_answers hn hk'
    | worked hd ha hh hturned =>
      rename_i v u
      obtain ⟨lost, hl, _⟩ := hturned.lost
      refine .inr ⟨f, before, cs, css, after, past, m, parts, lost, rfl, hm, he, ?_, ?_, ht,
        fun topic payload parts g hg => hpast _ hg⟩
      · rw [arrivedIn_append, arrivedIn_append, hd.quiet.1, List.nil_append, h.heard, ha,
          List.append_assoc]
      · calc handledIn (t ++ (v ++ u)) ++ lost = handledIn t ++ (handledIn u ++ lost) := by
              rw [handledIn_append, handledIn_append, hd.quiet.2, List.nil_append,
                List.append_assoc]
          _ = (handledIn t ++ s₁.queue) ++ messagesOf cs := by rw [hl, List.append_assoc]
          _ = s.queue ++ before.flatMap Event.messages ++ messagesOf cs := by rw [h.account]

/-- A run in which one message arrives and is handled, on a network that takes all publications. -/
def smallRun : Ended Bridge Unit :=
  (serve [.callback (.message smallMessage.1 smallMessage.2), .turn [] []]).run .silent
    (small (.topic "d" none 0)) .empty

theorem smallRun_in_order :
    ∃ s', smallRun.state.transport = some s' ∧ s'.queue = [] ∧
      handledIn smallRun.trace = [smallMessage] := by
  obtain ⟨s', hs, _, h⟩ := serve_in_order (n := .silent) (fun _ _ _ _ _ _ => ⟨0, rfl⟩)
    (b := small (.topic "d" none 0)) rfl rfl .empty
    [.callback (.message smallMessage.1 smallMessage.2), .turn [] []] (by decide)
  refine ⟨s', hs, ?_⟩
  rcases h with ⟨_, _, ha, hq, _⟩ | ⟨f, _, _, _, _, _, _, _, _, hr, _⟩
  · rw [hq] at ha
    have ha : handledIn smallRun.trace ++ [] = [smallMessage] := ha
    exact ⟨hq, by simpa using ha⟩
  · have hok : smallRun.result = .ok () := rfl
    cases hok.symm.trans hr

end Bridge

end DeltaBridge
