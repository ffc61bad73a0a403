import DeltaBridge.Proofs.Bridge.Delivery
import DeltaBridge.Proofs.Broker.Starting

/-!
# A bridge at work

Turns of a bridge, with callbacks of clients at any time: before, between and during the turns. What
a turn takes from the queue is handled in its order.

* `Bridge.hear`, `Bridge.turnAmid`: callbacks, and a turn among them, `turnAmid_nil`;
* `Bridge.Event`, `Bridge.serve`: runs of callbacks and turns, `Event.act_turn_nil`;
* `Bridge.Faithful`: the failures of a run are those of its last deed, `Faithful.last_message`,
  `Faithful.reach`;
* `Bridge.Handles`, `Bridge.Hears`: what is done with messages, and which arrive meanwhile;
* `ends_handleAmid`, **`ends_takeAll`**: how messages are handled among callbacks.
-/

namespace DeltaBridge

open Act

/-- The failure with which the handling of a message or the announcement of units ends the work of a
bridge; that the broker does not take the units does not end it. -/
def Deed.raised? : Deed → Option Failure
  | .during (.message _ _) _ f => f
  | .during (.units _) _ (some (.broker _)) => none
  | .during (.units _) _ f => f
  | _ => none

namespace Bridge

/-! ## Turns among callbacks -/

/-- Clients tell something, and nobody waits for the end of it. -/
def hear (cs : List Callback) : Act Bridge Unit :=
  each (fun c => onSession (Session.handleAside c)) cs

/-- Handles messages. Before each one clients tell the next group of things, and at the end what is
left. -/
def handleAmid : List (List Callback) → List (Text × Value) → Act Bridge Unit
  | css, [] => each hear css
  | css, m :: ms => do
    hear (css.headD [])
    handleQueued m
    handleAmid css.tail ms

/-- Announces the units if they are pending and there is a connection. -/
def announceDue : Act Bridge Unit := do
  let b ← state
  if b.unitsPending && b.transport.isConnected then announce

/-- Handles all that has arrived, with what clients tell before the queue is emptied and after
that. -/
def takeAll (cs : List Callback) (css : List (List Callback)) : Act Bridge Unit := do
  hear cs
  handleAmid css (← onSession Session.drain)

/-- A turn, with callbacks during it. -/
def turnAmid (cs : List Callback) (css : List (List Callback)) : Act Bridge Unit := do
  announceDue
  takeAll cs css

theorem handleAmid_nil (ms : List (Text × Value)) : handleAmid [] ms = each handleQueued ms := by
  induction ms with
  | nil => rfl
  | cons m ms ih =>
    rw [handleAmid, List.tail_nil, ih]
    rfl

/-- Without callbacks it is the turn of the bridge. -/
theorem turnAmid_nil : turnAmid [] [] = turn := by
  funext n b j
  unfold turnAmid turn announceDue takeAll
  simp only [handleAmid_nil]
  show ((if b.unitsPending && b.transport.isConnected then announce else pure ()) >>= fun _ =>
    (onSession Session.drain >>= each handleQueued)) n b j =
      (if b.unitsPending && b.transport.isConnected then
      announce >>= fun _ => onSession Session.drain >>= each handleQueued
      else onSession Session.drain >>= each handleQueued) n b j
  split <;> rfl

/-- What happens to a bridge that runs. -/
inductive Event where
  | callback (c : Callback)
  /-- A turn, with callbacks during it. -/
  | turn (cs : List Callback) (css : List (List Callback))

/-- The messages among some callbacks. -/
def messagesOf (cs : List Callback) : List (Text × Value) := cs.filterMap Callback.message?

/-- The messages that clients tell of during an event. -/
def Event.messages : Event → List (Text × Value)
  | callback c => messagesOf [c]
  | turn cs css => messagesOf cs ++ messagesOf css.flatten

/-- What is in the queue after some events, if none fails: a turn leaves what was told after it
emptied the queue. -/
def queueAfter (queue : List (Text × Value)) : List Event → List (Text × Value)
  | [] => queue
  | .callback c :: es => queueAfter (queue ++ messagesOf [c]) es
  | .turn _ css :: es => queueAfter (messagesOf css.flatten) es

/-- What an event does. -/
def Event.act : Event → Act Bridge Unit
  | callback c => hear [c]
  | turn cs css => turnAmid cs css

/-- A turn without callbacks is the turn of the bridge. -/
theorem Event.act_turn_nil : (Event.turn [] []).act = Bridge.turn := turnAmid_nil

/-- The bridge at work. A turn that fails ends it. -/
def serve (es : List Event) : Act Bridge Unit := each Event.act es

/-! ## Faithful runs -/

section Traces

variable {n : Network} {i : Interpreter} {k : Sink} {r : Except Failure Unit} {t u : List Deed}

/-- Each message in the trace is handled as the interpreter and the sink say. -/
def HandledIn (n : Network) (i : Interpreter) (k : Sink) (t : List Deed) : Prop :=
  ∀ topic payload parts f, .during (.message topic payload) parts f ∈ t →
    ∃ r, f = failure? r ∧ Handled n i k topic payload r parts

/-- The messages of a trace are handled as the interpreter and the sink say, and a failure of the
run is that of its last deed. -/
structure Faithful (n : Network) (i : Interpreter) (k : Sink) (r : Except Failure Unit)
    (t : List Deed) : Prop where
  handled : HandledIn n i k t
  aside : ∀ d ∈ t, d.works = true ∨ d.Aside
  result : failure? r = t.findSome? Deed.raised?
  last : ∀ before d after, t = before ++ d :: after → d.raised?.isSome = true → after = []

theorem eq_of_raised? {d : Deed} {f : Failure} (h : d.raised? = some f) :
    (∃ topic payload parts, d = .during (.message topic payload) parts (some f)) ∨
      ∃ ns parts g, d = .during (.units ns) parts g := by
  cases d with
  | during o parts g =>
    cases o with
    | message topic payload => exact .inl ⟨topic, payload, parts, by rw [show g = some f from h]⟩
    | units ns => exact .inr ⟨ns, parts, g, rfl⟩
    | callback _ | ending | readings _ => cases h
  | made _ | told _ | wanted _ => cases h

theorem raised?_of_works {d : Deed} (h : d.works = false) : d.raised? = none := by
  cases d with
  | during o parts f =>
    cases o with
    | message _ _ | units _ => cases h
    | callback _ | ending | readings _ => rfl
  | made _ | told _ | wanted _ => rfl

theorem handled?_of_works {d : Deed} (h : d.works = false) : d.handled? = none := by
  cases d with
  | during o parts f =>
    cases o with
    | message _ _ | units _ => cases h
    | callback _ | ending | readings _ => rfl
  | made _ | told _ | wanted _ => rfl

theorem raised?_units (ns : List UnitNotice) (t : List Deed) (r : Except Failure Unit) :
    Deed.raised? (.during (.units ns) t (failure? r)) = failure? (contained r) := by
  rcases r with f | ⟨⟩
  · cases f <;> rfl
  · rfl

theorem mem_handledIn {topic : Text} {payload : Value} {parts : List Deed} {f : Option Failure}
    (h : .during (.message topic payload) parts f ∈ t) : (topic, payload) ∈ handledIn t :=
  List.mem_filterMap.2 ⟨_, h, rfl⟩

theorem exists_of_mem_handledIn {m : Text × Value} (h : m ∈ handledIn t) :
    ∃ parts f, .during (.message m.1 m.2) parts f ∈ t := by
  obtain ⟨d, hd, hm⟩ := List.mem_filterMap.1 h
  unfold Deed.handled? at hm
  split at hm
  · cases hm
    exact ⟨_, _, hd⟩
  · cases hm

namespace Faithful

theorem nil : Faithful n i k (.ok ()) [] := ⟨by simp [HandledIn], by simp, rfl, by simp⟩

theorem single {d : Deed} (hd : HandledIn n i k [d]) (ha : d.works = true ∨ d.Aside)
    (hr : failure? r = d.raised?) :
    Faithful n i k r [d] := by
  refine ⟨hd, ?_, by rw [hr, List.findSome?_singleton], ?_⟩
  · intro x hx
    cases List.mem_singleton.1 hx
    exact ha
  · intro before x after h _
    cases before with
    | nil => exact (List.cons.inj h).2.symm
    | cons y ys => simp at h

theorem of_aside (h : ∀ d ∈ t, d.Aside) : Faithful n i k (.ok ()) t := by
  have hnone : t.findSome? Deed.raised? = none :=
    List.findSome?_eq_none_iff.2 fun d hd => raised?_of_works (h d hd).works
  refine ⟨?_, fun d hd => .inr (h d hd), hnone.symm, ?_⟩
  · intro topic payload parts f hm
    cases (h _ hm).works
  · intro before d after ht hd
    rw [List.findSome?_eq_none_iff.1 hnone d (by rw [ht]; simp)] at hd
    cases hd

theorem append (ht : Faithful n i k (.ok ()) t) (hu : Faithful n i k r u) :
    Faithful n i k r (t ++ u) := by
  have hn : t.findSome? Deed.raised? = none := ht.result.symm
  refine ⟨?_, ?_, ?_, ?_⟩
  · intro topic payload parts f hm
    rcases List.mem_append.1 hm with hm | hm
    · exact ht.handled _ _ _ _ hm
    · exact hu.handled _ _ _ _ hm
  · intro d hd
    rcases List.mem_append.1 hd with hd | hd
    · exact ht.aside d hd
    · exact hu.aside d hd
  · rw [List.findSome?_append, hn, Option.none_or]
    exact hu.result
  · intro before d after h hd
    have hnot : d ∉ t := by
      intro hm
      rw [List.findSome?_eq_none_iff.1 hn d hm] at hd
      cases hd
    rcases List.append_eq_append_iff.1 h with ⟨as, rfl, rfl⟩ | ⟨cs, rfl, h'⟩
    · exact hu.last as d after rfl hd
    · cases cs with
      | nil => exact hu.last [] d after h'.symm hd
      | cons c cs =>
        obtain ⟨rfl, _⟩ := List.cons.inj h'
        exact absurd (by simp) hnot

/-- **A run that fails ends with the handling of a message**, if units raise nothing. -/
theorem last_message {f : Failure} (h : Faithful n i k (.error f) t)
    (hu : ∀ ns parts f, .during (.units ns) parts f ∈ t →
      Deed.raised? (.during (.units ns) parts f) = none) :
    ∃ (past : List Deed) (m : Text × Value) (parts : List Deed),
      t = past ++ [.during (.message m.1 m.2) parts (some f)] ∧
      ∀ d ∈ past, d.raised? = none := by
  obtain ⟨past, d, after, ht, hd, hpast⟩ := List.findSome?_eq_some_iff.1 h.result.symm
  obtain rfl : after = [] := h.last past d after ht (by rw [hd]; rfl)
  rcases eq_of_raised? hd with ⟨topic, payload, parts, rfl⟩ | ⟨ns, parts, g, rfl⟩
  · exact ⟨past, (topic, payload), parts, ht, hpast⟩
  · rw [hu _ _ _ (by rw [ht]; simp)] at hd
    cases hd

theorem raises_nothing (h : Faithful n i k (.ok ()) t) : ∀ d ∈ t, d.raised? = none :=
  List.findSome?_eq_none_iff.1 h.result.symm

/-- **A run goes up to the first message with a fault, and ends with that.** -/
theorem reach (h : Faithful n i k r t) {fault : Text × Value → Option Failure}
    (hm : ∀ topic payload parts f, .during (.message topic payload) parts f ∈ t →
      f = fault (topic, payload))
    (hu : ∀ ns parts f, .during (.units ns) parts f ∈ t →
      Deed.raised? (.during (.units ns) parts f) = none) :
    (r = .ok () ∧ ∀ m ∈ handledIn t, fault m = none) ∨
      ∃ f done m, r = .error f ∧ handledIn t = done ++ [m] ∧ (∀ x ∈ done, fault x = none) ∧
        fault m = some f := by
  have hnone :
    ∀ u, (∀ d ∈ u, d ∈ t) → (∀ d ∈ u, d.raised? = none) → ∀ m ∈ handledIn u, fault m = none := by
    intro u hu hr m hmu
    obtain ⟨parts, f, hd⟩ := exists_of_mem_handledIn hmu
    have hf := hr _ hd
    rw [← hm _ _ _ _ (hu _ hd)]
    exact hf
  rcases r with f | ⟨⟩
  · right
    obtain ⟨past, m, parts, ht, hpast⟩ := h.last_message hu
    refine ⟨f, handledIn past, m, rfl, ?_, hnone past (fun x hx => by rw [ht]; simp [hx]) hpast,
      (hm _ _ parts _ (by rw [ht]; simp)).symm⟩
    rw [ht, handledIn_append]
    rfl
  · exact .inl ⟨rfl, hnone t (fun _ hd => hd) h.raises_nothing⟩

end Faithful

/-! ## Handling what was taken -/

/-- What is done with some messages, by the result and the trace: those that are not handled are
lost, and only a failure loses any. Units are not announced. -/
structure Handles (n : Network) (i : Interpreter) (k : Sink) (ms : List (Text × Value))
    (r : Except Failure Unit) (t : List Deed) : Prop extends Faithful n i k r t where
  units : ∀ ns parts f, .during (.units ns) parts f ∉ t
  lost : ∃ lost, handledIn t ++ lost = ms ∧ (r = .ok () → lost = [])

namespace Handles

variable {ms ms' : List (Text × Value)}

theorem nil : Handles n i k [] (.ok ()) [] := ⟨.nil, by simp, [], rfl, fun _ => rfl⟩

theorem callback {c : Callback} {parts : List Deed} (f : Option Failure)
    (h : failureIn parts = none) :
    Handles n i k [] (.ok ()) [.during (.callback c) parts f] :=
  ⟨.single (by simp [HandledIn]) (.inr ⟨rfl, by rw [failureIn_during, h]⟩) rfl, by simp, [], rfl,
    fun _ => rfl⟩

theorem message {m : Text × Value} {r : Except Failure (List Record)} {parts : List Deed}
    (h : Handled n i k m.1 m.2 r parts) :
    Handles n i k [m] (r.map fun _ => ()) [.during (.message m.1 m.2) parts (failure? r)] := by
  refine ⟨.single ?_ (.inl rfl) ?_, by simp, [], rfl, fun _ => rfl⟩
  · intro topic payload parts' f hm
    cases List.mem_singleton.1 hm
    exact ⟨r, rfl, h⟩
  · cases r <;> rfl

theorem append (ht : Handles n i k ms (.ok ()) t) (hu : Handles n i k ms' r u) :
    Handles n i k (ms ++ ms') r (t ++ u) := by
  refine ⟨ht.toFaithful.append hu.toFaithful, ?_, ?_⟩
  · intro ns parts f hm
    rcases List.mem_append.1 hm with hm | hm
    · exact ht.units _ _ _ hm
    · exact hu.units _ _ _ hm
  · obtain ⟨lost, ha, hl⟩ := ht.lost
    obtain ⟨lost', ha', hl'⟩ := hu.lost
    rw [hl rfl, List.append_nil] at ha
    exact ⟨lost', by rw [handledIn_append, List.append_assoc, ha, ha'], hl'⟩

theorem mem_of_mem_handledIn (h : Handles n i k ms r t) {m : Text × Value} (hm : m ∈ handledIn t) :
    m ∈ ms := by
  obtain ⟨lost, ha, _⟩ := h.lost
  rw [← ha]
  exact List.mem_append_left lost hm

theorem lose {f : Failure} (h : Handles n i k ms (.error f) t) (ms' : List (Text × Value)) :
    Handles n i k (ms ++ ms') (.error f) t := by
  obtain ⟨lost, ha, _⟩ := h.lost
  exact ⟨h.toFaithful, h.units, lost ++ ms', by rw [← ha, List.append_assoc], by simp⟩

end Handles

/-- In the trace arrive some of the messages, from the first on, and all of them if there is no
failure. -/
structure Hears (ms : List (Text × Value)) (r : Except Failure Unit) (t : List Deed) : Prop where
  early : arrivedIn t <+: ms
  all : r = .ok () → arrivedIn t = ms

namespace Hears

variable {ms ms' : List (Text × Value)}

theorem of_eq (h : arrivedIn t = ms) : Hears ms r t := ⟨h ▸ List.prefix_refl _, fun _ => h⟩

theorem append (ht : Hears ms (.ok ()) t) (hu : Hears ms' r u) : Hears (ms ++ ms') r (t ++ u) := by
  rw [← ht.all rfl]
  refine ⟨?_, ?_⟩
  · rw [arrivedIn_append, List.prefix_append_right_inj]
    exact hu.early
  · intro hr
    rw [arrivedIn_append, hu.all hr]

theorem lose {f : Failure} (h : Hears ms (.error f) t) (ms' : List (Text × Value)) :
    Hears (ms ++ ms') (.error f) t :=
  ⟨h.early.trans (List.prefix_append ms ms'), by simp⟩

end Hears

end Traces

variable (n : Network) (b : Bridge) (s : Session) (j : Journal)

/-- The bridge with another session. -/
def withSession (b : Bridge) (s : Session) : Bridge := { b with transport := some s }

theorem ends_onSession {α : Type} {b : Bridge} {s s' : Session} {j : Journal} {x : Act Session α}
    {r : Except Failure α} {t : List Deed} (h : Ends n s j x r s' t) :
    Ends n (b.withSession s) j (onSession x) r (b.withSession s') t :=
  ends_onTransport n (b := b.withSession s) (Transport.ends_use h)

theorem ends_hear (cs : List Callback) :
    ∃ s' t, Ends n (b.withSession s) j (hear cs) (.ok ()) (b.withSession s') t ∧
      arrivedIn t = messagesOf cs ∧
      s'.queue = s.queue ++ messagesOf cs ∧ Handles n b.interpreter b.sink [] (.ok ()) t := by
  induction cs generalizing s j with
  | nil => exact ⟨s, [], .pure (), rfl, by simp [messagesOf], .nil⟩
  | cons c cs ih =>
    obtain ⟨s₁, parts, f, he, hq, hf⟩ := Session.ends_handleAside n s j c
    obtain ⟨j₁, hr, hj⟩ := ends_onSession n (b := b) he
    obtain ⟨s₂, t, ht, hat, hqt, hh⟩ := ih s₁ j₁
    have hc : messagesOf (c :: cs) = c.message?.toList ++ messagesOf cs := by
      cases h : c.message? <;> simp [messagesOf, h]
    refine ⟨s₂, _, Ends.seq hr hj ht, ?_, ?_, (Handles.callback f hf).append hh⟩
    · rw [arrivedIn_append, arrivedIn_callback, hat, hc]
    · rw [hqt, hq, hc, List.append_assoc]

theorem messagesOf_append (cs ds : List Callback) :
    messagesOf (cs ++ ds) = messagesOf cs ++ messagesOf ds :=
  List.filterMap_append

theorem ends_each_hear (css : List (List Callback)) :
    ∃ s' t, Ends n (b.withSession s) j (each hear css) (.ok ()) (b.withSession s') t ∧
      arrivedIn t = messagesOf css.flatten ∧ s'.queue = s.queue ++ messagesOf css.flatten ∧
      Handles n b.interpreter b.sink [] (.ok ()) t := by
  induction css generalizing s j with
  | nil => exact ⟨s, [], .pure (), rfl, by simp [messagesOf], .nil⟩
  | cons cs css ih =>
    obtain ⟨s₁, t, ⟨j₁, hr, hj⟩, ha, hq, ht⟩ := ends_hear n b s j cs
    obtain ⟨s₂, u, hu, hau, hqu, hs⟩ := ih s₁ j₁
    refine ⟨s₂, _, Ends.seq hr hj hu, ?_, ?_, ht.append hs⟩
    · rw [arrivedIn_append, ha, hau, List.flatten_cons, messagesOf_append]
    · rw [hqu, hq, List.flatten_cons, messagesOf_append, List.append_assoc]

theorem ends_handleQueued (m : Text × Value) :
    ∃ r t, Ends n b j (handleQueued m) r b t ∧ arrivedIn t = [] ∧
      Handles n b.interpreter b.sink [m] r t := by
  obtain ⟨r, parts, hm, hh⟩ := ends_handleMessage n b j m.1 m.2
  refine ⟨_, _, ?_, rfl, .message hh⟩
  rcases r with f | rs
  · exact Ends.bind_error hm
  · rw [← List.append_nil [_]]
    exact Ends.bind hm fun j _ => .pure ()

/-- **Messages are handled one after the other, whatever is told in between.** -/
theorem ends_handleAmid (ms : List (Text × Value)) (css : List (List Callback)) :
    ∃ r s' t, Ends n (b.withSession s) j (handleAmid css ms) r (b.withSession s') t ∧
      s'.queue = s.queue ++ arrivedIn t ∧ Hears (messagesOf css.flatten) r t ∧
      Handles n b.interpreter b.sink ms r t := by
  induction ms generalizing s j css with
  | nil =>
    obtain ⟨s', t, he, ha, hq, hs⟩ := ends_each_hear n b s j css
    exact ⟨.ok (), s', t, he, by rw [hq, ha], .of_eq ha, hs⟩
  | cons m ms ih =>
    have hcss :
      messagesOf css.flatten = messagesOf (css.headD []) ++ messagesOf css.tail.flatten := by
      rw [← messagesOf_append, ← List.flatten_cons]
      cases css <;> rfl
    rw [hcss]
    obtain ⟨s₁, t, ⟨j₁, hr₁, hj₁⟩, ha, hq, ht⟩ := ends_hear n b s j (css.headD [])
    obtain ⟨r, u, ⟨j₂, hr₂, hj₂⟩, hau, hu⟩ := ends_handleQueued n (b.withSession s₁) j₁ m
    have htu : arrivedIn (t ++ u) = messagesOf (css.headD []) := by
      rw [arrivedIn_append, ha, hau, List.append_nil]
    rcases r with f | ⟨⟩
    · refine ⟨.error f, s₁, _, Ends.seq hr₁ hj₁ (Ends.bind_error ⟨j₂, hr₂, hj₂⟩), by rw [hq, htu],
        ?_, ?_⟩
      · exact (Hears.of_eq htu).lose _
      · exact ht.append (hu.lose ms)
    · obtain ⟨r, s₂, v, hv, hqv, hav, hs⟩ := ih s₁ j₂ css.tail
      refine ⟨r, s₂, _, Ends.seq hr₁ hj₁ (Ends.seq hr₂ hj₂ hv), ?_, ?_, ht.append (hu.append hs)⟩
      · rw [hqv, hq, ← List.append_assoc, arrivedIn_append _ v, htu, List.append_assoc]
      · rw [← List.append_assoc]
        exact (Hears.of_eq htu).append hav

theorem ends_drain : Ends n s j Session.drain (.ok s.queue) { s with queue := [] } [] :=
  Ends.next rfl (Ends.after (.change _) fun _ _ => .pure s.queue)

/-- **All that is in the queue when it is emptied is handled, and what arrives after that is in the
queue.** -/
theorem ends_takeAll (cs : List Callback) (css : List (List Callback)) :
    ∃ r s' t, Ends n (b.withSession s) j (takeAll cs css) r (b.withSession s') t ∧
      arrivedIn t = messagesOf cs ++ s'.queue ∧
        Hears (messagesOf cs ++ messagesOf css.flatten) r t ∧
      Handles n b.interpreter b.sink (s.queue ++ messagesOf cs) r t := by
  obtain ⟨s₁, t, ⟨j₁, hr₁, hj₁⟩, ha, hq, ht⟩ := ends_hear n b s j cs
  obtain ⟨j₂, hr₂, hj₂⟩ := ends_onSession n (b := b) (ends_drain n s₁ j₁)
  obtain ⟨r, s₂, u, hu, hqu, hau, hs⟩ := ends_handleAmid n b { s₁ with queue := [] } j₂ s₁.queue css
  refine ⟨r, s₂, _, Ends.seq hr₁ hj₁ (Ends.seq hr₂ hj₂ hu), ?_, (Hears.of_eq ha).append hau, ?_⟩
  · rw [arrivedIn_append, List.nil_append, ha, hqu]
    rfl
  · rw [← hq]
    exact ht.append hs

end Bridge

end DeltaBridge
