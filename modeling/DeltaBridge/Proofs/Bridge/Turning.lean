import DeltaBridge.Proofs.Bridge.Serving

/-!
# Turns and runs

A turn announces the units that are pending, and then takes all that is in the queue. A run is any
sequence of callbacks and turns, and ends with all of them, or with a turn that fails.

* `Bridge.Due`, `ends_announceDue`: what becomes of pending units, `Bridge.Settles`;
* `Bridge.Serves`: what is done with a queue;
* `Bridge.Turned`, `ends_turnAmid`: how a turn ends;
* `Bridge.Through`, `Bridge.Served`, **`ends_serve`**: how a run ends.
-/

namespace DeltaBridge.Bridge

open Act

variable {n : Network} {b : Bridge} {s : Session}

/-! ## Units -/

/-- The bridge with another session, while its units are pending or not. -/
def working (b : Bridge) (s : Session) (pending : Bool) : Bridge :=
  { b.withSession s with unitsPending := pending }

theorem working_self (hb : b.transport = some s) (p : Bool) :
    b.working s p = { b with unitsPending := p } := by
  rw [working, withSession, ← hb]

/-- What becomes of pending units at the start of a turn: the result, whether they are still
pending, and what was done. -/
inductive Due (n : Network) (b : Bridge) : Except Failure Unit → Bool → List Deed → Prop
  | idle (h : (b.unitsPending && b.transport.isConnected) = false) :
    Due n b (.ok ()) b.unitsPending []
  | tried {r : Except Failure Unit} {t : List Deed}
    (h : (b.unitsPending && b.transport.isConnected) = true)
    (ha : Announced n b.registry b.sink r t) :
    Due n b (contained r) (pendingAfter b.unitsPending r) t

theorem ends_announceDue (n : Network) (b : Bridge) (j : Journal) :
    ∃ r p t, Ends n b j announceDue r { b with unitsPending := p } t ∧ Due n b r p t := by
  unfold announceDue
  by_cases h : (b.unitsPending && b.transport.isConnected) = true
  · obtain ⟨r, t, he, ha⟩ := ends_announce n b j
    refine ⟨_, _, _, Ends.next rfl ?_, .tried h ha⟩
    rw [if_pos h]
    exact he
  · refine ⟨_, _, _, Ends.next rfl ?_, .idle (by simpa using h)⟩
    rw [if_neg h]
    exact .pure ()

/-- Units that are pending stay so until they are announced and the broker takes them. -/
def Settles (g : Registry) (before after : Bool) (t : List Deed) : Prop :=
  before = true → after = false →
    g.unitNotices = [] ∨ ∃ parts, .during (.units g.unitNotices) parts none ∈ t

namespace Settles

variable {g : Registry} {before mid after : Bool} {t u : List Deed}

theorem refl : Settles g before before t := fun hb ha => by
  rw [hb] at ha
  cases ha

theorem append (ht : Settles g before mid t) (hu : Settles g mid after u) :
    Settles g before after (t ++ u) := by
  intro hb ha
  cases mid with
  | false => exact (ht hb rfl).imp_right fun ⟨parts, hm⟩ => ⟨parts, List.mem_append_left u hm⟩
  | true => exact (hu rfl ha).imp_right fun ⟨parts, hm⟩ => ⟨parts, List.mem_append_right t hm⟩

theorem of_announced {k : Sink} {r : Except Failure Unit} (h : Announced n g k r t) :
    Settles g before (pendingAfter before r) t := by
  intro hb ha
  cases h with
  | nothing h => exact .inl h
  | offered _ _ =>
    rcases r with f | ⟨⟩
    · cases f
      case broker e => cases ha
      all_goals exact absurd (hb.symm.trans ha) (by decide)
    · exact .inr ⟨_, List.mem_singleton_self _⟩

end Settles

theorem Due.settles {r : Except Failure Unit} {p : Bool} {t : List Deed} (h : Due n b r p t) :
    Settles b.registry b.unitsPending p t := by
  cases h with
  | idle _ => exact .refl
  | tried _ ha => exact .of_announced ha

/-! ## Queues -/

/-- Each announcement in the trace is one of all units. -/
def AnnouncedIn (n : Network) (g : Registry) (k : Sink) (t : List Deed) : Prop :=
  ∀ ns parts f, .during (.units ns) parts f ∈ t →
    ∃ r, f = failure? r ∧ Announced n g k r [.during (.units ns) parts f]

/-- What is done with the messages that are due, if the messages `rest` are due after it: they are
handled in their order, and those that arrive after them. Only a failure loses any. -/
structure Serves (n : Network) (i : Interpreter) (k : Sink) (due : List (Text × Value))
    (r : Except Failure Unit) (t : List Deed) (rest : List (Text × Value)) : Prop
    extends Faithful n i k r t where
  announced : AnnouncedIn n i.registry k t
  account : ∃ lost, handledIn t ++ lost ++ rest = due ++ arrivedIn t ∧ (r = .ok () → lost = [])

namespace Serves

variable {i : Interpreter} {k : Sink} {due mid rest : List (Text × Value)} {r : Except Failure Unit}
  {t u : List Deed}

theorem nil : Serves n i k due (.ok ()) [] due :=
  ⟨.nil, by simp [AnnouncedIn], [], by simp, fun _ => rfl⟩

theorem of_handles {early : List (Text × Value)} (h : Handles n i k (due ++ early) r t)
    (ha : arrivedIn t = early ++ rest) : Serves n i k due r t rest := by
  obtain ⟨lost, hl, hr⟩ := h.lost
  refine ⟨h.toFaithful, fun ns parts f hm => absurd hm (h.units ns parts f), lost, ?_, hr⟩
  rw [hl, ha, List.append_assoc]

theorem of_announced (h : Announced n i.registry k r t) : Serves n i k due (contained r) t due := by
  cases h with
  | nothing h => exact nil
  | offered h hs =>
    refine ⟨.single (by simp [HandledIn]) (.inl rfl) (raised?_units _ _ r).symm, ?_, [],
      (List.append_nil due).symm, fun _ => rfl⟩
    intro ns parts f hm
    cases List.mem_singleton.1 hm
    exact ⟨_, rfl, .offered h hs⟩

theorem append (ht : Serves n i k due (.ok ()) t mid) (hu : Serves n i k mid r u rest) :
    Serves n i k due r (t ++ u) rest := by
  refine ⟨ht.toFaithful.append hu.toFaithful, ?_, ?_⟩
  · intro ns parts f hm
    rcases List.mem_append.1 hm with hm | hm
    · exact ht.announced _ _ _ hm
    · exact hu.announced _ _ _ hm
  · obtain ⟨lost, ha, hl⟩ := ht.account
    obtain ⟨lost', ha', hl'⟩ := hu.account
    rw [hl rfl, List.append_nil] at ha
    refine ⟨lost', ?_, hl'⟩
    calc
      handledIn (t ++ u) ++ lost' ++ rest = handledIn t ++ (handledIn u ++ lost' ++ rest) := by simp
      _ = (handledIn t ++ mid) ++ arrivedIn u := by rw [ha', List.append_assoc]
      _ = due ++ arrivedIn (t ++ u) := by rw [ha, arrivedIn_append, List.append_assoc]

theorem mem_due (h : Serves n i k due r t rest) {m : Text × Value} (hm : m ∈ handledIn t) :
    m ∈ due ++ arrivedIn t := by
  obtain ⟨lost, ha, _⟩ := h.account
  rw [← ha]
  exact List.mem_append_left _ (List.mem_append_left _ hm)

end Serves

theorem Due.serves {r : Except Failure Unit} {p : Bool} {t : List Deed} (h : Due n b r p t)
    (due : List (Text × Value)) : Serves n b.interpreter b.sink due r t due := by
  cases h with
  | idle _ => exact .nil
  | tried _ ha => exact .of_announced ha

theorem Due.quiet {r : Except Failure Unit} {p : Bool} {t : List Deed} (h : Due n b r p t) :
    arrivedIn t = [] ∧ handledIn t = [] := by
  cases h with
  | idle _ => exact ⟨rfl, rfl⟩
  | tried _ ha => cases ha <;> exact ⟨rfl, rfl⟩

/-! ## Turns -/

/-- How a turn ends, with callbacks during it: either the announcement of pending units fails, or
what is in the queue when it is emptied is handled. -/
inductive Turned (n : Network) (b : Bridge) (s : Session) (cs : List Callback)
    (css : List (List Callback)) :
    Except Failure Unit → Session → Bool → List Deed → Prop
  | stuck {f : Failure} {p : Bool} {t : List Deed} (hd : Due n b (.error f) p t) :
    Turned n b s cs css (.error f) s p t
  | worked {r : Except Failure Unit} {s' : Session} {p : Bool} {t u : List Deed}
    (hd : Due n b (.ok ()) p t) (ha : arrivedIn u = messagesOf cs ++ s'.queue)
    (hh : Hears (messagesOf cs ++ messagesOf css.flatten) r u)
    (hs : Handles n b.interpreter b.sink (s.queue ++ messagesOf cs) r u) :
    Turned n b s cs css r s' p (t ++ u)

theorem ends_turnAmid (hb : b.transport = some s) (j : Journal) (cs : List Callback)
    (css : List (List Callback)) :
    ∃ r s' p t, Ends n b j (turnAmid cs css) r (b.working s' p) t ∧
      Turned n b s cs css r s' p t := by
  obtain ⟨r, p, t, ⟨j₁, hr, hj⟩, hd⟩ := ends_announceDue n b j
  rw [← working_self hb] at hr
  rcases r with f | ⟨⟩
  · exact ⟨.error f, s, p, t, Ends.bind_error ⟨j₁, hr, hj⟩, .stuck hd⟩
  · obtain ⟨r, s', u, hu, ha, hh, hs⟩ := ends_takeAll n { b with unitsPending := p } s j₁ cs css
    exact ⟨r, s', p, t ++ u, Ends.seq hr hj hu, .worked hd ha hh hs⟩

/-- **A turn serves the queue, and leaves what was told after it was emptied unless it fails.** -/
theorem Turned.serves {cs : List Callback} {css : List (List Callback)} {r : Except Failure Unit}
    {s' : Session} {p : Bool} {t : List Deed} (h : Turned n b s cs css r s' p t) :
    Serves n b.interpreter b.sink s.queue r t s'.queue ∧
      Hears (messagesOf cs ++ messagesOf css.flatten) r t ∧
      (r = .ok () → s'.queue = messagesOf css.flatten) := by
  cases h with
  | stuck hd => exact ⟨hd.serves _, (Hears.of_eq hd.quiet.1).lose _, by simp⟩
  | worked hd ha hh hs =>
    refine ⟨(hd.serves _).append (.of_handles hs ha), (Hears.of_eq hd.quiet.1).append hh, ?_⟩
    intro hok
    exact List.append_cancel_left (ha.symm.trans (hh.all hok))

theorem Turned.settles {cs : List Callback} {css : List (List Callback)} {r : Except Failure Unit}
    {s' : Session} {p : Bool} {t : List Deed} (h : Turned n b s cs css r s' p t) :
    Settles b.registry b.unitsPending p t := by
  cases h with
  | stuck hd => exact hd.settles
  | worked hd _ _ _ => exact hd.settles.append .refl

/-! ## Runs -/

/-- A run through all events: it serves the queue, settles the units only if it announces them,
hears all that is told, and leaves what was told after the last turn emptied the queue. -/
structure Through (n : Network) (b : Bridge) (s : Session) (es : List Event) (s' : Session)
    (p : Bool) (t : List Deed) : Prop where
  serves : Serves n b.interpreter b.sink s.queue (.ok ()) t s'.queue
  settles : Settles b.registry b.unitsPending p t
  heard : arrivedIn t = es.flatMap Event.messages
  queue : s'.queue = queueAfter s.queue es

theorem queueAfter_append (queue : List (Text × Value)) (es es' : List Event) :
    queueAfter queue (es ++ es') = queueAfter (queueAfter queue es) es' := by
  induction es generalizing queue with
  | nil => rfl
  | cons e es ih =>
    cases e with
    | callback c => exact ih _
    | turn cs css => exact ih _

namespace Through

variable {es es' : List Event} {s₁ s₂ : Session} {p p' : Bool} {t u : List Deed}

theorem nil : Through n b s [] s b.unitsPending [] := ⟨.nil, .refl, rfl, rfl⟩

theorem append (ht : Through n b s es s₁ p t) (hu : Through n (b.working s₁ p) s₁ es' s₂ p' u) :
    Through n b s (es ++ es') s₂ p' (t ++ u) := by
  refine ⟨ht.serves.append hu.serves, ht.settles.append hu.settles, ?_, ?_⟩
  · rw [arrivedIn_append, ht.heard, hu.heard, List.flatMap_append]
  · rw [hu.queue, ht.queue, queueAfter_append]

/-- Nothing is lost, and nothing is handled twice. -/
theorem account (h : Through n b s es s₁ p t) :
    handledIn t ++ s₁.queue = s.queue ++ es.flatMap Event.messages := by
  obtain ⟨lost, ha, hl⟩ := h.serves.account
  rwa [hl rfl, List.append_nil, h.heard] at ha

end Through

/-- How a run ends: it goes through all events, or a turn fails. -/
inductive Served (n : Network) (b : Bridge) (s : Session) (es : List Event) :
    Except Failure Unit → Session → Bool → List Deed → Prop
  | through {s' : Session} {p : Bool} {t : List Deed} (h : Through n b s es s' p t) :
    Served n b s es (.ok ()) s' p t
  | broken {before after : List Event} {cs : List Callback} {css : List (List Callback)}
    {f : Failure} {s₁ s' : Session} {p₁ p : Bool} {t u : List Deed}
    (he : es = before ++ .turn cs css :: after) (h : Through n b s before s₁ p₁ t)
    (hu : Turned n (b.working s₁ p₁) s₁ cs css (.error f) s' p u) :
    Served n b s es (.error f) s' p (t ++ u)

namespace Served

variable {es : List Event} {r : Except Failure Unit} {s₁ s' : Session} {p p' : Bool}
  {t u : List Deed}

theorem cons {e : Event} (ht : Through n b s [e] s₁ p t)
    (hu : Served n (b.working s₁ p) s₁ es r s' p' u) :
    Served n b s (e :: es) r s' p' (t ++ u) := by
  cases hu with
  | through hu => exact .through (ht.append hu)
  | broken he h hu =>
    rw [← List.append_assoc]
    exact .broken (by rw [he]; rfl) (ht.append h) hu

theorem stop {f : Failure} (h : Served n b s es (.error f) s' p t) (es' : List Event) :
    Served n b s (es ++ es') (.error f) s' p t := by
  cases h with
  | broken he h hu => exact .broken (by rw [he, List.append_assoc]; rfl) h hu

theorem serves (h : Served n b s es r s' p t) :
    Serves n b.interpreter b.sink s.queue r t s'.queue := by
  cases h with
  | through h => exact h.serves
  | broken _ h hu => exact h.serves.append hu.serves.1

theorem settles (h : Served n b s es r s' p t) : Settles b.registry b.unitsPending p t := by
  cases h with
  | through h => exact h.settles
  | broken _ h hu => exact h.settles.append hu.settles

theorem early (h : Served n b s es r s' p t) : arrivedIn t <+: es.flatMap Event.messages := by
  cases h with
  | through h => exact h.heard ▸ List.prefix_refl _
  | broken he h hu =>
    rw [he, arrivedIn_append, h.heard, List.flatMap_append, List.flatMap_cons,
      List.prefix_append_right_inj]
    exact hu.serves.2.1.early.trans (List.prefix_append _ _)

end Served

theorem ends_event (hb : b.transport = some s) (j : Journal) (e : Event) :
    ∃ r s' p t, Ends n b j e.act r (b.working s' p) t ∧ Served n b s [e] r s' p t := by
  cases e with
  | callback c =>
    obtain ⟨s', t, he, ha, hq, hh⟩ := ends_hear n b s j [c]
    have hself : b.withSession s = b := by rw [withSession, ← hb]
    rw [hself] at he
    refine ⟨.ok (), s', b.unitsPending, t, he,
      .through ⟨⟨hh.toFaithful, ?_, [], ?_, fun _ => rfl⟩, .refl, ?_, hq⟩⟩
    · intro ns parts f hm
      exact absurd hm (hh.units ns parts f)
    · obtain ⟨lost, hl, hnone⟩ := hh.lost
      rw [hnone rfl, List.append_nil] at hl
      rw [hl, hq, ha]
      rfl
    · rw [ha]
      simp [Event.messages]
  | turn cs css =>
    obtain ⟨r, s', p, t, he, h⟩ := ends_turnAmid hb j cs css
    refine ⟨r, s', p, t, he, ?_⟩
    rcases r with f | ⟨⟩
    · have hself : b.working s b.unitsPending = b := working_self hb _
      rw [← hself] at h
      have hes : [Event.turn cs css] = [] ++ .turn cs css :: [] := rfl
      exact .broken hes .nil h
    · obtain ⟨hs, hh, hq⟩ := h.serves
      exact .through ⟨hs, h.settles, by rw [hh.all rfl]; simp [Event.messages], hq rfl⟩

/-- **Every run goes through all events, or ends with a turn that fails.** -/
theorem ends_serve (hb : b.transport = some s) (j : Journal) (es : List Event) :
    ∃ r s' p t, Ends n b j (serve es) r (b.working s' p) t ∧ Served n b s es r s' p t := by
  induction es generalizing b s j with
  | nil =>
    refine ⟨.ok (), s, b.unitsPending, [], ?_, .through .nil⟩
    rw [working_self hb]
    exact .pure ()
  | cons e es ih =>
    obtain ⟨r, s₁, p, t, ⟨j₁, hr, hj⟩, he⟩ := ends_event hb j e
    rcases r with f | ⟨⟩
    · exact ⟨.error f, s₁, p, t, Ends.bind_error ⟨j₁, hr, hj⟩, he.stop es⟩
    · -- the rest of the run starts from the bridge that the event leaves
      obtain ⟨r, s₂, p', u, hu, hs⟩ := ih (b := b.working s₁ p) rfl j₁
      cases he with
      | through he => exact ⟨r, s₂, p', t ++ u, Ends.seq hr hj hu, .cons he hs⟩

/-! ## A small bridge -/

/-- A session with a connection. -/
def smallSession : Session :=
  { Session.fresh ⟨"b", none, none, "c", 60, 0, "30.0", 1, 60, ⟨"b", 1883, false⟩⟩ none with
    link := .connected
    client := some 0 }

/-- A message for the sensor of the bridge. -/
def smallMessage : Text × Value := ("t", .text "5")

/-- A bridge with one sensor and a connection, for a sink. -/
def small (k : Sink) : Bridge where
  interpreter := .ofRegistry ⟨[("t", [⟨"x", .other, "", none⟩])], .standard .skip false⟩
  sink := k
  transport := some smallSession
  running := true
  unitsPending := false

end DeltaBridge.Bridge
