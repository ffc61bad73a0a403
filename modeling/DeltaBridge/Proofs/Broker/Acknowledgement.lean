import DeltaBridge.Proofs.Broker.Subscription

/-!
# Answers to subscriptions

The broker answers a subscription topic by topic, and may refuse some of the topics. A session
reports the answer and does nothing else, so that a topic counts as subscribed although the broker
has refused it, until a disconnection, a stop, or the next call that is accepted.

* `Session.Leaves`: the deeds that a session leaves, `follows_leaves`;
* `Deed.answers`, `subscribedBy_filter`: the answers in a trace do not matter for what is
  subscribed;
* `lastAccepted`: the topics of the last accepted call, `subscribedBy_eq_nil_or`; `Unsettled`: deeds
  after which the same topics are subscribed, `subscribedBy_of_unsettled`;
* `refusedIn`, `grantedIn`: the topics that an answer refuses and grants; `Heeds`: what is
  subscribed is as the answer says;
* `Session.Unheeded`, **`lived_unheeded`**: what an answer does in a life, and exactly when what is
  subscribed is as it says; `refused_stays_subscribed`: when it is not.
-/

namespace DeltaBridge

/-! ## Deeds -/

namespace Session

open Act

/-- The deeds that a session leaves. What is done in a callback is what the callback asks for. -/
inductive Leaves : Deed → Prop
  | made (r : CallRecord) : Leaves (.made r)
  | told (status : Status) : Leaves (.told status)
  | wanted (topics : TopicSet) : Leaves (.wanted topics)
  | callback (s : Session) (o : Outcome) {c : Callback} {t : List Deed} (f : Option Failure)
    (h : callsIn t = s.asks o c) : Leaves (.during (.callback c) t f)
  | ending (t : List Deed) (f : Option Failure) : Leaves (.during .ending t f)

/-- The course of actions that leave such deeds. -/
def leaving : Course Session := fun _ _ t _ _ => ∀ d ∈ t, Leaves d

theorem composes_leaving : Composes leaving where
  report _ _ _ := by simp [leaving]
  append h h' := List.forall_mem_append.2 ⟨h, h'⟩

section Operations

variable {n : Network}

theorem follows_of_leaves {α : Type} {x : Act Session α}
    (h : ∀ s j, (x.run n s j).trace = [] ∨ ∃ d, Leaves d ∧ (x.run n s j).trace = [d]) :
    Follows n leaving x := by
  intro s j
  unfold leaving
  rcases h s j with ht | ⟨d, hd, ht⟩
  · simp [ht]
  · rw [ht]
    exact List.forall_mem_singleton.2 hd

theorem follows_change_leaving (f : Session → Session) : Follows n leaving (change f) :=
  follows_of_leaves fun _ _ => .inl rfl

theorem follows_perform_leaving (c : Client) (x : Call) : Follows n leaving (perform c x) :=
  follows_of_leaves fun _ _ => .inr ⟨_, .made _, rfl⟩

theorem follows_handle_leaving (c : Callback) : Follows n leaving (handle c) := by
  refine follows_of_leaves fun s j => .inr ?_
  obtain ⟨r, t, o, ⟨j', hr, _⟩, ht, _⟩ := ends_handle_after n s j c
  exact ⟨_, .callback s o _ ht, by rw [hr]⟩

theorem follows_want_leaving (topics : TopicSet) : Follows n leaving (want topics) :=
  follows_of_leaves fun _ _ => .inr ⟨_, .wanted topics, rfl⟩

theorem spreads_leaving : Spreads (fun {_} x => Follows n leaving x) where
  pure := Follows.pure composes_leaving
  bind := Follows.bind composes_leaving
  attempt := Follows.attempt
  state := Follows.state composes_leaving
  atStart := Follows.atStart composes_leaving
  ofLogged := Follows.ofLogged composes_leaving
  noClient := Follows.fail composes_leaving _
  perform c x _ := follows_perform_leaving c x
  create _ _ hf :=
    Follows.bind composes_leaving (follows_of_leaves fun _ _ => .inr ⟨_, .made _, rfl⟩) fun c =>
      Follows.bind composes_leaving (follows_change_leaving _) fun _ => hf c
  handle := follows_handle_leaving

/-- **Every operation leaves such deeds.** -/
theorem follows_leaves (o : Operation) : Follows n leaving o.act := by
  have h := composes_leaving
  cases o with
  | setUp => exact spreads_leaving.setUp
  | assign topics => exact follows_want_leaving _
  | start topics =>
    refine Follows.bind h ?_ fun _ => Follows.pure h ()
    refine spreads_leaving.follows_start h follows_want_leaving (fun _ => follows_change_leaving _)
      (fun e m => ?_) _
    refine (passes_follows h).announce (Follows.state h) (fun l status => ?_) e m
    exact follows_of_leaves fun _ _ => .inr ⟨_, .told status, rfl⟩
  | stop => exact follows_of_leaves fun _ _ => .inr ⟨_, .ending _ _, rfl⟩
  | callback c => exact follows_handle_leaving c
  | publish topic payload qos retain =>
    exact (passes_follows h).publish (Follows.state h) (Follows.fail h)
      (fun c _ _ _ _ => follows_perform_leaving c _) topic payload qos retain
  | drain => exact (passes_follows h).drain (Follows.state h) (follows_change_leaving _)

end Operations

end Session

/-! ## What a trace shows -/

/-- The deed is an answer to a subscription. -/
def Deed.answers : Deed → Bool
  | .during (.callback (.subscribed _)) _ _ => true
  | _ => false

theorem Session.Leaves.idle_of_answers {d : Deed} (h : Leaves d) (ha : d.answers = true) :
    d.Idle ∧ ∀ past, d.drops past = false := by
  cases h with
  | made _ | told _ | wanted _ | ending _ _ => cases ha
  | callback s o f h =>
    rename_i c t
    cases c with
    | subscribed rs =>
      refine ⟨.of_callsIn_eq_nil ?_ rfl, fun _ => rfl⟩
      rw [callsIn_during, h]
      exact s.asks_of_news (by simp [Callback.news?])
    | connected _ | connectFailed | disconnected _ | message _ _ | noted _ _ => cases ha

section Showing

variable {past : List Deed}

theorem hasClient_filter (h : ∀ d ∈ past, Session.Leaves d) :
    hasClient (past.filter fun d => !d.answers) = hasClient past := by
  induction past with
  | nil => rfl
  | cons d past ih =>
    obtain ⟨hd, hpast⟩ := List.forall_mem_cons.1 h
    cases ha : d.answers with
    | false =>
      rw [List.filter_cons_of_pos (by simp [ha]), hasClient_cons, hasClient_cons, ih hpast]
    | true =>
      rw [List.filter_cons_of_neg (by simp [ha]), ih hpast, hasClient_cons,
        (hd.idle_of_answers ha).1.creates, Bool.false_or]

theorem drops_congr {past' : List Deed} (h : hasClient past' = hasClient past) (d : Deed) :
    d.drops past' = d.drops past := by
  unfold Deed.drops
  rw [h]

/-- **Answers do not matter for what is subscribed.** -/
theorem subscribedBy_filter (h : ∀ d ∈ past, Session.Leaves d) :
    subscribedBy (past.filter fun d => !d.answers) = subscribedBy past := by
  induction past with
  | nil => rfl
  | cons d past ih =>
    obtain ⟨hd, hpast⟩ := List.forall_mem_cons.1 h
    cases ha : d.answers with
    | false =>
      rw [List.filter_cons_of_pos (by simp [ha]), subscribedBy, subscribedBy, ih hpast,
        drops_congr (hasClient_filter hpast)]
    | true =>
      obtain ⟨hidle, hdrops⟩ := hd.idle_of_answers ha
      rw [List.filter_cons_of_neg (by simp [ha]), ih hpast, subscribedBy, hdrops, hidle.accepted]
      rfl

/-- The topics of the last call that asked for topics and was accepted; the deeds are given the
newest first. -/
def lastAccepted (past : List Deed) : List Text := (past.findSome? Deed.accepted?).getD []

/-- What is subscribed is what was last asked for and accepted, or nothing. -/
theorem subscribedBy_eq_nil_or (past : List Deed) :
    subscribedBy past = [] ∨ subscribedBy past = lastAccepted past := by
  induction past with
  | nil => exact .inl rfl
  | cons d past ih =>
    rw [subscribedBy, lastAccepted, List.findSome?_cons]
    split
    · exact .inl rfl
    · cases d.accepted? with
      | none => exact ih
      | some ts => exact .inr rfl

/-- None of the deeds, after those of the past, decides anew which topics are subscribed. -/
def Unsettled : List Deed → List Deed → Prop
  | _, [] => True
  | past, d :: t => d.drops past = false ∧ d.accepted? = none ∧ Unsettled (d :: past) t

theorem subscribedBy_of_unsettled {t : List Deed} (h : Unsettled past t) :
    subscribedBy (t.reverse ++ past) = subscribedBy past := by
  induction t generalizing past with
  | nil => rfl
  | cons d t ih =>
    obtain ⟨hd, ha, ht⟩ := h
    rw [List.reverse_cons, List.append_assoc, List.singleton_append, ih ht, subscribedBy, hd, ha]
    rfl

end Showing

/-! ## Topic by topic -/

/-- The topics that an answer refuses. -/
def refusedIn (asked : List Text) (rs : List Reason) : List Text :=
  ((asked.zip rs).filter fun p => p.2.isFailure).map Prod.fst

/-- The topics that an answer grants. -/
def grantedIn (asked : List Text) (rs : List Reason) : List Text :=
  ((asked.zip rs).filter fun p => !p.2.isFailure).map Prod.fst

/-- What is subscribed after an answer is as the answer says: refused topics are not, and granted
ones are if they were before. -/
structure Heeds (asked : List Text) (rs : List Reason) (before after : List Text) : Prop where
  refused : ∀ t ∈ refusedIn asked rs, t ∉ after
  granted : ∀ t ∈ grantedIn asked rs, t ∈ before → t ∈ after

theorem mem_of_mem_refusedIn {asked : List Text} {rs : List Reason} {t : Text}
    (h : t ∈ refusedIn asked rs) : t ∈ asked := by
  obtain ⟨p, hp, rfl⟩ := List.mem_map.1 h
  exact (List.of_mem_zip (List.mem_filter.1 hp).1).1

theorem heeds_self_iff {asked listed : List Text} {rs : List Reason}
    (h : listed = [] ∨ listed = asked) :
    Heeds asked rs listed listed ↔ listed = [] ∨ refusedIn asked rs = [] := by
  constructor
  · intro hh
    refine h.imp_right fun hl => List.eq_nil_iff_forall_not_mem.2 fun t ht => ?_
    exact hh.refused t ht (hl ▸ mem_of_mem_refusedIn ht)
  · rintro (hl | hr)
    · rw [hl]
      exact ⟨fun _ _ => List.not_mem_nil, fun _ _ => id⟩
    · refine ⟨fun t ht => ?_, fun _ _ => id⟩
      rw [hr] at ht
      cases ht

/-! ## Lives -/

namespace Session

open Act

/-- The report on an answer: it names the reasons that are failures. -/
def answerReport (rs : List Reason) : Report :=
  match rs.filter Reason.isFailure with
  | [] => ⟨.debug, .broker, "Subscribed to all required topics"⟩
  | failures => ⟨.warning, .broker,
    "Error subscribing to topics: [" ++ Text.joinWith ", " (failures.map Reason.name) ++ "]"⟩

/-- **An answer is reported, and nothing else is done.** -/
theorem run_handle_subscribed (n : Network) (s : Session) (j : Journal) (rs : List Reason) :
    (handle (.subscribed rs)).run n s j =
      ⟨.ok (), s, j.report [answerReport rs], [.during (.callback (.subscribed rs)) [] none]⟩ := by
  have hrun : (onSubscribed rs).run n s j = ⟨.ok (), s, j.report [answerReport rs], []⟩ := by
    unfold onSubscribed answerReport
    cases rs.filter Reason.isFailure <;> rfl
  rw [handle, run_during, respond, hrun]
  rfl

/-- The topics that count as subscribed at the end. -/
def listed (e : Ended Session Unit) : List Text := e.state.subscribed.toList

/-- What an answer does in a life that ends with `e` before it, with `e'` right after it, and with
`e''` after some more operations. -/
structure Unheeded (rs : List Reason) (e e' e'' : Ended Session Unit) : Prop where
  state : e'.state = e.state
  journal : e'.journal = e.journal.report [answerReport rs]
  trace : e'.trace = e.trace ++ [.during (.callback (.subscribed rs)) [] none]
  /-- What is subscribed is as the answer to the last accepted call says only if nothing is
  subscribed any more, or nothing is refused. -/
  heeds : Heeds (lastAccepted e.trace.reverse) rs (listed e) (listed e') ↔
    listed e = [] ∨ refusedIn (lastAccepted e.trace.reverse) rs = []
  /-- Refused topics count as subscribed until it is decided anew which do. -/
  later : ∃ t, e''.trace = e'.trace ++ t ∧
    (Unsettled e'.trace.reverse t → listed e'' = listed e)
  /-- Other answers do not matter either, whenever they are heard. -/
  others : listed e'' = subscribedBy (e''.trace.reverse.filter fun d => !d.answers)

variable (n : Network) (config : Config) (listener : Option Listener)

theorem listed_lived (os : List Operation) :
    listed (lived n config listener os) = subscribedBy (lived n config listener os).trace.reverse :=
  (tells_lived n config listener os).subscribed

theorem lived_answer (os : List Operation) (rs : List Reason) :
    lived n config listener (os ++ [.callback (.subscribed rs)]) =
      ⟨.ok (), (lived n config listener os).state,
        (lived n config listener os).journal.report [answerReport rs],
        (lived n config listener os).trace ++
          [.during (.callback (.subscribed rs)) [] none]⟩ := by
  rw [lived_append, run_live_cons, Operation.act, run_handle_subscribed]
  rfl

/-- **An answer changes nothing but the reports.** In any life, what is subscribed after the answer
to the last accepted call is as the answer says exactly if nothing was subscribed any more or the
answer refuses nothing: topics that it refuses go on counting as subscribed, until a disconnection,
a stop of a session with a client, or the next accepted call. What is subscribed is shown by the
trace without the answers. -/
theorem lived_unheeded (os later : List Operation) (rs : List Reason) :
    Unheeded rs (lived n config listener os)
      (lived n config listener (os ++ [.callback (.subscribed rs)]))
      (lived n config listener (os ++ .callback (.subscribed rs) :: later)) := by
  have hanswer := lived_answer n config listener os rs
  have hstate := congrArg Ended.state hanswer
  have hsame : listed (lived n config listener (os ++ [.callback (.subscribed rs)])) =
      listed (lived n config listener os) := congrArg (fun s => s.subscribed.toList) hstate
  refine ⟨hstate, congrArg Ended.journal hanswer, congrArg Ended.trace hanswer, ?_, ?_, ?_⟩
  · rw [hsame]
    refine heeds_self_iff ?_
    rw [listed_lived]
    exact subscribedBy_eq_nil_or _
  · have hcons : os ++ .callback (.subscribed rs) :: later =
        (os ++ [.callback (.subscribed rs)]) ++ later := by simp
    have htrace := congrArg Ended.trace (lived_append n config listener
      (os ++ [.callback (.subscribed rs)]) later)
    rw [← hcons, Ended.trace_after] at htrace
    refine ⟨_, htrace, fun hu => ?_⟩
    rw [← hsame, listed_lived, listed_lived, htrace, List.reverse_append]
    exact subscribedBy_of_unsettled hu
  · rw [listed_lived]
    refine (subscribedBy_filter fun d hd => ?_).symm
    exact follows_live composes_leaving follows_leaves _ _ _ d (List.mem_reverse.1 hd)

/-- A topic that the broker has refused counts as subscribed. -/
theorem refused_stays_subscribed :
    refusedIn (lastAccepted (lived .silent smallConfig none smallStart).trace.reverse)
        [⟨"Not authorized", true⟩] = [("t" : Text)] ∧
      listed (lived .silent smallConfig none
        (smallStart ++ [.callback (.subscribed [⟨"Not authorized", true⟩])])) = [("t" : Text)] :=
  ⟨rfl, rfl⟩

end Session

end DeltaBridge
