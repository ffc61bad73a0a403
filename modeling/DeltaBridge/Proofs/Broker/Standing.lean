import DeltaBridge.Proofs.Broker.Phantom

/-!
# The status that is told and the link

In a life without stops each callback about the connection tells a status, and in each but one case
the link is then as the status says. The case is a connection that is closed before there is one:
while a session is connecting, or after an error, it tells that the connection is closed, and the
link stays as it was.

* `Status.link?`: the link that a status tells of;
* `Session.Passed`: what a life without stops passes through, with what has happened so far;
  `passed_live`, `Passed.exists_heard`: all of that life, and each callback is heard on the way;
* `Link.upon`, `Session.standing`: the link that the events show, **`Passed.link`**;
* `Session.Signals`: what a callback tells of the link; **`link_as_told`**: exactly when the link is
  as told; `closed_while_connecting`: when it is not.
-/

namespace DeltaBridge

/-- The link that a status tells of. -/
def Status.link? (status : Status) : Option Link :=
  if ("Connected to " : Text).isPrefixOf status.message then some .connected
  else if ("Connection error: " : Text).isPrefixOf status.message then some .error
  else if status.message = ("Attempting to reconnect to MQTT broker..." : Text) then
    some .reconnecting
  else if status.message = ("Disconnected" : Text) then some .reconnecting
  else if status.message = ("Connection closed." : Text) then some .disconnected
  else none

namespace Session

open Act

/-! ## What a life passes through -/

/-- What a life without stops can pass through: the events so far, the newest first, with the session
and the journal. The steps are those of starts and callbacks; the order that a start keeps plays no
part. -/
inductive Passed (n : Network) (config : Config) (listener : Option Listener) :
    List Event → Session → Journal → Prop
  | fresh : Passed n config listener [] (fresh config listener) .empty
  | reported {past : List Event} {s : Session} {j j' : Journal}
    (h : Passed n config listener past s j) (hj : j.Records [] j') :
    Passed n config listener past s j'
  | told {past : List Event} {s : Session} {j j' : Journal} {status : Status}
    (h : Passed n config listener past s j) (hj : j.Records [.told status] j') :
    Passed n config listener (.deed (.told status) :: past) s j'
  | made {past : List Event} {s : Session} {j : Journal} (c : Client) (x : Call)
    (h : Passed n config listener past s j) :
    Passed n config listener (.deed (.made ⟨c, x, n.answer j.calls c x⟩) :: past) s
      (j.record ⟨c, x, n.answer j.calls c x⟩)
  /-- The session has a new client. -/
  | owning {past : List Event} {s : Session} {j : Journal} (k : Client)
    (h : Passed n config listener past s j) : Passed n config listener past (s.owning k) j
  /-- A start begins. -/
  | starting {past : List Event} {s : Session} {j : Journal} (topics : TopicSet)
    (h : Passed n config listener past s j) :
    Passed n config listener (.deed (.wanted topics) :: past) (s.starting topics) j
  | startFailed {past : List Event} {s : Session} {j : Journal}
    (h : Passed n config listener past s j) :
    Passed n config listener (.startFailed :: past) { s with link := s.link.move .error } j
  /-- A callback is heard. -/
  | heard {past : List Event} {s : Session} {j : Journal} (c : Callback)
    (h : Passed n config listener past s j) :
    Passed n config listener
      (.deed (.during (.callback c) ((respond c).run n s j).trace
        (failure? ((respond c).run n s j).result)) :: past)
      ((handle c).run n s j).state ((handle c).run n s j).journal

section Passing

variable {n : Network} {config : Config} {listener : Option Listener} {past : List Event}
  {s : Session} {j : Journal}

/-- A callback that has happened was heard on the way. -/
theorem Passed.exists_heard (h : Passed n config listener past s j) {before after : List Event}
    {c : Callback} {t : List Deed} {f : Option Failure}
    (hp : past = after ++ .deed (.during (.callback c) t f) :: before) :
    ∃ s j, Passed n config listener before s j ∧
      ((handle c).run n s j).trace = [.during (.callback c) t f] := by
  induction h generalizing after with
  | fresh => simp at hp
  | reported _ _ ih | owning _ _ ih => exact ih hp
  | told _ _ ih | made _ _ _ ih | starting _ _ ih | startFailed _ ih =>
    cases after with
    | nil => cases hp
    | cons e after => exact ih (List.cons.inj hp).2
  | heard c' h ih =>
    rename_i s j
    cases after with
    | nil =>
      cases hp
      exact ⟨s, j, h, rfl⟩
    | cons e after => exact ih (List.cons.inj hp).2

/-! ## A whole life -/

/-- The course of what a life passes through. -/
def passing (n : Network) (config : Config) (listener : Option Listener) : Course Session :=
  fun s j t s' j' => ∀ past, Passed n config listener past s j →
    Passed n config listener ((t.map .deed).reverse ++ past) s' j'

theorem composes_passing : Composes (passing n config listener) where
  report _ j rs _ h := h.reported (.of_report j rs)
  append := by
    intro s j t s' j' u s'' j'' h h' past hp
    rw [List.map_append, List.reverse_append, List.append_assoc]
    exact h' _ (h past hp)

theorem follows_handle_passing (c : Callback) :
    Follows n (passing n config listener) (handle c) := fun _ _ _ h => h.heard c

theorem spreads_passing : Spreads (fun {_} x => Follows n (passing n config listener) x) where
  pure := Follows.pure composes_passing
  bind := Follows.bind composes_passing
  attempt := Follows.attempt
  state := Follows.state composes_passing
  atStart := Follows.atStart composes_passing
  ofLogged := Follows.ofLogged composes_passing
  noClient := Follows.fail composes_passing _
  perform c x _ _ _ _ h := h.made c x
  create id f hf := by
    refine Follows.bind composes_passing
      (fun s j past h => h.made j.calls.length (.create id)) fun k => ?_
    exact Follows.bind composes_passing (fun s j past h => h.owning k) fun _ => hf k
  handle := follows_handle_passing

theorem Passed.toldTo (h : Passed n config listener past s j) {l : Option Listener}
    {status : Status} {j' : Journal} (hj : j.Records (toldTo l status) j') :
    Passed n config listener (((Session.toldTo l status).map .deed).reverse ++ past) s j' := by
  cases l with
  | none => exact h.reported hj
  | some l => exact h.told hj

theorem passed_settle (h : Passed n config listener past s j) (r : Except Failure Unit) :
    Passed n config listener ((startEvents ((settle r).run n s j)).reverse ++ past)
      ((settle r).run n s j).state ((settle r).run n s j).journal := by
  rcases r with e | a
  · by_cases he : e = .interrupted
    · subst he
      exact h
    · obtain ⟨j', hr, hj⟩ := ends_settle_of_error n s j he
      rw [hr, startEvents, List.reverse_append]
      exact (h.toldTo hj).startFailed
  · rw [startEvents_settle_ok]
    exact spreads_passing.await (n.waiting j.calls) s j past h

theorem passed_start (h : Passed n config listener past s j) (topics : TopicSet) :
    Passed n config listener ((startEvents ((start topics).run n s j)).reverse ++ past)
      ((start topics).run n s j).state ((start topics).run n s j).journal := by
  obtain ⟨j₁, r, s₁, j₂, t, hj, hr, hrun, hevents⟩ := exists_start n s j topics
  have hstarting : Passed n config listener (.deed (.wanted topics) :: past) (s.starting topics)
      j₁ := (h.starting topics).reported ⟨hj.calls, hj.statuses⟩
  have hlaunch := spreads_passing.launch (s.starting topics) j₁ _ hstarting
  rw [hr] at hlaunch
  rw [hevents, hrun, List.append_assoc, List.append_assoc]
  exact passed_settle hlaunch r

/-- The operations of a life without stops: starts, and what clients tell. -/
def operation : List Text ⊕ Callback → Operation := Sum.elim .start .callback

theorem passed_act (h : Passed n config listener past s j) (o : List Text ⊕ Callback) :
    Passed n config listener
      (((operation o).events ((operation o).act.run n s j)).reverse ++ past)
      ((operation o).act.run n s j).state ((operation o).act.run n s j).journal := by
  cases o with
  | inl topics =>
    rw [show operation (.inl topics) = .start topics from rfl, events_start, run_act_start]
    exact passed_start h _
  | inr c => exact h.heard c

/-- **A life without stops is passed through.** -/
theorem passed_live (h : Passed n config listener past s j) (os : List (List Text ⊕ Callback)) :
    Passed n config listener ((history n s j (os.map operation)).reverse ++ past)
      ((live (os.map operation)).run n s j).state
      ((live (os.map operation)).run n s j).journal := by
  induction os generalizing past s j with
  | nil => exact h
  | cons o os ih =>
    rw [List.map_cons, run_live_cons, history, List.reverse_append, List.append_assoc]
    exact ih (passed_act h o)

end Passing

/-! ## The link -/

end Session

/-- The link after a callback, by the link before, if the session is not shut down. It is passed over
that a connection is closed while there is none yet. -/
def Link.upon (l : Link) : Callback → Link
  | .connected r => if r.isFailure then .error else .connected
  | .connectFailed => .reconnecting
  | .disconnected r =>
    if r.isFailure then .reconnecting
    else if l = .connecting ∨ l = .error then l
    else .disconnected
  | _ => l

theorem Link.upon_ne_shutdown {l : Link} (h : l ≠ .shutdown) (c : Callback) :
    l.upon c ≠ .shutdown := by
  unfold upon
  split
  · split <;> simp
  · simp
  · split
    · simp
    · split
      · exact h
      · simp
  · exact h

theorem Link.hear_eq_upon {l : Link} (h : l ≠ .shutdown) (c : Callback) : l.hear c = l.upon c := by
  cases c with
  | connected r | disconnected r =>
    cases hr : r.isFailure <;> cases l <;> simp_all [hear, upon] <;> rfl
  | connectFailed => cases l <;> first | rfl | exact absurd rfl h
  | message _ _ | subscribed _ | noted _ _ => rfl

namespace Session

open Act

/-- The link that the events of a life without stops show, the newest first. A start begins over if
nothing goes on. -/
def standing : List Event → Link
  | [] => .disconnected
  | .startFailed :: _ => .error
  | .deed (.wanted _) :: past =>
    match standing past with
    | .disconnected | .error => .connecting
    | l => l
  | .deed (.during (.callback c) _ _) :: past => (standing past).upon c
  | .deed _ :: past => standing past

theorem standing_ne_shutdown (past : List Event) : standing past ≠ .shutdown := by
  fun_induction standing past with
  | case1 | case2 => simp
  | case3 | case4 => simp
  | case5 _ _ _ _ ih => exact ih
  | case6 c _ _ past ih => exact Link.upon_ne_shutdown ih c
  | case7 _ _ _ _ ih => exact ih

section Links

variable {n : Network} {config : Config} {listener : Option Listener} {past : List Event}
  {s : Session} {j : Journal}

theorem link_handle (n : Network) (s : Session) (j : Journal) (c : Callback) :
    ((handle c).run n s j).state.link = s.link.hear c := by
  obtain ⟨r, t, o, ⟨j', hr, _⟩, _⟩ := ends_handle_after n s j c
  rw [hr]
  rfl

/-- **The link is the one that the events show.** -/
theorem Passed.link (h : Passed n config listener past s j) : s.link = standing past := by
  induction h with
  | fresh => rfl
  | reported _ _ ih | told _ _ ih | made _ _ _ ih | owning _ _ ih => exact ih
  | starting topics _ ih =>
    rename_i past s j _
    show s.link.move .connecting = standing (.deed (.wanted topics) :: past)
    rw [standing, ← ih]
    cases s.link <;> rfl
  | startFailed h ih =>
    rename_i past s j
    show s.link.move .error = .error
    have hne := standing_ne_shutdown past
    rw [← ih] at hne
    cases hl : s.link <;> first | rfl | exact absurd hl hne
  | heard c h ih =>
    rename_i past s j
    rw [link_handle, ih, standing]
    exact Link.hear_eq_upon (standing_ne_shutdown past) c

/-- A life changes neither the configuration nor the listener. -/
theorem Passed.keeps (h : Passed n config listener past s j) :
    s.config = config ∧ s.listener = listener := by
  induction h with
  | fresh => exact ⟨rfl, rfl⟩
  | reported _ _ ih | told _ _ ih | made _ _ _ ih | owning _ _ ih | starting _ _ ih
  | startFailed _ ih => exact ih
  | heard c h ih =>
    rename_i s j
    obtain ⟨r, t, o, ⟨j', hr, _⟩, _⟩ := ends_handle_after n s j c
    rw [hr]
    exact ih

end Links

/-! ## The status -/

/-- A callback about the connection has a status, and this tells of the link after it, unless it
tells that a connection is closed that there is not. -/
theorem link?_announcement {s : Session} (hl : s.link ≠ .shutdown) {c : Callback}
    (hc : c.news?.isSome = true) :
    ∃ status l, s.announcement? c = some status ∧ status.link? = some l ∧
      (s.link.upon c = l ↔ ¬(l = .disconnected ∧ (s.link = .connecting ∨ s.link = .error))) := by
  cases c with
  | connected r =>
    cases hr : r.isFailure with
    | true =>
      exact ⟨⟨"Connection error: " ++ r.name, true⟩, .error, by simp [announcement?, hr], rfl,
        by simp [Link.upon, hr]⟩
    | false =>
      exact ⟨⟨"Connected to " ++ s.config.server, false⟩, .connected, by simp [announcement?, hr],
        rfl, by simp [Link.upon, hr]⟩
  | connectFailed => exact ⟨_, .reconnecting, rfl, rfl, by simp [Link.upon]⟩
  | disconnected r =>
    cases hr : r.isFailure with
    | true =>
      exact ⟨⟨"Disconnected", false⟩, .reconnecting, by simp [announcement?, hl, hr], rfl,
        by simp [Link.upon, hr]⟩
    | false =>
      refine ⟨⟨"Connection closed.", false⟩, .disconnected, by simp [announcement?, hl, hr], rfl,
        ?_⟩
      by_cases h : s.link = .connecting ∨ s.link = .error
      · have hne : s.link ≠ .disconnected := by rcases h with h | h <;> simp [h]
        simp [Link.upon, hr, h, hne]
      · simp [Link.upon, hr, h]
  | message _ _ | subscribed _ | noted _ _ => cases hc

/-- How a callback goes after the given events, the newest first, in a life with the given
configuration and listener: it takes the session `s` to `s'` and tells of the link `l`. The link is
then as told, unless a connection is told to be closed that there is not yet. -/
structure Signals (config : Config) (listener : Option Listener) (past : List Event) (s : Session)
    (c : Callback) (told : List Status) (s' : Session) (l : Link) : Prop where
  sameConfig : s.config = config
  sameListener : s.listener = listener
  before : s.link = standing past
  told : ∃ status, s.announcement? c = some status ∧ status.link? = some l ∧
    told = if listener.isSome then [status] else []
  asTold : s'.link = l ↔
    ¬(l = .disconnected ∧ (standing past = .connecting ∨ standing past = .error))

theorem Passed.signals {n : Network} {config : Config} {listener : Option Listener}
    {past : List Event} {s : Session} {j : Journal} (h : Passed n config listener past s j)
    {c : Callback} (hc : c.news?.isSome = true) :
    ∃ l, Signals config listener past s c (statusesIn ((handle c).run n s j).trace)
      ((handle c).run n s j).state l := by
  have hl : s.link ≠ .shutdown := by
    rw [h.link]
    exact standing_ne_shutdown past
  obtain ⟨status, l, ha, hs, hlink⟩ := link?_announcement hl hc
  refine ⟨l, h.keeps.1, h.keeps.2, h.link, ⟨status, ha, hs, ?_⟩, ?_⟩
  · obtain ⟨r, t, o, ⟨j', hr, _⟩, _, ht, _⟩ := ends_handle_after n s j c
    rw [hr, statusesIn_during, ht, announces_of_some s ha, statusesIn_toldTo, h.keeps.2]
  · rw [link_handle, Link.hear_eq_upon hl, hlink, h.link]

/-- **Right after each callback about the connection the link is as the status tells, but for a
connection that is closed while a session is connecting or after an error.** This holds wherever a life
of starts and callbacks comes, so for each callback in it, also for one that is heard during a
start. -/
theorem link_as_told (n : Network) (config : Config) (listener : Option Listener)
    (os : List (List Text ⊕ Callback)) :
    let events := history n (fresh config listener) .empty (os.map operation)
    let e := lived n config listener (os.map operation)
    Passed n config listener events.reverse e.state e.journal ∧
      (∀ before c t f after, events = before ++ .deed (.during (.callback c) t f) :: after →
        ∃ s j, Passed n config listener before.reverse s j ∧
          ((handle c).run n s j).trace = [.during (.callback c) t f]) ∧
      ∀ past s j c, Passed n config listener past s j → c.news?.isSome = true →
        ∃ l, Signals config listener past s c (statusesIn ((handle c).run n s j).trace)
          ((handle c).run n s j).state l := by
  intro events e
  have hpassed : Passed n config listener events.reverse e.state e.journal := by
    have hfresh : Passed n config listener [] (fresh config listener) .empty := .fresh
    have hlive := passed_live hfresh os
    rwa [List.append_nil] at hlive
  refine ⟨hpassed, fun before c t f after he => ?_, fun past s j c hp hc => hp.signals hc⟩
  have hsplit : events.reverse =
      after.reverse ++ .deed (.during (.callback c) t f) :: before.reverse := by
    rw [he, List.reverse_append, List.reverse_cons, List.append_assoc]
    rfl
  exact hpassed.exists_heard hsplit

/-- A connection that is closed while a session is connecting is told to be closed, and the session
goes on connecting. -/
theorem closed_while_connecting :
    (lived .silent smallConfig (some .reporting)
        [.start ["t"], .callback (.disconnected ⟨"Normal disconnection", false⟩)]).state.link =
          .connecting ∧
      (lived .silent smallConfig (some .reporting)
        [.start ["t"],
          .callback (.disconnected ⟨"Normal disconnection", false⟩)]).journal.statuses =
          [⟨"Connection closed.", false⟩] :=
  ⟨rfl, rfl⟩

end Session

end DeltaBridge
