import DeltaBridge.Proofs.Broker.Launch
import DeltaBridge.Proofs.Broker.Subscription

/-!
# What a start answers

A start answers whether the link says that there is a connection. That is what the latest news say
that it has heard, whoever told them. If it has heard none, the answer is that of the time before.

* `Session.Hears`: what callbacks do to the link and to the subscribed topics, `hears_callback`;
* `attend_ok`, `start_hears`: what a start has heard when it answers;
* `Session.Answers`, **`start_answers`**: the answer of a start, and exactly when it is true of the
  client that the start has made.
-/

namespace DeltaBridge

/-- The broker accepts each call that asks for topics. -/
def Accepting (xs : List CallRecord) : Prop :=
  ∀ r ∈ xs, r.asked?.isSome = true → r.outcome = .returned 0

theorem accepting_append {xs ys : List CallRecord} :
    Accepting (xs ++ ys) ↔ Accepting xs ∧ Accepting ys := List.forall_mem_append

theorem newsIn_of_sublist {t u : List Deed} (h : t.Sublist u) (hu : newsIn u = none) :
    newsIn t = none := by
  induction h with
  | slnil => rfl
  | cons d _ ih => exact ih (Option.or_eq_none_iff.1 hu).1
  | cons_cons d _ ih =>
    obtain ⟨hu, hd⟩ := Option.or_eq_none_iff.1 hu
    exact Option.or_eq_none_iff.2 ⟨ih hu, hd⟩

namespace Session

open Act

/-! ## Hearing -/

/-- What callbacks do: the link believes the news unless it is shut down, and on a connection all
topics get subscribed if the broker accepts them. -/
structure Hears (s : Session) (t : List Deed) (s' : Session) : Prop where
  client : s'.client = s.client
  topics : s'.topics = s.topics
  shutdown : s'.link = .shutdown ↔ s.link = .shutdown
  connected : s'.link = .connected ↔
    s.link ≠ .shutdown ∧ (newsIn t).getD (decide (s.link = .connected)) = true
  idle : newsIn t = none → s'.subscribed = s.subscribed
  subscribed : newsIn t = some true → Accepting (callsIn t) → s.client.isSome →
    s.topics.isEmpty = false → s'.subscribed = s.topics

namespace Hears

variable {s s' s'' : Session} {t u : List Deed}

theorem refl (s : Session) : Hears s [] s :=
  ⟨rfl, rfl, .rfl, by cases hs : s.link <;> simp [newsIn], fun _ => rfl, fun h => by cases h⟩

theorem append (h : Hears s t s') (h' : Hears s' u s'') : Hears s (t ++ u) s'' where
  client := h'.client.trans h.client
  topics := h'.topics.trans h.topics
  shutdown := h'.shutdown.trans h.shutdown
  connected := by
    rw [h'.connected, ne_eq, h.shutdown, newsIn_append]
    cases hu : newsIn u with
    | some b => simp
    | none =>
      simp only [Option.none_or, Option.getD_none, decide_eq_true_eq, h.connected, ne_eq]
      exact ⟨fun hc => hc.2, fun hc => ⟨hc.1, hc⟩⟩
  idle hn := by
    rw [newsIn_append, Option.or_eq_none_iff] at hn
    rw [h'.idle hn.1, h.idle hn.2]
  subscribed hn ha hc ht := by
    rw [callsIn_append, accepting_append] at ha
    rw [newsIn_append] at hn
    cases hu : newsIn u with
    | some b =>
      rw [hu, Option.some_or] at hn
      have hc' : s'.client.isSome := by rw [h.client]; exact hc
      have ht' : s'.topics.isEmpty = false := by rw [h.topics]; exact ht
      rw [h'.subscribed (hu.trans hn) ha.2 hc' ht', h.topics]
    | none =>
      rw [hu, Option.none_or] at hn
      rw [h'.idle hu, h.subscribed hn ha.1 hc ht]

end Hears

/-- The course of actions that only hear. -/
def hearing : Course Session := fun s _ t s' _ => Hears s t s'

theorem composes_hearing : Composes hearing := ⟨fun s _ _ => .refl s, Hears.append⟩

theorem hears_callback (s : Session) (o : Outcome) (c : Callback) {t : List Deed}
    {f : Option Failure} (ht : callsIn t = s.asks o c) :
    Hears s [.during (.callback c) t f] (s.after o c) where
  client := rfl
  topics := rfl
  shutdown := Link.hear_eq_shutdown_iff
  connected := by rw [newsIn_callback]; exact Link.hear_eq_connected_iff
  idle hn := by
    rw [newsIn_callback] at hn
    cases c with
    | connected r => cases hn
    | connectFailed | disconnected r => cases hn
    | message _ _ | subscribed _ | noted _ _ => rfl
  subscribed hn ha hc hne := by
    rw [newsIn_callback] at hn
    obtain ⟨k, hk⟩ := Option.isSome_iff_exists.1 hc
    have hasks : s.asks o c = [⟨k, .subscribe s.requests, o⟩] := by
      rw [asks, if_pos ⟨hn, hne⟩, hk]
      rfl
    rw [callsIn_during, ht, hasks] at ha
    have ho : o = .returned 0 := ha _ List.mem_cons_self rfl
    cases c with
    | connected r => exact if_pos ⟨ho, by rw [hasks]; simp⟩
    | connectFailed | disconnected r => cases hn
    | message _ _ | subscribed _ | noted _ _ => cases hn

variable {n : Network}

theorem follows_handle_hears (c : Callback) : Follows n hearing (handle c) := by
  intro s j
  obtain ⟨r, t, o, ⟨j', hr, _⟩, ht, _⟩ := ends_handle_after n s j c
  rw [hr]
  exact hears_callback s o c ht

/-! ## Answers -/

section Starting

variable (n : Network) (s : Session) (j : Journal)

theorem settle_error_ne_ok (e : Failure) (b : Bool) :
    ((settle (.error e)).run n s j).result ≠ .ok b := by
  by_cases he : e = .interrupted
  · obtain ⟨j', hr, _⟩ := ends_settle_of_interrupted n s j
    rw [he, hr]
    simp
  · obtain ⟨j', hr, _⟩ := ends_settle_of_error n s j he
    rw [hr]
    simp

/-- A start that hears from its client and does not fail: it answers whether there is a connection
in the end. -/
theorem attend_ok {b : Bool} (h : (attend.run n s j).result = .ok b) :
    Hears s (attend.run n s j).trace (attend.run n s j).state ∧
      b = (attend.run n s j).state.isConnected := by
  have h₁ := follows_atStart (n := n) composes_hearing follows_handle_hears s j
  rcases hr : (do each handle (← atStart)).run n s j with ⟨r, s₁, j₁, t⟩
  have hrun : attend.run n s j = ((settle r).run n s₁ j₁).after t := by
    rw [attend, run_bind, run_attempt, hr]
  rw [hr] at h₁
  rw [hrun] at h ⊢
  cases r with
  | error e => exact absurd h (settle_error_ne_ok n s₁ j₁ e b)
  | ok a =>
    obtain ⟨s₂, u, ⟨j₂, hr₂, _⟩, _⟩ := ends_await n s₁ j₁ (n.waiting j₁.calls)
    have h₂ := follows_await (n := n) composes_hearing follows_handle_hears (n.waiting j₁.calls)
      s₁ j₁
    have hsettle : (settle (.ok a)).run n s₁ j₁ = (await (n.waiting j₁.calls)).run n s₁ j₁ := rfl
    rw [hr₂] at h₂ hsettle
    rw [hsettle] at h ⊢
    exact ⟨h₁.append h₂, (Except.ok.inj h).symm⟩

end Starting

/-- What the answer of a start says. -/
structure Answers (s : Session) (k : Client) (topics : TopicSet) (b : Bool)
    (e : Ended Session Bool) : Prop where
  /-- The client of the session is the one that the start has made, and all that the start hears it
  hears once the loop of this client runs. -/
  launched : e.state.client = some k ∧ ∃ before code later,
    e.trace = before ++ .made ⟨k, .startLoop, .returned code⟩ :: later ∧ newsIn before = none
  /-- The answer is what the link says in the end: the latest news, and without news that of the
  time before, unless the session was shut down. -/
  answer : b = e.state.isConnected ∧
    (b = true ↔ s.link ≠ .shutdown ∧ (newsIn e.trace).getD s.isConnected = true)
  /-- It is true of the new client, whichever part of the news is its own, exactly if a connection
  of its own is believed and stays the latest news, and otherwise none is believed in. -/
  truthful : ∀ own, own.Sublist e.trace →
    ((b = true ↔ newsIn own = some true) ↔
      (newsIn own = some true → s.link ≠ .shutdown ∧ newsIn e.trace = some true) ∧
      (newsIn own ≠ some true → s.link = .shutdown ∨ (newsIn e.trace).getD s.isConnected = false))
  /-- With a connection and an accepting broker, the subscribed topics are those of the start
  exactly if the start has heard of the connection, or they were the same before. -/
  subscribed : b = true → topics.isEmpty = false → Accepting (callsIn e.trace) →
    (e.state.subscribed = topics ↔ newsIn e.trace = some true ∨ s.subscribed = topics)

section Answering

variable {n : Network} {s : Session} {j : Journal} {topics : TopicSet} {b : Bool}

/-- A start that does not fail hears nothing before the loop of its client runs. -/
theorem start_hears (h : ((start topics).run n s j).result = .ok b) :
    b = ((start topics).run n s j).state.isConnected ∧ ∃ before code later,
      ((start topics).run n s j).trace =
          before ++ .made ⟨j.calls.length, .startLoop, .returned code⟩ :: later ∧
        newsIn before = none ∧
        Hears ((s.starting topics).owning j.calls.length) later
          ((start topics).run n s j).state := by
  have hstarts := starts n s j topics
  generalize (start topics).run n s j = e at h hstarts
  cases hstarts with
  | failed e _ _ _ => exact absurd h (settle_error_ne_ok _ _ _ e b)
  | launched code ht hj =>
    rename_i j' t
    obtain ⟨hheard, hb⟩ := attend_ok n _ j' h
    refine ⟨hb, .wanted topics :: t, code, _, ?_, ?_, hheard⟩
    · rw [Ended.trace_after, List.cons_append, List.cons_append, List.append_assoc]
      rfl
    · rw [newsIn, newsIn_of_prepares ht]
      rfl

/-- **The answer of a start.** It says what the latest news say that the start has heard, unless the
session was shut down. But without news it says that there is a connection if there was one before,
and then the new topics are not subscribed; and it does not matter who has told the news. -/
theorem start_answers (h : ((start topics).run n s j).result = .ok b) :
    Answers s j.calls.length topics b ((start topics).run n s j) := by
  obtain ⟨hb, before, code, later, htrace, hbefore, hlater⟩ := start_hears h
  have hnews : newsIn ((start topics).run n s j).trace = newsIn later := by
    rw [htrace, newsIn_append, newsIn, hbefore, Option.or_none]
    exact Option.or_none
  have hanswer : b = true ↔ s.link ≠ .shutdown ∧
      (newsIn ((start topics).run n s j).trace).getD s.isConnected = true := by
    have hdown : (s.starting topics).link = .shutdown ↔ s.link = .shutdown := by
      simp [starting, Link.move_eq_shutdown_iff]
    have hup : decide ((s.starting topics).link = .connected) = s.isConnected :=
      decide_eq_decide.2 Link.move_connecting_eq_connected_iff
    rw [hb, isConnected, decide_eq_true_eq, hlater.connected, hnews]
    rw [show ((s.starting topics).owning j.calls.length).link = (s.starting topics).link from rfl,
      hup, ne_eq, hdown]
  refine ⟨⟨hlater.client, before, code, later, htrace, hbefore⟩, ⟨hb, hanswer⟩, fun own hown => ?_,
    fun htrue hne haccept => ?_⟩
  · -- news of its own are news of the start, which are then not those of the time before
    rw [hanswer]
    by_cases ho : newsIn own = some true
    · have hsome : newsIn ((start topics).run n s j).trace ≠ none := fun hn => by
        rw [newsIn_of_sublist hown hn] at ho
        cases ho
      obtain ⟨told, htold⟩ := Option.ne_none_iff_exists'.1 hsome
      simp [ho, htold]
    · by_cases hl : s.link = .shutdown <;> simp [ho, hl]
  · have hclient : ((s.starting topics).owning j.calls.length).client.isSome := rfl
    have haccept : Accepting (callsIn later) := fun r hr => haccept r (by
      rw [htrace, callsIn_append, callsIn_cons]
      exact List.mem_append_right _ (List.mem_append_right _ hr))
    rw [hnews]
    cases hn : newsIn later with
    | none =>
      rw [hlater.idle hn]
      simp [owning, starting]
    | some told =>
      obtain rfl : told = true := by
        have := (hanswer.1 htrue).2
        rwa [hnews, hn] at this
      exact iff_of_true (hlater.subscribed hn haccept hclient hne) (.inl rfl)

/-- A network whose clients connect as soon as their loop is started. -/
def promptNetwork : Network :=
  { Network.silent with atStart := fun _ => [.connected ⟨"Success", false⟩] }

theorem small_start_answers :
    ((start (.ofList ["t"])).run promptNetwork (fresh smallConfig none) .empty).result = .ok true ∧
      Answers (fresh smallConfig none) 0 (.ofList ["t"]) true
        ((start (.ofList ["t"])).run promptNetwork (fresh smallConfig none) .empty) :=
  ⟨rfl, start_answers (j := .empty) rfl⟩

/-- A second start, with another topic, while there is a connection. -/
def smallRestart : Ended Session Bool :=
  (start (.ofList ["u"])).run .silent (lived .silent smallConfig none smallStart).state
    (lived .silent smallConfig none smallStart).journal

/-- It answers that there is a connection, though its client has told of none, and only the topic of
the first start is subscribed. -/
theorem restart_answers_unheard :
    smallRestart.result = .ok true ∧ newsIn smallRestart.trace = none ∧
      smallRestart.state.subscribed.toList = [("t" : Text)] :=
  ⟨rfl, rfl, rfl⟩

end Answering

end Session

end DeltaBridge
