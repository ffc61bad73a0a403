import DeltaBridge.Proofs.Broker.Launch

/-!
# Clients and their sessions

Only a start gives a session another client. Whatever else a session does, but for a stop, it starts
the loop of its own client at most, disconnects none, and publishes only what it is asked to.

* `KeepsTo`: calls that start the loop of the given client at most, and disconnect none;
* `Session.loyal`: the course of actions that keep to the client of their session;
  `follows_handle_loyal`, `follows_settle_loyal`, `follows_dialled_loyal`: such actions;
* `Session.Owns`: the loops that were started are of the client that the session has in the end;
  `run_opening`: a start makes a client first; **`owns_start`**: the loops that a start starts;
* **`result_start`**: a start fails only if it is interrupted, or as the broker does.
-/

namespace DeltaBridge

/-- The calls disconnect no client, and start no loop but that of the given client. -/
def KeepsTo (c : Option Client) (xs : List CallRecord) : Prop :=
  ∀ r ∈ xs, r.call ≠ .disconnect ∧ (r.call = .startLoop → c = some r.client)

namespace KeepsTo

variable {c : Option Client} {xs ys : List CallRecord}

theorem nil : KeepsTo c [] := fun _ h => absurd h List.not_mem_nil

theorem append (h : KeepsTo c xs) (h' : KeepsTo c ys) : KeepsTo c (xs ++ ys) :=
  List.forall_mem_append.2 ⟨h, h'⟩

theorem single {k : Client} {x : Call} {o : Outcome} (hd : x ≠ .disconnect)
    (hl : x = .startLoop → c = some k) : KeepsTo c [⟨k, x, o⟩] :=
  List.forall_mem_singleton.2 ⟨hd, hl⟩

end KeepsTo

namespace Session

open Act

/-! ## Actions that keep to their client -/

/-- The course of actions that keep to the client of their session, and publish nothing. -/
def loyal : Course Session := fun s j t s' j' =>
  j.Records t j' ∧ s'.client = s.client ∧ KeepsTo s.client (callsIn t) ∧ failureIn t = none

theorem composes_loyal : Composes loyal where
  report _ j rs := ⟨.of_report j rs, rfl, .nil, rfl⟩
  append := by
    rintro s j t s' j' u s'' j'' ⟨hj, hc, ht, hf⟩ ⟨hj', hc', hu, hf'⟩
    refine ⟨hj.append hj', hc'.trans hc, ?_, ?_⟩
    · rw [callsIn_append]
      exact ht.append (hc ▸ hu)
    · rw [failureIn_append, hf, hf']
      rfl

section Actions

variable {n : Network}

theorem follows_change_loyal {f : Session → Session} (hf : ∀ s, (f s).client = s.client) :
    Follows n loyal (change f) :=
  fun s j => ⟨.refl j, hf s, .nil, rfl⟩

theorem follows_tell_loyal (l : Listener) (status : Status) : Follows n loyal (tell l status) :=
  fun _ _ => ⟨⟨by simp, by simp⟩, rfl, .nil, rfl⟩

theorem failureIn_opens {k : Client} {x : Call} (hx : Opens x) (o : Outcome) :
    failureIn [.made ⟨k, x, o⟩] = none := by
  rw [failureIn_made]
  cases x <;> first | exact hx.elim | rfl

theorem follows_perform_loyal (k : Client) {x : Call} (hx : Opens x) (hl : x ≠ .startLoop) :
    Follows n loyal (perform k x) := by
  refine fun s j => ⟨.of_call j _, rfl, .single ?_ fun h => absurd h hl, failureIn_opens hx _⟩
  rintro rfl
  exact hx

theorem follows_callClient_loyal {x : Call} (hx : Opens x) : Follows n loyal (callClient x) := by
  intro s j
  rcases s with ⟨config, listener, link, _ | k, topics, subscribed, queue⟩
  · exact composes_loyal.nil _ j
  · generalize hs : (⟨config, listener, link, some k, topics, subscribed, queue⟩ : Session) = s
    have hperform : loyal s j [.made ⟨k, x, n.answer j.calls k x⟩] s
        (j.record ⟨k, x, n.answer j.calls k x⟩) := by
      refine ⟨.of_call j _, rfl, .single ?_ fun _ => by rw [← hs], failureIn_opens hx _⟩
      rintro rfl
      exact hx
    have hrun : (callClient x).run n s j =
        (do let _ ← perform k x : Act Session Unit).run n s j := by rw [← hs]; rfl
    rw [hrun, run_bind, run_perform]
    cases endOfCall (n.answer j.calls k x) with
    | error e => exact hperform
    | ok code => exact hperform

theorem follows_handle_loyal (c : Callback) : Follows n loyal (handle c) := by
  intro s j
  obtain ⟨r, t, o, ⟨j', hr, hj⟩, ht, _⟩ := ends_handle_after n s j c
  rw [hr]
  refine ⟨hj, rfl, fun x hx => ?_, ?_⟩
  · rw [callsIn_during, ht, asks] at hx
    split at hx
    · obtain ⟨k, _, rfl⟩ := List.mem_map.1 hx
      exact ⟨by simp, by simp⟩
    · cases hx
  · rw [failureIn_during, failureIn, ht, List.findSome?_eq_none_iff]
    exact fun x hx => failure?_of_mem_asks s hx

theorem follows_handleAside_loyal (c : Callback) : Follows n loyal (handleAside c) :=
  Follows.bind composes_loyal (follows_handle_loyal c).attempt fun _ =>
    Follows.pure composes_loyal ()

theorem follows_settle_loyal (r : Except Failure Unit) : Follows n loyal (settle r) := by
  have h := composes_loyal
  rcases r with e | a
  · cases e with
    | interrupted => exact Follows.fail h _
    | broker _ | call _ | noClient | unwritable _ | unshowable _ =>
      refine Follows.bind h (follows_change_loyal fun _ => rfl) fun _ => ?_
      refine Follows.bind h ?_ fun _ => Follows.fail h _
      exact (passes_follows h).announce (Follows.state h) follows_tell_loyal _ _
  · exact Follows.bind h (Follows.waiting h) (follows_await h follows_handle_loyal)

theorem follows_attend_loyal : Follows n loyal attend :=
  Follows.bind composes_loyal (follows_atStart composes_loyal follows_handle_loyal).attempt
    follows_settle_loyal

/-- Everything that is done to a new client until its loop runs. -/
def bringUp (config : Config) (k : Client) : Act Session Unit := do
  dial config k
  callClient .startLoop

/-- What a start does once it has made a client. -/
def dialled (config : Config) (k : Client) : Act Session Bool := do
  match ← attempt (bringUp config k) with
  | .ok _ => attend
  | .error e => settle (.error e)

theorem follows_dialled_loyal (config : Config) (k : Client) :
    Follows n loyal (dialled config k) := by
  have h := composes_loyal
  have hdial : Follows n loyal (dial config k) := by
    refine Follows.bind h ?_ fun _ => Follows.bind h (Follows.state h) fun _ => ?_
    · exact (passes_follows h).ready (fun x hx hl => follows_perform_loyal k hx hl) config
    · exact follows_callClient_loyal (x := .connect _ _ _) trivial
  refine Follows.bind h (Follows.attempt (Follows.bind h hdial fun _ => ?_)) fun r => ?_
  · exact follows_callClient_loyal (x := .startLoop) trivial
  · split
    · exact follows_attend_loyal
    · exact follows_settle_loyal _

theorem follows_drain_loyal : Follows n loyal drain :=
  Follows.bind composes_loyal (Follows.state composes_loyal) fun _ =>
    Follows.bind composes_loyal (follows_change_loyal fun _ => rfl) fun _ =>
      Follows.pure composes_loyal _

end Actions

/-! ## Starts -/

/-- What has been done from the journal on: no client was disconnected, nothing was published, and
the loops that were started are of the client that the session has in the end. -/
structure Owns {α : Type} (j : Journal) (e : Ended Session α) : Prop where
  records : j.Records e.trace e.journal
  keeps : KeepsTo e.state.client (callsIn e.trace)
  failure : failureIn e.trace = none

theorem Owns.of_loyal {α : Type} {n : Network} {x : Act Session α} (hx : Follows n loyal x)
    (s : Session) {j j' : Journal} {t : List Deed} (hj : j.Records t j')
    (ht : ∀ c, KeepsTo c (callsIn t)) (hf : failureIn t = none) :
    Owns j ((x.run n s j').after t) := by
  obtain ⟨hj', hc, hu, hf'⟩ := hx s j'
  refine ⟨hj.append hj', ?_, ?_⟩
  · rw [Ended.state_after, Ended.trace_after, callsIn_append, hc]
    exact (ht _).append hu
  · rw [Ended.trace_after, failureIn_append, hf, hf']
    rfl

section Starting

variable (n : Network) (s : Session) (j : Journal)

/-- The creation of the client with which a start begins. -/
def creation : CallRecord :=
  ⟨j.calls.length, .create s.config.clientId,
    n.answer j.calls j.calls.length (.create s.config.clientId)⟩

theorem run_openLoop :
    openLoop.run n s j =
      match endOfCall (creation n s j).outcome with
      | .ok _ => ((bringUp s.config j.calls.length).run n (s.owning j.calls.length)
          (j.record (creation n s j))).after [.made (creation n s j)]
      | .error e => ⟨.error e, s, j.record (creation n s j), [.made (creation n s j)]⟩ := by
  have hcreate : (create s.config.clientId : Act Session Client).run n s j =
      ⟨(endOfCall (creation n s j).outcome).map fun _ => j.calls.length, s,
        j.record (creation n s j), [.made (creation n s j)]⟩ := rfl
  rw [openLoop_eq, run_bind, run_state]
  dsimp only
  rw [run_bind, hcreate]
  cases endOfCall (creation n s j).outcome <;> rfl

/-- A start makes a client and goes on with that; if it gets none, it settles. -/
theorem run_opening :
    opening.run n s j =
      match endOfCall (creation n s j).outcome with
      | .ok _ => ((dialled s.config j.calls.length).run n (s.owning j.calls.length)
          (j.record (creation n s j))).after [.made (creation n s j)]
      | .error e => ((settle (.error e)).run n s (j.record (creation n s j))).after
          [.made (creation n s j)] := by
  rw [opening, run_bind, run_attempt, run_openLoop]
  cases endOfCall (creation n s j).outcome with
  | error e => rfl
  | ok code =>
    dsimp only
    rw [dialled, run_bind, run_attempt]
    rfl

theorem owns_opening : Owns j (opening.run n s j) := by
  have hj : j.Records [.made (creation n s j)] (j.record (creation n s j)) := .of_call j _
  have ht : ∀ c, KeepsTo c (callsIn [.made (creation n s j)]) := fun c =>
    .single (by simp) (by simp)
  rw [run_opening]
  cases endOfCall (creation n s j).outcome with
  | error e => exact .of_loyal (follows_settle_loyal _) s hj ht rfl
  | ok code => exact .of_loyal (follows_dialled_loyal _ _) _ hj ht rfl

/-- **A start starts the loop of the client that the session has in the end, if any.** -/
theorem owns_start (topics : TopicSet) : Owns j ((start topics).run n s j) := by
  obtain ⟨j', _, hj, hrun⟩ := run_start n s j topics
  obtain ⟨hrec, hk, hf⟩ := owns_opening n (s.starting topics) j'
  rw [hrun]
  refine ⟨hj.append hrec, ?_, ?_⟩
  · rw [Ended.trace_after, callsIn_append]
    exact hk
  · rw [Ended.trace_after, failureIn_append, hf]
    rfl

theorem result_settle (r : Except Failure Unit) :
    (∃ b, ((settle r).run n s j).result = .ok b) ∨
      ((settle r).run n s j).result = .error .interrupted ∨
      ∃ e, ((settle r).run n s j).result = .error (.broker e) := by
  rcases r with e | a
  · by_cases he : e = .interrupted
    · obtain ⟨j', hr, _⟩ := ends_settle_of_interrupted n s j
      rw [he, hr]
      exact .inr (.inl rfl)
    · obtain ⟨j', hr, _⟩ := ends_settle_of_error n s j he
      rw [hr]
      exact .inr (.inr ⟨_, rfl⟩)
  · obtain ⟨s', t, ⟨j', hr, _⟩, _⟩ := ends_await n s j (n.waiting j.calls)
    refine .inl ⟨s'.isConnected, ?_⟩
    rw [show (settle (.ok a)).run n s j = (await (n.waiting j.calls)).run n s j from rfl, hr]

/-- **A start fails only if it is interrupted, or as the broker does.** -/
theorem result_start (topics : TopicSet) :
    (∃ b, ((start topics).run n s j).result = .ok b) ∨
      ((start topics).run n s j).result = .error .interrupted ∨
      ∃ e, ((start topics).run n s j).result = .error (.broker e) := by
  obtain ⟨j', _, _, hrun⟩ := run_start n s j topics
  rw [hrun, opening_eq, run_bind, run_attempt]
  exact result_settle n _ _ _

end Starting

end Session

end DeltaBridge
