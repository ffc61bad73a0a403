import DeltaBridge.Proofs.Broker.Life

/-!
# Starting a session

A start publishes nothing, and if the user does not interrupt it, it fails as the broker does:
whatever goes wrong in it is reported as a start that has failed.

* `Session.Quiet`: an action that publishes nothing and is not interrupted; `spreads_quiet`;
* `ends_handleAside`, `ends_await`: waiting for a connection does not fail; `settle`,
  `ends_settle_of_error`: what follows a launch;
* **`ends_start`**: how a start ends.
-/

namespace DeltaBridge.Session

open Act

/-- Each run of the action has only deeds beside the work on messages and units, and is not
interrupted. -/
def Quiet (n : Network) {α : Type} (x : Act Session α) : Prop :=
  ∀ s j, ∃ r s' t, Ends n s j x r s' t ∧ (∀ d ∈ t, d.Aside) ∧ r ≠ .error .interrupted

variable {n : Network}

/-! ## Calls -/

theorem endOfCall_ne_interrupted (hn : n.Uninterrupted) (past : List CallRecord) (c : Client)
    (x : Call) :
    endOfCall (n.answer past c x) ≠ .error .interrupted := by
  cases ho : n.answer past c x with
  | returned code => simp [endOfCall]
  | failed reason => simp [endOfCall]
  | interrupted => exact absurd ho (hn past c x)

theorem aside_made {c : Client} {x : Call}
    (hx : ∀ topic payload qos retain, x ≠ .publish topic payload qos retain) (o : Outcome) :
    (Deed.made ⟨c, x, o⟩).Aside := by
  refine ⟨rfl, ?_⟩
  rw [failureIn_made]
  cases x with
  | publish topic payload qos retain => exact absurd rfl (hx topic payload qos retain)
  | create _ | authenticate _ _ | encrypt | setReconnectDelay _ _ | connect _ _ _ | startLoop
  | stopLoop | disconnect | subscribe _ => rfl

/-! ## Quiet actions -/

theorem Quiet.pure {α : Type} (a : α) : Quiet n (pure a) :=
  fun _ _ => ⟨_, _, _, .pure a, by simp, by simp⟩

theorem Quiet.bind {α β : Type} {x : Act Session α} {f : α → Act Session β} (hx : Quiet n x)
    (hf : ∀ a, Quiet n (f a)) : Quiet n (x >>= f) := by
  intro s j
  obtain ⟨r, s₁, t, ⟨j₁, hr, hj⟩, ht, hi⟩ := hx s j
  rcases r with e | a
  · refine ⟨.error e, s₁, t, Ends.bind_error ⟨j₁, hr, hj⟩, ht, fun h => ?_⟩
    cases h
    exact hi rfl
  · obtain ⟨r, s₂, u, hu, hau, hi⟩ := hf a s₁ j₁
    exact ⟨r, s₂, t ++ u, Ends.seq hr hj hu, List.forall_mem_append.2 ⟨ht, hau⟩, hi⟩

theorem Quiet.create (hn : n.Uninterrupted) {α : Type} (id : Text) {f : Client → Act Session α}
    (hf : ∀ c, Quiet n (f c)) :
    Quiet n (do
      let c ← create id
      change fun s => { s with client := some c }
      f c) := by
  refine Quiet.bind (fun s j => ?_) fun c => Quiet.bind (fun s j => ?_) fun _ => hf c
  · refine ⟨_, s, _, .create id, ?_, ?_⟩
    · intro d hd
      rw [List.mem_singleton.1 hd]
      exact aside_made (by simp) _
    · intro h
      have hne := endOfCall_ne_interrupted hn j.calls j.calls.length (.create id)
      cases hr : endOfCall (n.answer j.calls j.calls.length (.create id)) with
      | ok code => rw [hr] at h; cases h
      | error e =>
        rw [hr] at h hne
        cases h
        exact hne rfl
  · exact ⟨_, _, _, .change _, by simp, by simp⟩

theorem Quiet.handle (hn : n.Uninterrupted) (c : Callback) : Quiet n (handle c) := by
  intro s j
  obtain ⟨r, s', t, he, _, hf, hi⟩ := ends_handle n s j c
  refine ⟨r, s', _, he, fun d hd => ?_, hi hn⟩
  rw [List.mem_singleton.1 hd]
  exact ⟨rfl, by rw [failureIn_during, hf]⟩

theorem spreads_quiet (hn : n.Uninterrupted) : Spreads (fun {_} x => Quiet n x) where
  pure := Quiet.pure
  bind := Quiet.bind
  attempt hx s j := by
    obtain ⟨r, s', t, he, ht, _⟩ := hx s j
    exact ⟨_, s', t, he.attempt, ht, by simp⟩
  state s j := ⟨_, _, _, .state, by simp, by simp⟩
  atStart s j := ⟨.ok (n.atStart j.calls), s, [], ⟨j, rfl, .refl j⟩, by simp, by simp⟩
  ofLogged x s j := ⟨_, _, _, .ofLogged x, by simp, by simp⟩
  noClient s j := ⟨_, _, _, .fail _, by simp, by simp⟩
  perform c x hx s j := by
    refine ⟨_, _, _, .perform c x, fun d hd => ?_, endOfCall_ne_interrupted hn _ _ _⟩
    rw [List.mem_singleton.1 hd]
    refine aside_made ?_ _
    intro topic payload qos retain h
    rw [h] at hx
    exact hx
  create := Quiet.create hn
  handle := Quiet.handle hn

/-! ## Starts -/

variable (n : Network) (s : Session) (j : Journal)

/-- A callback that nobody waits for does not fail. -/
theorem ends_handleAside (c : Callback) :
    ∃ s' t f, Ends n s j (handleAside c) (.ok ()) s' [.during (.callback c) t f] ∧
      s'.queue = s.queue ++ c.message?.toList ∧ failureIn t = none := by
  obtain ⟨r, s', t, he, hq, hf, _⟩ := ends_handle n s j c
  refine ⟨s', t, failure? r, ?_, hq, hf⟩
  rw [← List.append_nil [_]]
  exact Ends.bind he.attempt fun j _ => .pure ()

theorem ends_each_handleAside (cs : List Callback) :
    ∃ s' t, Ends n s j (each handleAside cs) (.ok ()) s' t ∧ ∀ d ∈ t, d.Aside := by
  induction cs generalizing s j with
  | nil => exact ⟨s, [], .pure (), by simp⟩
  | cons c cs ih =>
    obtain ⟨s₁, t, f, ⟨j₁, hr, hj⟩, _, hf⟩ := ends_handleAside n s j c
    obtain ⟨s₂, u, hu, hau⟩ := ih s₁ j₁
    refine ⟨s₂, _, Ends.seq hr hj hu, List.forall_mem_append.2 ⟨fun d hd => ?_, hau⟩⟩
    rw [List.mem_singleton.1 hd]
    exact ⟨rfl, by rw [failureIn_during, hf]⟩

/-- Waiting for a connection does not fail, and tells whether there is one in the end. -/
theorem ends_await (css : List (List Callback)) :
    ∃ s' t, Ends n s j (await css) (.ok s'.isConnected) s' t ∧ ∀ d ∈ t, d.Aside := by
  induction css generalizing s j with
  | nil =>
    by_cases hc : s.isConnected = true
    · refine ⟨s, [], Ends.next rfl ?_, by simp⟩
      rw [if_pos hc, hc]
      exact .pure true
    · refine ⟨s, [], Ends.next rfl ?_, by simp⟩
      rw [if_neg hc, Bool.eq_false_iff.2 hc]
      exact Ends.after (ends_note n s j _ _) fun j _ => .pure false
  | cons cs css ih =>
    by_cases hc : s.isConnected = true
    · refine ⟨s, [], Ends.next rfl ?_, by simp⟩
      rw [if_pos hc, hc]
      exact .pure true
    · obtain ⟨s₁, t, ⟨j₁, hr, hj⟩, ht⟩ := ends_each_handleAside n s j cs
      obtain ⟨s₂, u, hu, hau⟩ := ih s₁ j₁
      refine ⟨s₂, t ++ u, Ends.next rfl ?_, List.forall_mem_append.2 ⟨ht, hau⟩⟩
      rw [if_neg hc]
      exact Ends.seq hr hj hu

theorem aside_toldTo (l : Option Listener) (status : Status) : ∀ d ∈ toldTo l status, d.Aside := by
  cases l with
  | none => simp [toldTo]
  | some _ => simpa [toldTo] using ⟨rfl, rfl⟩

theorem aside_wanted (topics : TopicSet) : ∀ d ∈ [Deed.wanted topics], d.Aside := by
  simpa using ⟨rfl, rfl⟩

/-- What a start does once its launch has ended. -/
def settle : Except Failure Unit → Act Session Bool
  | .ok _ => do await (← waiting)
  | .error .interrupted => fail .interrupted
  | .error e => do
    moveTo .error
    announce true ("Connection error: " ++ e.message)
    fail (.broker (.startFailed e.message))

theorem start_eq (topics : TopicSet) :
    start topics = (do
      want topics
      moveTo .connecting
      let address := (← state).config.address
      note .info ("Connecting to MQTT broker at " ++ address.host ++ ":" ++ natText address.port)
      settle (← attempt launch)) := rfl

/-- A start whose launch has failed is reported, and fails. -/
theorem ends_settle_of_error {e : Failure} (he : e ≠ .interrupted) :
    Ends n s j (settle (.error e)) (.error (.broker (.startFailed e.message)))
      { s with link := s.link.move .error }
      (toldTo s.listener ⟨"Connection error: " ++ e.message, true⟩) := by
  cases e with
  | interrupted => exact absurd rfl he
  | broker _ | call _ | noClient | unwritable _ | unshowable _ =>
    rw [← List.append_nil (toldTo _ _)]
    refine Ends.after (.change _) fun j _ => ?_
    exact Ends.bind (ends_announce n _ j _ _) fun j _ => .fail _

theorem ends_settle_of_interrupted :
    Ends n s j (settle (.error .interrupted)) (.error .interrupted) s [] := .fail _

theorem ends_settle {r : Except Failure Unit} (hi : r ≠ .error .interrupted) :
    ∃ r' s' t, Ends n s j (settle r) r' s' t ∧ (∀ d ∈ t, d.Aside) ∧
      ∀ f, r' = .error f → ∃ e, f = .broker e := by
  rcases r with e | ⟨⟩
  · have he : e ≠ .interrupted := fun h => hi (by rw [h])
    refine ⟨_, _, _, ends_settle_of_error n s j he, aside_toldTo _ _, fun f hf => ?_⟩
    exact ⟨.startFailed e.message, (Except.error.inj hf).symm⟩
  · obtain ⟨s', t, ht, hat⟩ := ends_await n s j (n.waiting j.calls)
    exact ⟨.ok s'.isConnected, s', t, Ends.next rfl ht, hat, by simp⟩

/-- **An uninterrupted start fails with a failure of the broker, if at all, and publishes
nothing.** -/
theorem ends_start (hn : n.Uninterrupted) (topics : TopicSet) :
    ∃ r s' t, Ends n s j (start topics) r s' t ∧ (∀ d ∈ t, d.Aside) ∧
      ∀ f, r = .error f → ∃ e, f = .broker e := by
  rw [start_eq]
  obtain ⟨j₁, hr₁, hj₁⟩ := ends_want n s j topics
  obtain ⟨r, s₂, t, hl, ht, hi⟩ := (spreads_quiet hn).launch
    { s with topics := topics, link := s.link.move .connecting } (j₁.report _)
  obtain ⟨j₂, hr₂, hj₂⟩ := hl.attempt
  obtain ⟨r', s₃, u, hu, hau, hf⟩ := ends_settle n s₂ j₂ hi
  refine ⟨r', s₃, _,
    Ends.seq hr₁ hj₁ (Ends.next rfl (Ends.next rfl (Ends.logged (Ends.seq hr₂ hj₂ hu)))), ?_, hf⟩
  exact List.forall_mem_append.2 ⟨aside_wanted topics, List.forall_mem_append.2 ⟨ht, hau⟩⟩

end DeltaBridge.Session
