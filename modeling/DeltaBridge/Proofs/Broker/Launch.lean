import DeltaBridge.Proofs.Broker.Starting

/-!
# Launches

A start makes a client and gets its loop running; nothing else makes a loop run. Only then it hears
from its client. If it does not get so far, it fails.

* `Session.openLoop`, `Session.attend`, `Session.opening`: the two halves of a start; `run_start`;
* `CallRecord.prepares`, `Deed.Prepares`: what is done to a client before its loop runs;
* `Session.Readies`: an action that does only that; `Session.Opened`, `ends_openLoop`: how a loop
  is opened;
* `Session.Starts`, **`starts`**: how a start goes.
-/

namespace DeltaBridge

theorem Act.attempt_bind {σ α β : Type} (x : Act σ α) (f : α → Act σ β) :
    attempt (x >>= f) = (do
      match ← attempt x with
      | .ok a => attempt (f a)
      | .error e => pure (.error e)) := by
  funext n s j
  show (attempt (x >>= f)).run n s j = Act.run _ n s j
  rw [run_attempt, run_bind, run_bind, run_attempt]
  rcases x.run n s j with ⟨e | a, s', j', t⟩
  · simp [Ended.after]
  · rfl

/-- A call that sets up a client, and does not get its loop running. -/
def CallRecord.prepares (r : CallRecord) : Bool :=
  match r.call with
  | .create _ | .authenticate _ _ | .encrypt | .setReconnectDelay _ _ | .connect _ _ _ => true
  | .startLoop => r.outcome.failure?.isSome
  | _ => false

/-- Such a call on the given client. -/
inductive Deed.Prepares (k : Client) : Deed → Prop
  | made {x : Call} {o : Outcome} (h : CallRecord.prepares ⟨k, x, o⟩ = true) :
    Prepares k (.made ⟨k, x, o⟩)

theorem prepares_of_mem_callsIn {k : Client} {t : List Deed} (h : ∀ d ∈ t, d.Prepares k)
    {r : CallRecord} (hr : r ∈ callsIn t) : r.prepares = true := by
  induction t with
  | nil => cases hr
  | cons d t ih =>
    rw [callsIn_cons, List.mem_append] at hr
    rcases hr with hr | hr
    · cases h d List.mem_cons_self with
      | made hx =>
        rw [callsIn_made, List.mem_singleton] at hr
        rw [hr]
        exact hx
    · exact ih (fun d hd => h d (List.mem_cons_of_mem _ hd)) hr

theorem newsIn_of_prepares {k : Client} {t : List Deed} (h : ∀ d ∈ t, d.Prepares k) :
    newsIn t = none := by
  induction t with
  | nil => rfl
  | cons d t ih =>
    rw [newsIn, ih fun d hd => h d (List.mem_cons_of_mem _ hd)]
    cases h d List.mem_cons_self
    rfl

namespace Session

open Act

/-! ## The halves of a start -/

/-- A new client, connected and with its loop running. -/
def openLoop : Act Session Unit := do
  setUp
  let config := (← state).config
  callClient (.connect config.address.host config.address.port config.keepalive)
  callClient .startLoop

/-- What a start does once the loop of its client runs: it hears from its client. -/
def attend : Act Session Bool := do settle (← attempt do each handle (← atStart))

/-- What a start does with the topics in place. -/
def opening : Act Session Bool := do
  match ← attempt openLoop with
  | .ok _ => attend
  | .error e => settle (.error e)

/-- The session at the beginning of a start. -/
def starting (s : Session) (topics : TopicSet) : Session :=
  { s with topics := topics, link := s.link.move .connecting }

theorem launch_eq : launch = openLoop >>= fun _ => (do each handle (← atStart)) := by
  simp only [launch, openLoop, bind_assoc]

theorem opening_eq : opening = (do settle (← attempt launch)) := by
  rw [launch_eq, attempt_bind, bind_assoc, opening]
  congr 1
  funext r
  rcases r with e | a
  · exact (pure_bind (Except.error e) settle).symm
  · rfl

section Running

variable (n : Network) (s : Session) (j : Journal)

theorem run_start (topics : TopicSet) :
    ∃ j', j'.calls = j.calls ∧ j.Records [.wanted topics] j' ∧
      (start topics).run n s j = (opening.run n (s.starting topics) j').after [.wanted topics] := by
  rw [start_eq, ← opening_eq]
  -- what `opening` does plays no part
  generalize opening = x
  exact ⟨j.report _, rfl, ⟨by simp, by simp⟩, rfl⟩

/-! ## Opening a loop -/

/-- What is done until the loop of the client runs, or until this fails. -/
inductive Opened (k : Client) : Except Failure Unit → List Deed → Prop
  | failed {t : List Deed} (e : Failure) (ht : ∀ d ∈ t, d.Prepares k) : Opened k (.error e) t
  | running {t : List Deed} (code : Int) (ht : ∀ d ∈ t, d.Prepares k) :
    Opened k (.ok ()) (t ++ [.made ⟨k, .startLoop, .returned code⟩])

theorem Opened.prepend {k : Client} {r : Except Failure Unit} {t u : List Deed}
    (ht : ∀ d ∈ t, d.Prepares k) (h : Opened k r u) : Opened k r (t ++ u) := by
  cases h with
  | failed e hu => exact .failed e (List.forall_mem_append.2 ⟨ht, hu⟩)
  | running code hu =>
    rw [← List.append_assoc]
    exact .running code (List.forall_mem_append.2 ⟨ht, hu⟩)

/-- If the client is that of the session, each run of the action only prepares it, and leaves the
session as it is. -/
def Readies (n : Network) (k : Client) {α : Type} (x : Act Session α) : Prop :=
  ∀ s j, s.client = some k → ∃ r t, Ends n s j x r s t ∧ ∀ d ∈ t, d.Prepares k

theorem passes_readies (k : Client) : Passes (fun {_} x => Readies n k x) where
  pure a s j _ := ⟨_, [], .pure a, by simp⟩
  ofLogged x s j _ := ⟨_, [], .ofLogged x, by simp⟩
  bind := by
    intro α β x f hx hf s j hs
    obtain ⟨r, t, ⟨j', hr, hj⟩, ht⟩ := hx s j hs
    rcases r with e | a
    · exact ⟨_, t, .bind_error ⟨j', hr, hj⟩, ht⟩
    · obtain ⟨r, u, hu, hau⟩ := hf a s j' hs
      exact ⟨r, t ++ u, .seq hr hj hu, List.forall_mem_append.2 ⟨ht, hau⟩⟩

theorem readies_perform {k : Client} {x : Call} (hx : ∀ o, CallRecord.prepares ⟨k, x, o⟩ = true) :
    Readies n k (perform k x) := by
  refine fun s j _ => ⟨_, _, .perform k x, fun d hd => ?_⟩
  rw [List.mem_singleton.1 hd]
  exact .made (hx _)

/-- Everything that is done to a new client before its loop is started. -/
def dial (config : Config) (k : Client) : Act Session Unit := do
  ready config k
  let config := (← state).config
  callClient (.connect config.address.host config.address.port config.keepalive)

theorem readies_dial (config : Config) (k : Client) : Readies n k (dial config k) := by
  have h := passes_readies n k
  refine h.bind (h.ready (fun x hx hne => readies_perform n fun o => ?_) config) fun _ => ?_
  · cases x with
    | authenticate _ _ | encrypt | setReconnectDelay _ _ | connect _ _ _ => rfl
    | startLoop => exact absurd rfl hne
    | create _ | stopLoop | disconnect | subscribe _ | publish _ _ _ _ => exact hx.elim
  · intro s j hs
    have hconnect : Readies n k (perform k
        (.connect s.config.address.host s.config.address.port s.config.keepalive)) :=
      readies_perform n fun _ => rfl
    obtain ⟨r, t, ht, hk⟩ := h.bind hconnect (fun _ => h.pure ()) s j hs
    refine ⟨r, t, .next rfl (.next rfl ?_), hk⟩
    rw [hs]
    exact ht

theorem openLoop_eq :
    openLoop = (do
      let config := (← state).config
      let c ← create config.clientId
      change fun s => { s with client := some c }
      dial config c
      callClient .startLoop) := by
  simp only [openLoop, setUp_eq, dial, bind_assoc]

theorem ends_startLoop {k : Client} (hs : s.client = some k) :
    ∃ r t, Ends n s j (callClient .startLoop) r s t ∧ Opened k r t := by
  have hp := Ends.perform (n := n) (s := s) (j := j) k .startLoop
  have hrun : ∀ {r : Except Failure Unit} {t : List Deed},
      Ends n s j (do let _ ← perform k .startLoop) r s t →
        Ends n s j (callClient .startLoop) r s t := by
    intro r t h
    refine Ends.next rfl ?_
    rw [hs]
    exact h
  generalize n.answer j.calls k .startLoop = o at hp
  have hfailed : ∀ e, o.failure? = some e → ∀ d ∈ [Deed.made ⟨k, .startLoop, o⟩], d.Prepares k := by
    intro e he d hd
    rw [List.mem_singleton.1 hd]
    exact .made (by rw [CallRecord.prepares, he]; rfl)
  cases o with
  | returned code =>
    exact ⟨_, _, hrun (hp.bind (u := []) fun _ _ => .pure ()), .running (t := []) code (by simp)⟩
  | failed reason => exact ⟨_, _, hrun hp.bind_error, .failed _ (hfailed _ rfl)⟩
  | interrupted => exact ⟨_, _, hrun hp.bind_error, .failed _ (hfailed _ rfl)⟩

theorem ends_dialled (config : Config) {k : Client} (hs : s.client = some k) :
    ∃ r t, Ends n s j (do dial config k; callClient .startLoop) r s t ∧ Opened k r t := by
  obtain ⟨r, t, ⟨j', hr, hj⟩, ht⟩ := readies_dial n config k s j hs
  rcases r with e | ⟨⟩
  · exact ⟨_, t, .bind_error ⟨j', hr, hj⟩, .failed e ht⟩
  · obtain ⟨r, u, hu, hk⟩ := ends_startLoop n s j' hs
    exact ⟨r, _, .seq hr hj hu, hk.prepend ht⟩

/-- The session with the given new client. -/
def owning (s : Session) (k : Client) : Session := { s with client := some k }

/-- **Only the last thing done gets the loop of the new client running.** -/
theorem ends_openLoop :
    ∃ r s' t, Ends n s j openLoop r s' t ∧ Opened j.calls.length r t ∧
      (s' = s.owning j.calls.length ∨ s' = s ∧ r ≠ .ok ()) := by
  rw [openLoop_eq]
  obtain ⟨j', hcreate, hj⟩ := Ends.create (n := n) (s := s) (j := j) s.config.clientId
  generalize j.calls.length = k at hcreate hj ⊢
  generalize n.answer j.calls k (.create s.config.clientId) = o at hcreate hj
  have hprep : ∀ d ∈ [Deed.made ⟨k, .create s.config.clientId, o⟩], d.Prepares k := by
    intro d hd
    rw [List.mem_singleton.1 hd]
    exact .made rfl
  cases o with
  | returned code =>
    obtain ⟨r, t, ht, ho⟩ := ends_dialled n (s.owning k) j' s.config rfl
    exact ⟨r, _, _, .next rfl (.seq hcreate hj (.next rfl ht)), ho.prepend hprep, .inl rfl⟩
  | failed reason | interrupted =>
    exact ⟨_, s, _, .next rfl (.bind_error ⟨_, hcreate, hj⟩), .failed _ hprep, .inr ⟨rfl, by simp⟩⟩

/-! ## Starts -/

/-- How a start goes: it prepares a new client, and if the loop of that gets to run, it attends to
what it hears. -/
inductive Starts (topics : TopicSet) : Ended Session Bool → Prop
  | failed {s' : Session} {j' : Journal} {t : List Deed} (e : Failure)
    (hs : s' = (s.starting topics).owning j.calls.length ∨ s' = s.starting topics)
    (ht : ∀ d ∈ t, d.Prepares j.calls.length) (hj : j.Records (.wanted topics :: t) j') :
    Starts topics (((settle (.error e)).run n s' j').after (.wanted topics :: t))
  | launched {j' : Journal} {t : List Deed} (code : Int) (ht : ∀ d ∈ t, d.Prepares j.calls.length)
    (hj : j.Records (.wanted topics :: (t ++ [.made ⟨j.calls.length, .startLoop, .returned code⟩]))
      j') :
    Starts topics ((attend.run n ((s.starting topics).owning j.calls.length) j').after
      (.wanted topics :: (t ++ [.made ⟨j.calls.length, .startLoop, .returned code⟩])))

/-- **Every start goes like this.** -/
theorem starts (topics : TopicSet) : Starts n s j topics ((start topics).run n s j) := by
  obtain ⟨j₁, hcalls, hj₁, hrun⟩ := run_start n s j topics
  obtain ⟨r, s', t, ⟨j₂, hr, hj₂⟩, ho, hs⟩ := ends_openLoop n (s.starting topics) j₁
  rw [hcalls] at ho hs
  have hopen : opening.run n (s.starting topics) j₁ =
      ((match r with
        | .ok _ => attend
        | .error e => settle (.error e)).run n s' j₂).after t := by
    rw [opening, run_bind, run_attempt, hr]
  have hj := hj₁.append hj₂
  rw [hrun, hopen]
  cases ho with
  | failed e ht => exact .failed e (hs.imp_right And.left) ht hj
  | running code ht =>
    obtain rfl : s' = _ := hs.resolve_right fun h => h.2 rfl
    exact .launched code ht hj

end Running

end Session

end DeltaBridge
