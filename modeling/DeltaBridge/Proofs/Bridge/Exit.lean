import DeltaBridge.Bridge.Program
import DeltaBridge.Proofs.Bridge.Containment
import DeltaBridge.Proofs.Broker.Ownership

/-!
# How a program ends

Once the bridge has started up, it is shut down however its turns end: its client is disconnected
before the program ends. But if the start itself is interrupted, or units cannot be published in it,
the program ends at once, and a client whose loop runs is left alone.

* `Bridge.loyal`: the course of actions that keep to the client of the session,
  `follows_pumpAll_loyal`: taking turns is of it;
* `Bridge.StartsUp`, `startsUp`: how a bridge with a session starts up, `StartsUp.failure`: exactly
  when it fails;
* `AllHungUp`: each client whose loop was to be started is disconnected later;
* `Program.Exits`, **`Program.exits`**: how the program ends, and exactly when all clients are
  disconnected; `interrupted_start_leaves_client`: when one is not.
-/

namespace DeltaBridge

open Act

namespace Bridge

/-- The client of the session. -/
def client? (b : Bridge) : Option Client := b.transport.bind Session.client

/-! ## Actions that keep to their client -/

/-- The course of actions that keep to the client of the session, and to the session. -/
def loyal : Course Bridge := fun b j t b' j' =>
  j.Records t j' ∧ b'.transport.isSome = b.transport.isSome ∧ b'.client? = b.client? ∧
    KeepsTo b.client? (callsIn t)

theorem composes_loyal : Composes loyal where
  report _ j rs := ⟨.of_report j rs, rfl, rfl, .nil⟩
  append := by
    rintro b j t b' j' u b'' j'' ⟨hj, hs, hc, ht⟩ ⟨hj', hs', hc', hu⟩
    refine ⟨hj.append hj', hs'.trans hs, hc'.trans hc, ?_⟩
    rw [callsIn_append]
    exact ht.append (hc ▸ hu)

theorem keepsTo_of_sent {n : Network} {d : Option Text → Value} {retain : Bool} {k : Sink}
    {r : Except Failure Unit} {t : List Deed} (h : Sink.Sent n d retain k r t)
    (c : Option Client) : KeepsTo c (callsIn t) := by
  cases h with
  | reported _ => exact .nil
  | unwritten _ => exact .nil
  | published h =>
    cases h with
    | notConnected => exact .nil
    | unwritten _ => exact .nil
    | answered past k _ => exact .single (by simp) (by simp)

theorem keepsTo_of_announced {n : Network} {g : Registry} {k : Sink} {r : Except Failure Unit}
    {t : List Deed} (h : Announced n g k r t) (c : Option Client) : KeepsTo c (callsIn t) := by
  cases h with
  | nothing _ => exact .nil
  | offered _ hs =>
    rw [callsIn_during]
    exact keepsTo_of_sent hs c

section Actions

variable {n : Network}

theorem follows_onSession_loyal {α : Type} {x : Act Session α} (h : Follows n Session.loyal x) :
    Follows n loyal (onSession x) := by
  intro b j
  rcases b with ⟨i, k, _ | s, running, pending⟩
  · exact composes_loyal.nil _ j
  · obtain ⟨hj, hc, ht, _⟩ := h s j
    exact ⟨hj, rfl, hc, ht⟩

theorem follows_announce_loyal : Follows n loyal announce := by
  intro b j
  obtain ⟨r, t, ⟨j', hr, hj⟩, ha⟩ := ends_announce n b j
  rw [hr]
  exact ⟨hj, rfl, rfl, keepsTo_of_announced ha _⟩

theorem follows_handleMessage_loyal (topic : Text) (payload : Value) :
    Follows n loyal (handleMessage topic payload) := by
  intro b j
  obtain ⟨r, t, ⟨j', hr, hj⟩, hh⟩ := ends_handleMessage n b j topic payload
  rw [hr]
  refine ⟨hj, rfl, rfl, ?_⟩
  rw [callsIn_during]
  cases hh with
  | unshowable _ => exact .nil
  | unbound _ _ => exact .nil
  | offered _ _ hs =>
    rename_i sent
    have hn : ∀ r, callsIn (noticesOf r) = [] := by
      rintro (f | ⟨⟩)
      · cases f <;> rfl
      · rfl
    rw [callsIn_cons, callsIn_during, hn, List.append_nil]
    exact keepsTo_of_sent hs _

theorem follows_turn_loyal : Follows n loyal turn := by
  have h := composes_loyal
  rw [← turnAmid_nil]
  refine Follows.bind h ?_ fun _ => ?_
  · refine Follows.bind h (Follows.state h) fun b => ?_
    split
    · exact follows_announce_loyal
    · exact Follows.pure h ()
  · refine Follows.bind h (Follows.pure h ()) fun _ => ?_
    refine Follows.bind h (follows_onSession_loyal Session.follows_drain_loyal) fun ms => ?_
    rw [handleAmid_nil]
    refine Follows.each h (fun m => ?_) ms
    exact Follows.bind h (follows_handleMessage_loyal _ _) fun _ => Follows.pure h ()

theorem follows_pump_loyal : Follows n loyal pump := by
  have h := composes_loyal
  refine Follows.bind h (Follows.state h) fun b => ?_
  split
  · exact Follows.bind h (Follows.ofLogged h _) fun _ => Follows.pure h true
  · split
    · exact Follows.pure h true
    · exact Follows.bind h follows_turn_loyal fun _ => Follows.pure h false

/-- **Taking turns keeps to the client.** -/
theorem follows_pumpAll_loyal (told : List (List Callback)) : Follows n loyal (pumpAll told) := by
  have h := composes_loyal
  induction told with
  | nil =>
    refine Follows.bind h follows_pump_loyal fun stop => ?_
    split
    · exact Follows.pure h ()
    · exact Follows.fail h _
  | cons cs told ih =>
    refine Follows.bind h follows_pump_loyal fun stop => ?_
    split
    · exact Follows.pure h ()
    · refine Follows.bind h (Follows.each h (fun c => ?_) cs) fun _ => ih
      exact follows_onSession_loyal (Session.follows_handleAside_loyal c)

end Actions

/-! ## Starting up -/

section StartUp

variable (n : Network) {b : Bridge} {s : Session} (j : Journal)

/-- The outcome of the start of the session, as the bridge takes it. -/
def heed : Except Failure Bool → Act Bridge Unit
  | .ok _ => pure ()
  | .error (.broker e) => do
    note .error ("transport did not start: " ++ e.message)
    tellStatus true ("Transport error: " ++ e.message)
  | .error e => fail e

theorem run_connect (hb : b.transport = some s) :
    connect.run n b j =
      let e := (Session.start (.ofList b.registry.topics)).run n s j
      ((heed e.result).run n (b.withSession e.state) e.journal).after e.trace := by
  rcases b with ⟨interpreter, sink, transport, running, pending⟩
  obtain rfl : transport = some s := hb
  generalize hb : (⟨interpreter, sink, some s, running, pending⟩ : Bridge) = b
  generalize hx : Session.start (.ofList b.registry.topics) = x
  have hrun : connect.run n b j = (do heed (← attempt (onSession x))).run n b j := by
    rw [← hx, ← hb]
    rfl
  rw [hrun, run_bind, run_attempt, ← hb]
  rfl

theorem ends_heed (b : Bridge) {r : Except Failure Bool} (hr : r ≠ .error .interrupted)
    (h : (∃ c, r = .ok c) ∨ r = .error .interrupted ∨ ∃ e, r = .error (.broker e)) :
    ∃ t, Ends n b j (heed r) (.ok ()) b t ∧ callsIn t = [] := by
  rcases h with ⟨c, rfl⟩ | h | ⟨e, rfl⟩
  · exact ⟨[], .pure (), rfl⟩
  · exact absurd h hr
  · refine ⟨[.told ⟨"Transport error: " ++ e.message, true⟩], ?_, rfl⟩
    exact Ends.after (.ofLogged _) fun j _ => Ends.bind (u := []) (.tell _ _) fun j _ => .pure ()

theorem exists_run_startUp :
    ∃ j₁, j.Records [] j₁ ∧
      startUp.run n b j =
        (connect >>= fun _ => announce).run n { b with running := true } j₁ := by
  obtain ⟨j₁, hr, hj⟩ := ends_each_noteTopic (n := n) b
    (j.report (Logged.emit .info .bridge
      ("starting with " ++ natText b.registry.entries.length ++ " topic bindings")).reports)
    b.registry.entries
  refine ⟨j₁, (Journal.Records.of_report j _).append hj, ?_⟩
  have hnote : (note .info ("starting with " ++ natText b.registry.entries.length ++
      " topic bindings")).run n b j = ⟨.ok (), b, _, []⟩ := run_ofLogged n b j _
  rw [startUp, run_bind_of_ok n b j (run_state n b j), run_bind_of_ok n b j hnote,
    run_bind_of_ok n b _ hr, run_bind_of_ok n b j₁ (run_change n b j₁ _)]
  rfl

/-- How a bridge starts up whose session is `s`, from the journal on. -/
structure StartsUp (b : Bridge) (s : Session) (e : Ended Bridge Unit) : Prop where
  records : j.Records e.trace e.journal
  session : e.state.transport.isSome = true
  /-- No client is disconnected, and the loops that were started are of the client there is. -/
  keeps : KeepsTo e.state.client? (callsIn e.trace)
  /-- It fails exactly if the start of the session is interrupted, or a publication of the units
  fails. -/
  failure : ∃ j₁, j.Records [] j₁ ∧ failure? e.result =
    if failure? ((Session.start (.ofList b.registry.topics)).run n s j₁).result =
      some .interrupted then some .interrupted else failureIn e.trace

theorem failure_contained {i : Interpreter} {k : Sink} {r : Except Failure Unit} {t : List Deed}
    (h : Announced n i.registry k r t) : failure? (contained r) = failureIn t := by
  cases k with
  | topic name label qos => exact failure_of_announced h
  | log label =>
    cases h with
    | nothing _ => rfl
    | offered _ hs =>
      rw [failureIn_during]
      cases hs with
      | reported _ => rfl
      | unwritten h =>
        obtain ⟨text, ht⟩ := write_unitsDelta i.registry.unitNotices
        rw [ht] at h
        cases h

theorem startsUp (hb : b.transport = some s) : StartsUp n j b s (startUp.run n b j) := by
  obtain ⟨j₁, hj₁, hrun⟩ := exists_run_startUp n (b := b) j
  have hconnect := run_connect n (b := { b with running := true }) j₁ hb
  have howns := Session.owns_start n s j₁ (.ofList b.registry.topics)
  have hresult := Session.result_start n s j₁ (.ofList b.registry.topics)
  generalize he : (Session.start (.ofList b.registry.topics)).run n s j₁ = e at howns hresult
  rw [show registry { b with running := true } = b.registry from rfl, he] at hconnect
  obtain ⟨r, s', j', t⟩ := e
  obtain ⟨hj, hk, hf⟩ := howns
  by_cases hr : r = .error .interrupted
  · have hfail : connect.run n { b with running := true } j₁ =
        ⟨.error .interrupted, ({ b with running := true } : Bridge).withSession s', j', t⟩ := by
      rw [hconnect, hr]
      exact congrArg (Ended.mk _ _ _) (List.append_nil t)
    rw [hrun, run_bind_of_error n _ j₁ hfail]
    exact ⟨hj₁.append hj, rfl, hk, j₁, hj₁, by rw [he, hr]; rfl⟩
  · obtain ⟨v, ⟨j₂, hheed, hj₂⟩, hv⟩ :=
      ends_heed n j' (({ b with running := true } : Bridge).withSession s') hr hresult
    obtain ⟨a, u, ⟨j₃, hu, hj₃⟩, ha⟩ :=
      ends_announce n (({ b with running := true } : Bridge).withSession s') j₂
    have hok : connect.run n { b with running := true } j₁ =
        ⟨.ok (), ({ b with running := true } : Bridge).withSession s', j₂, t ++ v⟩ := by
      rw [hconnect]
      exact congrArg (Ended.after t) hheed
    have hnone : failureIn (t ++ v) = none := by
      rw [failureIn_append, hf, failureIn, hv]
      rfl
    rw [hrun, run_bind_of_ok n _ j₁ hok, hu]
    refine ⟨hj₁.append ((hj.append hj₂).append hj₃), rfl, ?_, j₁, hj₁, ?_⟩
    · rw [Ended.trace_after, callsIn_append, callsIn_append, hv, List.append_nil]
      exact hk.append (keepsTo_of_announced ha _)
    · rw [he, Ended.trace_after, failureIn_append, hnone, if_neg, Option.none_or]
      · exact failure_contained n ha
      · intro h
        rcases r with f | c
        · exact hr (by rw [Option.some.inj h])
        · cases h

end StartUp

/-! ## Shutting down -/

theorem ends_shutDown (n : Network) {b : Bridge} (j : Journal) (hb : b.transport.isSome = true) :
    ∃ r b' t, Ends n b j shutDown r b' t ∧
      (∀ k, b.client? = some k → Session.HangsUp k (callsIn t)) ∧
      (b.client? = none → callsIn t = []) := by
  rcases b with ⟨interpreter, sink, _ | s, running, pending⟩
  · cases hb
  have hstop : ∃ r s' t, Ends n s (j.report [⟨.info, .bridge, "stopping"⟩]) Session.stop r s' t ∧
      (∀ k, s.client = some k → Session.HangsUp k (callsIn t)) ∧
      (s.client = none → callsIn t = []) := by
    cases hc : s.client with
    | none =>
      refine ⟨_, _, _, Session.ends_stop_of_noClient n s _ hc, by simp, fun _ => ?_⟩
      rw [callsIn_during, callsIn_nil]
    | some k =>
      obtain ⟨r, t, he, ht, _⟩ := Session.ends_stop_of_client n s (j.report _) hc
      refine ⟨r, _, _, he, fun k' hk => ?_, by simp⟩
      rw [callsIn_during]
      exact Option.some.inj hk ▸ ht
  obtain ⟨r, s', t, he, hcalls⟩ := hstop
  have hend := ends_onSession n (b := ⟨interpreter, sink, some s, false, pending⟩) he
  exact ⟨r, _, t, Ends.logged (Ends.next rfl (Ends.next rfl hend)), hcalls⟩

/-- What follows once a bridge has started up. -/
def closing (told : List (List Callback)) : Act Bridge Unit := do
  let r ← attempt (pumpAll told)
  shutDown
  ofExcept r

theorem run_ofExcept {σ α : Type} (n : Network) (s : σ) (j : Journal) (r : Except Failure α) :
    (Act.ofExcept r : Act σ α).run n s j = ⟨r, s, j, []⟩ := by
  cases r <;> rfl

/-- **The turns end somehow, and then the bridge is shut down.** -/
theorem run_closing (n : Network) (b : Bridge) (j : Journal) (told : List (List Callback)) :
    (closing told).run n b j =
      let p := (pumpAll told).run n b j
      let q := shutDown.run n p.state p.journal
      ⟨q.result.bind fun _ => p.result, q.state, q.journal, p.trace ++ q.trace⟩ := by
  rw [closing, run_bind, run_attempt]
  dsimp only
  rw [run_bind]
  generalize (pumpAll told).run n b j = p
  rcases shutDown.run n p.state p.journal with ⟨f | ⟨⟩, b', j', t⟩
  · rfl
  · have hend := run_ofExcept n b' j' p.result
    dsimp only
    rw [hend]
    show (⟨p.result, b', j', p.trace ++ (t ++ [])⟩ : Ended Bridge Unit) = _
    rw [List.append_nil]
    rfl

end Bridge

/-! ## The exit -/

/-- Each client whose loop was to be started is disconnected later. -/
def AllHungUp (xs : List CallRecord) : Prop :=
  ∀ before r after, xs = before ++ r :: after → r.call = .startLoop →
    ∃ x ∈ after, x.client = r.client ∧ x.call = .disconnect

theorem KeepsTo.allHungUp_iff {c : Option Client} {xs : List CallRecord} (h : KeepsTo c xs) :
    AllHungUp xs ↔ ∀ r ∈ xs, r.call ≠ .startLoop := by
  constructor
  · intro hall r hr hl
    obtain ⟨before, after, he⟩ := List.append_of_mem hr
    obtain ⟨x, hx, -, hd⟩ := hall before r after he hl
    exact (h x (by rw [he]; simp [hx])).1 hd
  · intro hno before r after he hl
    exact absurd hl (hno r (by rw [he]; simp))

theorem Session.HangsUp.starts {k : Client} {ys : List CallRecord} (h : HangsUp k ys) :
    ∀ r ∈ ys, r.call ≠ .startLoop := by
  cases h <;> simp

theorem Session.HangsUp.disconnects {k : Client} {ys : List CallRecord} (h : HangsUp k ys) :
    ∃ x ∈ ys, x.client = k ∧ x.call = .disconnect := by
  cases h with
  | both code o => exact ⟨_, List.mem_cons_self, rfl, rfl⟩
  | failed ho => exact ⟨_, List.mem_cons_self, rfl, rfl⟩

theorem KeepsTo.allHungUp {c : Option Client} {xs ys : List CallRecord} (h : KeepsTo c xs)
    (hsome : ∀ k, c = some k → Session.HangsUp k ys) (hnone : c = none → ys = []) :
    AllHungUp (xs ++ ys) := by
  have hno : ∀ r ∈ ys, r.call ≠ .startLoop := by
    cases c with
    | none => simp [hnone rfl]
    | some k => exact (hsome k rfl).starts
  intro before r after he hl
  rcases List.append_eq_append_iff.1 he with ⟨zs, -, hys⟩ | ⟨zs, hxs, hafter⟩
  · exact absurd hl (hno r (by simp [hys]))
  · cases zs with
    | nil => exact absurd hl (hno r (by rw [← List.nil_append ys, ← hafter]; simp))
    | cons z zs =>
      obtain ⟨rfl, rfl⟩ := List.cons.inj hafter
      have hc := (h r (by simp [hxs])).2 hl
      obtain ⟨x, hx, hk, hd⟩ := (hsome _ hc).disconnects
      exact ⟨x, List.mem_append_right _ hx, hk, hd⟩

namespace Program

open Bridge

/-- How the program ends on a network, from the bridge and the journal on; clients tell something
between the turns. -/
structure Exits (n : Network) (told : List (List Callback)) (b : Bridge) (s : Session)
    (j : Journal) (ends : Ending × Journal) : Prop where
  startsUp : StartsUp n j b s (startUp.run n b j)
  /-- If the bridge fails to start up, the program ends with that, and disconnects no client. -/
  failed : ∀ f, (startUp.run n b j).result = .error f →
    ends = (endingOf (.error f), (startUp.run n b j).journal) ∧
      ∀ r ∈ ends.2.calls, r.call ≠ .disconnect
  /-- Otherwise it is shut down when its turns end, however they do. -/
  closed : (startUp.run n b j).result = .ok () →
    let p := (pumpAll told).run n (startUp.run n b j).state (startUp.run n b j).journal
    let q := shutDown.run n p.state p.journal
    ends = (endingOf (q.result.bind fun _ => p.result), q.journal)
  /-- All clients are disconnected exactly if it starts up, or has no loop started. -/
  hungUp : AllHungUp ends.2.calls ↔
    (startUp.run n b j).result = .ok () ∨ ∀ r ∈ ends.2.calls, r.call ≠ .startLoop

variable {b : Bridge} {s : Session} {j : Journal} (n : Network) (told : List (List Callback))

theorem run_live_of_error {f : Failure} (h : (startUp.run n b j).result = .error f) :
    (live told).run n b j = startUp.run n b j := by
  generalize he : startUp.run n b j = e at h
  obtain ⟨r, b', j', t⟩ := e
  obtain rfl : r = .error f := h
  exact run_bind_of_error n b j he

theorem run_live_of_ok (h : (startUp.run n b j).result = .ok ()) :
    (live told).run n b j =
      ((closing told).run n (startUp.run n b j).state (startUp.run n b j).journal).after
        (startUp.run n b j).trace := by
  generalize he : startUp.run n b j = e at h
  obtain ⟨r, b', j', t⟩ := e
  obtain rfl : r = .ok () := h
  exact run_bind_of_ok n b j he

theorem allHungUp_closing (hj : j.calls = []) (hs : StartsUp n j b s (startUp.run n b j)) :
    AllHungUp ((closing told).run n (startUp.run n b j).state
      (startUp.run n b j).journal).journal.calls := by
  obtain ⟨hrec, hsome, hkeeps, -⟩ := hs
  generalize startUp.run n b j = e at hrec hsome hkeeps
  obtain ⟨hp, hpsome, hpclient, hpkeeps⟩ := follows_pumpAll_loyal (n := n) told e.state e.journal
  rw [run_closing]
  generalize (pumpAll told).run n e.state e.journal = p at hp hpsome hpclient hpkeeps
  obtain ⟨r, b', t, ⟨j', hq, hq'⟩, hhang, hnone⟩ :=
    ends_shutDown n p.journal (hpsome.trans hsome)
  dsimp only
  rw [hq]
  dsimp only
  rw [hq'.calls, hp.calls, hrec.calls, hj, List.nil_append]
  rw [hpclient] at hhang hnone
  exact (hkeeps.append hpkeeps).allHungUp hhang hnone

theorem run_of_built {settings : Settings} {file : DefinitionFile} {time : Text}
    (hb : (Bridge.build settings file time).value = .ok b) :
    run settings file time n told =
      (endingOf ((live told).run n b
          (Journal.empty.report (Bridge.build settings file time).reports)).result,
        ((live told).run n b
          (Journal.empty.report (Bridge.build settings file time).reports)).journal) := by
  rw [run, hb]

/-- **A program whose bridge has started up disconnects its client before it ends**, however the
turns of the bridge end. If the bridge does not start up, as its start is interrupted or a
publication of its units fails, the program ends at once, and disconnects no client whose loop was
to be started. -/
theorem exits {settings : Settings} {file : DefinitionFile} {time : Text}
    (hb : (Bridge.build settings file time).value = .ok b) (hs : b.transport = some s) :
    Exits n told b s (Journal.empty.report (Bridge.build settings file time).reports)
      (run settings file time n told) := by
  rw [run_of_built n told hb]
  generalize hj : Journal.empty.report (Bridge.build settings file time).reports = j
  have hcalls : j.calls = [] := by rw [← hj]; rfl
  have hstart := Bridge.startsUp n j hs
  cases hr : (startUp.run n b j).result with
  | error f =>
    have hkeeps : KeepsTo (startUp.run n b j).state.client?
        (startUp.run n b j).journal.calls := by
      rw [hstart.records.calls, hcalls, List.nil_append]
      exact hstart.keeps
    rw [run_live_of_error n told hr]
    refine ⟨hstart, fun f' hf => ?_, fun h => ?_, ?_⟩
    · rw [hf]
      exact ⟨rfl, fun r hr => (hkeeps r hr).1⟩
    · rw [hr] at h
      cases h
    · rw [hkeeps.allHungUp_iff, hr]
      simp
  | ok a =>
    obtain ⟨⟩ := a
    rw [run_live_of_ok n told hr]
    refine ⟨hstart, fun f' hf => ?_, fun _ => ?_, ?_⟩
    · rw [hr] at hf
      cases hf
    · rw [Ended.result_after, Ended.journal_after, run_closing]
    · exact iff_of_true (allHungUp_closing n told hcalls hstart) (.inl hr)

/-! ## A small program -/

/-- The settings of a broker, and nothing else. -/
def smallSettings : Settings :=
  Settings.read [] [("MQTT_SERVER", "mqtt://b"), ("MQTT_CLIENT_ID", "c")]

/-- A file that declares no sensors. -/
def emptyFile : DefinitionFile := .content (Text.ofString "[]")

/-- The session that the settings ask for. -/
def smallFresh : Session :=
  .fresh { Session.smallConfig with server := "mqtt://b" } (some .reporting)

/-- The bridge that is built from them. -/
def smallBuilt : Bridge where
  interpreter := .ofRegistry ⟨[], Converter.standard .propagate false⟩
  sink := .log (some "mqtt-sensors")
  transport := some smallFresh
  running := false
  unitsPending := false

theorem small_exits :
    (Bridge.build smallSettings emptyFile "0").value = .ok smallBuilt ∧
      smallBuilt.transport = some smallFresh ∧
      Exits .silent [] smallBuilt smallFresh
        (Journal.empty.report (Bridge.build smallSettings emptyFile "0").reports)
        (run smallSettings emptyFile "0" .silent []) :=
  ⟨rfl, rfl, exits .silent [] rfl rfl⟩

/-- The user interrupts the program when a client starts its loop. -/
def cutNetwork : Network where
  answer _ _ x :=
    match x with
    | .startLoop => .interrupted
    | _ => .returned 0
  atStart _ := []
  waiting _ := []

/-- A program that is interrupted when the loop of its client starts ends without a word to that
client. -/
theorem interrupted_start_leaves_client :
    (run smallSettings emptyFile "0" cutNetwork []).2.calls =
        [⟨0, .create "c", .returned 0⟩, ⟨0, .setReconnectDelay 1 60, .returned 0⟩,
          ⟨0, .connect "b" 1883 60, .returned 0⟩, ⟨0, .startLoop, .interrupted⟩] ∧
      ¬ AllHungUp (run smallSettings emptyFile "0" cutNetwork []).2.calls := by
  have hcalls : (run smallSettings emptyFile "0" cutNetwork []).2.calls =
      [⟨0, .create "c", .returned 0⟩, ⟨0, .setReconnectDelay 1 60, .returned 0⟩,
        ⟨0, .connect "b" 1883 60, .returned 0⟩, ⟨0, .startLoop, .interrupted⟩] := by
    rw [run_of_built cutNetwork [] (b := smallBuilt) rfl]
    -- the reports play no part
    generalize (Bridge.build smallSettings emptyFile "0").reports = rs
    rfl
  rw [hcalls]
  refine ⟨rfl, fun h => ?_⟩
  obtain ⟨x, hx, -⟩ := h [_, _, _] ⟨0, .startLoop, .interrupted⟩ [] rfl rfl
  cases hx

end Program

end DeltaBridge
