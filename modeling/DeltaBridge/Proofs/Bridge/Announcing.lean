import DeltaBridge.Proofs.Bridge.Sending
import DeltaBridge.Proofs.Bridge.Turning
import DeltaBridge.Proofs.Broker.Life

/-!
# Units are announced once

A bridge that sends to a topic tries to announce its units until the broker has taken them, and then
never again.

* `keptIn`, `takenIn`, `batchesIn`: the publications that a broker is to keep, those of them that it
  takes, and the batches of units in a trace;
* `Session.unkept`, `Bridge.calm`: courses in which no units are announced;
* `Bridge.Account`: the account of the announcements in a trace, `Account.append`,
  `Account.of_announced`; `Bridge.accounted`: the course that keeps it;
* `Bridge.TriesOnce`: what a turn does for the units, `triesOnce_turn`;
* `Bridge.carryOn`, `Bridge.life`: a life after its start, whatever fails in it;
* **`Bridge.announced_once`**: in any life the units are taken once at most, and pending until then.
-/

namespace DeltaBridge

open Act

/-! ## Publications that are kept -/

/-- The call publishes something that the broker is to keep. -/
def CallRecord.isKept (r : CallRecord) : Bool :=
  match r.call with
  | .publish _ _ _ retain => retain
  | _ => false

/-- The publications in a trace that the broker is to keep. -/
def keptIn (t : List Deed) : List CallRecord := (callsIn t).filter CallRecord.isKept

/-- Those of them that the broker takes. -/
def takenIn (t : List Deed) : List CallRecord := (keptIn t).filter fun r => r.outcome = .returned 0

/-- The batch of units that is dealt with in a deed. -/
def Deed.batch? : Deed → Option (List UnitNotice)
  | .during (.units ns) _ _ => some ns
  | _ => none

/-- The batches of units dealt with in a trace. -/
def batchesIn (t : List Deed) : List (List UnitNotice) := t.filterMap Deed.batch?

section Reading

variable (t u : List Deed)

@[simp] theorem keptIn_append : keptIn (t ++ u) = keptIn t ++ keptIn u := by
  rw [keptIn, callsIn_append, List.filter_append]
  rfl

@[simp] theorem keptIn_during (o : Occasion) (f : Option Failure) :
    keptIn [.during o t f] = keptIn t := by rw [keptIn, callsIn_during, keptIn]

@[simp] theorem takenIn_append : takenIn (t ++ u) = takenIn t ++ takenIn u := by
  rw [takenIn, keptIn_append, List.filter_append]
  rfl

@[simp] theorem batchesIn_append : batchesIn (t ++ u) = batchesIn t ++ batchesIn u :=
  List.filterMap_append

end Reading

theorem takenIn_of_keptIn {t : List Deed} (h : keptIn t = []) : takenIn t = [] := by
  rw [takenIn, h, List.filter_nil]

/-- Nothing in the trace is published to be kept, and no units are dealt with. -/
structure Unkept (t : List Deed) : Prop where
  kept : keptIn t = []
  batches : batchesIn t = []

namespace Unkept

variable {t u : List Deed}

theorem nil : Unkept [] := ⟨rfl, rfl⟩

theorem append (ht : Unkept t) (hu : Unkept u) : Unkept (t ++ u) :=
  ⟨by rw [keptIn_append, ht.kept, hu.kept, List.append_nil],
    by rw [batchesIn_append, ht.batches, hu.batches, List.append_nil]⟩

theorem made {r : CallRecord} (h : r.isKept = false) : Unkept [.made r] :=
  ⟨by rw [keptIn, callsIn_made, List.filter_cons_of_neg (by simp [h]), List.filter_nil], rfl⟩

end Unkept

/-! ## Sessions -/

namespace Session

/-- The course of actions of a session that publish nothing to be kept. -/
def unkept : Course Session := fun _ _ t _ _ => Unkept t

theorem composes_unkept : Composes unkept := ⟨fun _ _ _ => .nil, fun ht hu => ht.append hu⟩

variable {n : Network}

theorem unkept_handle (c : Callback) : Follows n unkept (handle c) := by
  intro s j
  obtain ⟨r, t, o, ⟨j', hr, _⟩, ht, _⟩ := ends_handle_after n s j c
  rw [hr]
  refine ⟨?_, rfl⟩
  rw [keptIn_during, keptIn, ht, List.filter_eq_nil_iff]
  intro x hx
  unfold asks at hx
  split at hx
  · obtain ⟨k, _, rfl⟩ := List.mem_map.1 hx
    simp [CallRecord.isKept]
  · cases hx

theorem unkept_handleAside (c : Callback) : Follows n unkept (handleAside c) :=
  Follows.bind composes_unkept (unkept_handle c).attempt fun _ => Follows.pure composes_unkept ()

theorem unkept_change (f : Session → Session) : Follows n unkept (change f) := fun _ _ => .nil

theorem unkept_create {α : Type} (id : Text) {f : Client → Act Session α}
    (hf : ∀ c, Follows n unkept (f c)) :
    Follows n unkept (do
      let c ← create id
      change fun s => { s with client := some c }
      f c) := by
  refine Follows.bind composes_unkept (fun s j => ?_) fun c => ?_
  · exact Unkept.made (r := ⟨_, .create id, _⟩) rfl
  · exact Follows.bind composes_unkept (unkept_change _) fun _ => hf c

theorem spreads_unkept : Spreads (fun {_} x => Follows n unkept x) where
  pure := Follows.pure composes_unkept
  bind := Follows.bind composes_unkept
  attempt := Follows.attempt
  state := Follows.state composes_unkept
  atStart := Follows.atStart composes_unkept
  ofLogged := Follows.ofLogged composes_unkept
  noClient := Follows.fail composes_unkept _
  perform c x hx s j := Unkept.made (by cases x <;> first | exact hx.elim | rfl)
  create := unkept_create
  handle := unkept_handle

theorem unkept_announce (isError : Bool) (m : Text) : Follows n unkept (announce isError m) :=
  (passes_follows composes_unkept).announce (Follows.state composes_unkept)
    (fun _ _ _ _ => ⟨rfl, rfl⟩) isError m

theorem unkept_want (topics : TopicSet) : Follows n unkept (want topics) :=
  Follows.bind composes_unkept (unkept_change _) fun _ _ _ => ⟨rfl, rfl⟩

/-- **A start publishes nothing to be kept.** -/
theorem unkept_start (topics : TopicSet) : Follows n unkept (start topics) :=
  spreads_unkept.follows_start composes_unkept unkept_want (fun _ => unkept_change _)
    unkept_announce topics

theorem unkept_drain : Follows n unkept drain :=
  Follows.bind composes_unkept (Follows.state composes_unkept) fun _ =>
    Follows.bind composes_unkept (unkept_change _) fun _ => Follows.pure composes_unkept _

end Session

namespace Bridge

variable {n : Network}

/-! ## What leaves the units alone -/

/-- The course of actions of a bridge that have nothing to do with its units. -/
def calm : Course Bridge := fun b _ t b' _ =>
  b'.interpreter = b.interpreter ∧ b'.sink = b.sink ∧ b'.unitsPending = b.unitsPending ∧ Unkept t

theorem composes_calm : Composes calm where
  report _ _ _ := ⟨rfl, rfl, rfl, .nil⟩
  append := by
    rintro b j t b' j' u b'' j'' ⟨hi, hk, hp, ht⟩ ⟨hi', hk', hp', hu⟩
    exact ⟨hi'.trans hi, hk'.trans hk, hp'.trans hp, ht.append hu⟩

theorem calm_onSession {α : Type} {x : Act Session α} (h : Follows n Session.unkept x) :
    Follows n calm (onSession x) := by
  intro b j
  rcases b with ⟨i, k, _ | s, running, pending⟩
  · exact ⟨rfl, rfl, rfl, .nil⟩
  · exact ⟨rfl, rfl, rfl, h s j⟩

theorem calm_hear (cs : List Callback) : Follows n calm (hear cs) :=
  Follows.each composes_calm (fun c => calm_onSession (Session.unkept_handleAside c)) cs

theorem keptIn_of_sent {d : Option Text → Value} {k : Sink} {r : Except Failure Unit}
    {t : List Deed} (h : Sink.Sent n d false k r t) : keptIn t = [] := by
  cases h with
  | reported _ => rfl
  | unwritten _ => rfl
  | published h =>
    cases h with
    | notConnected => rfl
    | unwritten _ => rfl
    | answered past c _ => rfl

theorem calm_handleMessage (topic : Text) (payload : Value) :
    Follows n calm (handleMessage topic payload) := by
  intro b j
  obtain ⟨r, t, ⟨j', hr, _⟩, hh⟩ := ends_handleMessage n b j topic payload
  rw [hr]
  refine ⟨rfl, rfl, rfl, ?_, rfl⟩
  rw [keptIn_during]
  cases hh with
  | unshowable _ => rfl
  | unbound _ _ => rfl
  | offered _ _ hs =>
    rename_i sent
    have hn : ∀ r, keptIn (noticesOf r) = [] := by
      rintro (f | ⟨⟩)
      · cases f <;> rfl
      · rfl
    rw [← List.singleton_append, keptIn_append, keptIn_during, keptIn_of_sent hs, hn]
    rfl

theorem calm_handleAmid (css : List (List Callback)) (ms : List (Text × Value)) :
    Follows n calm (handleAmid css ms) := by
  induction ms generalizing css with
  | nil => exact Follows.each composes_calm calm_hear css
  | cons m ms ih =>
    refine Follows.bind composes_calm (calm_hear _) fun _ => ?_
    refine Follows.bind composes_calm ?_ fun _ => ih _
    exact Follows.bind composes_calm (calm_handleMessage _ _) fun _ => Follows.pure composes_calm ()

theorem calm_takeAll (cs : List Callback) (css : List (List Callback)) :
    Follows n calm (takeAll cs css) :=
  Follows.bind composes_calm (calm_hear cs) fun _ =>
    Follows.bind composes_calm (calm_onSession Session.unkept_drain) (calm_handleAmid css)

theorem calm_note (level : Level) (m : Text) : Follows n calm (note level m) :=
  Follows.ofLogged composes_calm _

theorem calm_tellStatus (isError : Bool) (m : Text) : Follows n calm (tellStatus isError m) :=
  Follows.bind composes_calm (fun _ _ => ⟨rfl, rfl, rfl, rfl, rfl⟩) fun _ =>
    Follows.pure composes_calm ()

theorem calm_connect : Follows n calm connect := by
  refine Follows.bind composes_calm (Follows.state composes_calm) fun b => ?_
  split
  · exact calm_tellStatus _ _
  · refine Follows.bind composes_calm (calm_onSession (Session.unkept_start _)).attempt fun r => ?_
    split
    · exact Follows.pure composes_calm ()
    · exact Follows.bind composes_calm (calm_note _ _) fun _ => calm_tellStatus _ _
    · exact Follows.fail composes_calm _

/-- All of a start but the announcement. -/
def approach : Act Bridge Unit := do
  let entries := (← state).registry.entries
  note .info ("starting with " ++ natText entries.length ++ " topic bindings")
  each noteTopic entries
  change fun b => { b with running := true }
  connect

theorem startUp_eq : startUp = (do approach; announce) := by
  unfold startUp approach
  simp only [bind_assoc]

theorem calm_approach : Follows n calm approach := by
  refine Follows.bind composes_calm (Follows.state composes_calm) fun b => ?_
  refine Follows.bind composes_calm (calm_note _ _) fun _ => ?_
  have htopics := Follows.each (n := n) composes_calm (f := noteTopic) (fun e => calm_note _ _)
  refine Follows.bind composes_calm (htopics _) fun _ => ?_
  exact Follows.bind composes_calm (fun _ _ => ⟨rfl, rfl, rfl, .nil⟩) fun _ => calm_connect

/-! ## The account of the announcements -/

/-- The account of the announcements in a trace, by whether the units are pending before and after
it. -/
structure Account (g : Registry) (name : Text) (qos : Int) (before after : Bool) (t : List Deed) :
    Prop where
  /-- All units are dealt with together. -/
  whole : ∀ ns ∈ batchesIn t, ns = g.unitNotices
  /-- Only the document with all units is published to be kept. -/
  call : ∀ r ∈ keptIn t, ∃ text, Json.write (unitsDelta g.unitNotices) = .ok text ∧
    r.call = .publish name (.text text) qos true
  empty : g.unitNotices = [] → Unkept t
  /-- What is not pending is not announced. -/
  idle : before = false → after = false ∧ Unkept t
  /-- The units are pending as long as they are not taken. -/
  taken : before = true → g.unitNotices ≠ [] → (takenIn t).length = if after then 0 else 1

namespace Account

variable {g : Registry} {name : Text} {qos : Int} {before mid after : Bool} {t u : List Deed}

theorem of_unkept (h : Unkept t) : Account g name qos before before t where
  whole ns hns := by rw [h.batches] at hns; cases hns
  call r hr := by rw [h.kept] at hr; cases hr
  empty _ := h
  idle hb := ⟨hb, h⟩
  taken hb _ := by rw [takenIn_of_keptIn h.kept, hb]; rfl

theorem append (ht : Account g name qos before mid t) (hu : Account g name qos mid after u) :
    Account g name qos before after (t ++ u) where
  whole ns hns := by
    rw [batchesIn_append] at hns
    rcases List.mem_append.1 hns with h | h
    · exact ht.whole ns h
    · exact hu.whole ns h
  call r hr := by
    rw [keptIn_append] at hr
    rcases List.mem_append.1 hr with h | h
    · exact ht.call r h
    · exact hu.call r h
  empty he := (ht.empty he).append (hu.empty he)
  idle hb := by
    obtain ⟨hm, ht⟩ := ht.idle hb
    obtain ⟨ha, hu⟩ := hu.idle hm
    exact ⟨ha, ht.append hu⟩
  taken hb hne := by
    rw [takenIn_append, List.length_append, ht.taken hb hne]
    cases mid with
    | true => rw [hu.taken rfl hne, if_pos rfl, Nat.zero_add]
    | false =>
      obtain ⟨rfl, hnone⟩ := hu.idle rfl
      rw [takenIn_of_keptIn hnone.kept]
      rfl

theorem of_published {ns : List UnitNotice} {r : Except Failure Unit}
    (h : Session.Published n name (unitsDelta ns) qos true r t) :
    (∀ c ∈ keptIn t, ∃ text, Json.write (unitsDelta ns) = .ok text ∧
        c.call = .publish name (.text text) qos true) ∧
      (takenIn t).length = if pendingAfter true r then 0 else 1 := by
  obtain ⟨text, ht⟩ := write_unitsDelta ns
  have hp : Session.packet name (unitsDelta ns) = .ok (.text text) :=
    Session.packet_object_of_ok ht
  cases h with
  | notConnected => exact ⟨by simp [keptIn], rfl⟩
  | unwritten h =>
    rw [hp] at h
    cases h
  | answered past c h =>
    rw [hp] at h
    obtain rfl := Except.ok.inj h
    generalize n.answer past c (.publish name (.text text) qos true) = o
    refine ⟨fun x hx => ⟨text, ht, ?_⟩, ?_⟩
    · rw [List.mem_singleton.1 hx]
    · cases o with
      | returned code =>
        by_cases hz : code = 0
        · subst hz
          rfl
        · rw [Session.resultOf, if_pos hz]
          simp [takenIn, keptIn, CallRecord.isKept, hz, pendingAfter]
      | failed reason => rfl
      | interrupted => rfl

/-- The units are pending after an announcement of them unless they are taken. -/
theorem of_announced {label : Option Text} {r : Except Failure Unit}
    (h : Announced n g (.topic name label qos) r t) :
    Account g name qos true (pendingAfter true r) t := by
  cases h with
  | nothing h =>
    exact ⟨by simp [batchesIn], by simp [keptIn], fun _ => .nil, by simp, fun _ hne => absurd h hne⟩
  | offered hne hs =>
    rename_i sent
    cases hs with
    | published h =>
      obtain ⟨hcall, htaken⟩ := of_published h
      refine ⟨fun ns hns => List.mem_singleton.1 hns, ?_, fun h => absurd h hne, by simp, ?_⟩
      · rwa [keptIn_during]
      · rw [takenIn, keptIn_during]
        exact fun _ _ => htaken

end Account

/-- The course of actions of a bridge that keep the account of its announcements. -/
def accounted (name : Text) (qos : Int) : Course Bridge := fun b _ t b' _ =>
  b'.interpreter = b.interpreter ∧ b'.sink = b.sink ∧ ∀ label, b.sink = .topic name label qos →
    Account b.registry name qos b.unitsPending b'.unitsPending t

section Accounts

variable {name : Text} {qos : Int}

theorem composes_accounted : Composes (accounted name qos) where
  report _ _ _ := ⟨rfl, rfl, fun _ _ => .of_unkept .nil⟩
  append := by
    rintro b j t b' j' u b'' j'' ⟨hi, hsink, ht⟩ ⟨hi', hsink', hu⟩
    refine ⟨hi'.trans hi, hsink'.trans hsink, fun label hk => (ht label hk).append ?_⟩
    have hu := hu label (hsink.trans hk)
    rwa [registry, hi] at hu

theorem accounted_of_calm {α : Type} {x : Act Bridge α} (h : Follows n calm x) :
    Follows n (accounted name qos) x := by
  intro b j
  obtain ⟨hi, hk, hp, ht⟩ := h b j
  refine ⟨hi, hk, fun label _ => ?_⟩
  rw [hp]
  exact .of_unkept ht

theorem accounted_announceDue : Follows n (accounted name qos) announceDue := by
  intro b j
  obtain ⟨r, p, t, ⟨j', hr, _⟩, hd⟩ := ends_announceDue n b j
  rw [hr]
  refine ⟨rfl, rfl, fun label hk => ?_⟩
  cases hd with
  | idle _ => exact .of_unkept .nil
  | tried h ha =>
    rw [hk] at ha
    rw [(Bool.and_eq_true_iff.1 h).1]
    exact .of_announced ha

theorem accounted_event (e : Event) : Follows n (accounted name qos) e.act := by
  cases e with
  | callback c => exact accounted_of_calm (calm_hear [c])
  | turn cs css =>
    exact Follows.bind composes_accounted accounted_announceDue fun _ =>
      accounted_of_calm (calm_takeAll cs css)

end Accounts

/-! ## Turns -/

section Turns

variable (n : Network) (b : Bridge) (j : Journal) (cs : List Callback) (css : List (List Callback))

theorem length_keptIn_announce {s : Session} {c : Client} {name : Text} {label : Option Text}
    {qos : Int} (hb : b.transport = some s) (hc : s.client = some c) (hs : s.isConnected = true)
    (hk : b.sink = .topic name label qos) (hne : b.registry.unitNotices ≠ []) :
    (keptIn (announce.run n b j).trace).length = 1 := by
  obtain ⟨text, ht⟩ := write_unitsDelta b.registry.unitNotices
  have hp : Session.packet name (unitsDelta b.registry.unitNotices) = .ok (.text text) :=
    Session.packet_object_of_ok ht
  have hsent := (Transport.ends_use (Session.ends_publish_of_connected n s ((j.report
    [announcementReport]).report [unitsReport b.registry.unitNotices]) hc hs hp qos true)).during
      (.units b.registry.unitNotices)
  rw [← hb] at hsent
  have hunits := ends_announceUnits_of_sent n _ (k := .topic name label qos) hne hsent
  rw [← hk] at hunits
  obtain ⟨j', hr, _⟩ := ends_announce_of_units n b j hunits
  rw [hr, keptIn_during]
  rfl

/-- What a turn does for the units of a bridge. -/
structure TriesOnce : Prop where
  /-- Units that are pending are tried once on a connection, all together. -/
  due : b.unitsPending = true → b.transport.isConnected = true →
    batchesIn ((turnAmid cs css).run n b j).trace = [b.registry.unitNotices] ∧
      ∀ s c, b.transport = some s → s.client = some c →
        (keptIn ((turnAmid cs css).run n b j).trace).length = 1
  /-- Else they are not tried. -/
  idle : (b.unitsPending && b.transport.isConnected) = false →
    Unkept ((turnAmid cs css).run n b j).trace
  /-- What is done for them is done at the start of the turn. -/
  first : ∃ rest, ((turnAmid cs css).run n b j).trace = (announceDue.run n b j).trace ++ rest ∧
    Unkept rest ∧
    ((turnAmid cs css).run n b j).state.unitsPending = (announceDue.run n b j).state.unitsPending

theorem trace_turnAmid :
    ∃ rest, ((turnAmid cs css).run n b j).trace = (announceDue.run n b j).trace ++ rest ∧
      Unkept rest ∧ ((turnAmid cs css).run n b j).state.unitsPending =
        (announceDue.run n b j).state.unitsPending := by
  unfold turnAmid
  rw [run_bind]
  rcases announceDue.run n b j with ⟨e | ⟨⟩, b', j', t⟩
  · exact ⟨[], (List.append_nil t).symm, .nil, rfl⟩
  · obtain ⟨_, _, hp, ht⟩ := calm_takeAll (n := n) cs css b' j'
    exact ⟨_, rfl, ht, hp⟩

theorem batchesIn_announce (hne : b.registry.unitNotices ≠ []) :
    batchesIn (announce.run n b j).trace = [b.registry.unitNotices] := by
  obtain ⟨r, t, ⟨j', hr, _⟩, ha⟩ := ends_announce n b j
  rw [hr]
  cases ha with
  | nothing h => exact absurd h hne
  | offered _ _ => rfl

theorem announceDue_of_due (h : (b.unitsPending && b.transport.isConnected) = true) :
    announceDue.run n b j = announce.run n b j := by
  show (if b.unitsPending && b.transport.isConnected then announce else pure ()).run n b j = _
  rw [if_pos h]

theorem announceDue_of_idle (h : (b.unitsPending && b.transport.isConnected) = false) :
    (announceDue.run n b j).trace = [] := by
  show ((if b.unitsPending && b.transport.isConnected then announce else pure ()).run n b j).trace =
    []
  rw [h]
  rfl

theorem triesOnce {name : Text} {label : Option Text} {qos : Int}
    (hk : b.sink = .topic name label qos)
    (hne : b.unitsPending = true → b.registry.unitNotices ≠ []) : TriesOnce n b j cs css := by
  obtain ⟨rest, ht, hrest, hp⟩ := trace_turnAmid n b j cs css
  refine ⟨fun hpending hconn => ?_, fun hidle => ?_, rest, ht, hrest, hp⟩
  · have hdue := announceDue_of_due n b j (by rw [hpending, hconn]; rfl)
    rw [hdue] at ht
    rw [ht]
    refine ⟨?_, fun s c hb hc => ?_⟩
    · rw [batchesIn_append, hrest.batches, batchesIn_announce n b j (hne hpending)]
      rfl
    · rw [hb] at hconn
      rw [keptIn_append, hrest.kept, List.append_nil]
      exact length_keptIn_announce n b j hb hc hconn hk (hne hpending)
  · rw [ht, announceDue_of_idle n b j hidle]
    exact hrest

/-- So does the turn of the bridge, which has no callbacks during it. -/
theorem triesOnce_turn {name : Text} {label : Option Text} {qos : Int}
    (hk : b.sink = .topic name label qos)
    (hne : b.unitsPending = true → b.registry.unitNotices ≠ []) :
    (b.unitsPending = true → b.transport.isConnected = true →
      batchesIn (turn.run n b j).trace = [b.registry.unitNotices]) ∧
    ((b.unitsPending && b.transport.isConnected) = false → Unkept (turn.run n b j).trace) := by
  have h := triesOnce n b j [] [] hk hne
  rw [← turnAmid_nil]
  exact ⟨fun hpending hconn => (h.due hpending hconn).1, h.idle⟩

end Turns

/-! ## Lives -/

/-- Events one after the other, whether they fail or not. -/
def carryOn (es : List Event) : Act Bridge Unit := each (fun e => do let _ ← attempt e.act) es

/-- A start, and then events, whether they fail or not. -/
def life (es : List Event) : Act Bridge Unit := do
  startUp
  carryOn es

/-- What has become of the units of a registry in a life so far. -/
structure AnnouncedOnce (g : Registry) (name : Text) (qos : Int) (pending : Bool) (t : List Deed) :
    Prop where
  /-- The broker has taken them once at most. -/
  once : (takenIn t).length ≤ 1
  /-- They are pending if there are any, until the broker takes them. -/
  pending : pending = true ↔ g.unitNotices ≠ [] ∧ takenIn t = []
  /-- They were dealt with all together. -/
  whole : ∀ ns ∈ batchesIn t, ns = g.unitNotices
  /-- Nothing but the document with all of them was published to be kept. -/
  call : ∀ r ∈ keptIn t, ∃ text, Json.write (unitsDelta g.unitNotices) = .ok text ∧
    r.call = .publish name (.text text) qos true
  /-- If there are none, nothing was. -/
  empty : g.unitNotices = [] → Unkept t

section Lives

variable {b : Bridge} {j : Journal} {name : Text} {label : Option Text} {qos : Int}

theorem accounted_carryOn (name : Text) (qos : Int) (es : List Event) :
    Follows n (accounted name qos) (carryOn es) := by
  refine Follows.each composes_accounted (fun e => ?_) es
  exact Follows.bind composes_accounted (accounted_event e).attempt fun _ =>
    Follows.pure composes_accounted ()

theorem account_startUp (hk : b.sink = .topic name label qos)
    (hs : (startUp.run n b j).result = .ok ()) :
    (startUp.run n b j).state.interpreter = b.interpreter ∧
      (startUp.run n b j).state.sink = b.sink ∧
      Account b.registry name qos true (startUp.run n b j).state.unitsPending
        (startUp.run n b j).trace ∧
      (b.registry.unitNotices = [] → (startUp.run n b j).state.unitsPending = false) := by
  rw [startUp_eq] at hs ⊢
  obtain ⟨hi, hsink, _, ht⟩ := calm_approach (n := n) b j
  rw [run_bind] at hs ⊢
  rcases hr : approach.run n b j with ⟨e | ⟨⟩, b', j', t⟩
  · rw [hr] at hs
    cases hs
  · rw [hr] at hs hi hsink ht
    obtain ⟨r, u, ⟨j'', hr', _⟩, ha⟩ := ends_announce n b' j'
    have hg : b'.registry = b.registry := congrArg Interpreter.registry hi
    rw [hg, hsink.trans hk] at ha
    have hok : contained r = .ok () := by
      rw [← hs]
      exact (congrArg Ended.result hr').symm
    have hp : pendingAfter b'.unitsPending r = pendingAfter true r := by
      rcases eq_of_contained (by rw [hok]; rfl) with rfl | ⟨e, rfl⟩ <;> rfl
    simp only [hr', Ended.after, hp]
    refine ⟨hi, hsink, (Account.of_unkept ht).append (.of_announced ha), fun hnil => ?_⟩
    cases ha with
    | nothing _ => rfl
    | offered hne _ => exact absurd hnil hne

theorem Account.announcedOnce {g : Registry} {p : Bool} {t : List Deed}
    (h : Account g name qos true p t) (he : g.unitNotices = [] → p = false) :
    AnnouncedOnce g name qos p t := by
  by_cases hne : g.unitNotices = []
  · have hnone := takenIn_of_keptIn (h.empty hne).kept
    refine ⟨by simp [hnone], ?_, h.whole, h.call, h.empty⟩
    simp [he hne, hne]
  · have ht := h.taken rfl hne
    refine ⟨by rw [ht]; split <;> decide, ?_, h.whole, h.call, h.empty⟩
    rw [← List.length_eq_zero_iff, ht]
    cases p <;> simp [hne]

/-- **The units of a bridge are announced once.** In any life of a bridge that sends to a topic,
once it has started, the broker takes the units once at most; they are pending if there are any,
until it takes them. Each turn that finds them pending on a connection tries once to announce all of
them, other turns do not, and once they are taken nothing is announced again. Callbacks may come
during a turn, or none (`turnAmid_nil`). -/
theorem announced_once (hk : b.sink = .topic name label qos)
    (hs : (startUp.run n b j).result = .ok ()) (es : List Event) :
    AnnouncedOnce b.registry name qos ((life es).run n b j).state.unitsPending
        ((life es).run n b j).trace ∧
      ((life es).run n b j).state.registry = b.registry ∧
      (∀ cs css, TriesOnce n ((life es).run n b j).state ((life es).run n b j).journal cs css) ∧
      (takenIn ((life es).run n b j).trace ≠ [] → ∀ later,
        Unkept ((carryOn later).run n ((life es).run n b j).state
          ((life es).run n b j).journal).trace) := by
  obtain ⟨hi, hsink, ha, he⟩ := account_startUp hk hs
  have hlife : (life es).run n b j =
      ((carryOn es).run n (startUp.run n b j).state (startUp.run n b j).journal).after
        (startUp.run n b j).trace := by
    unfold life
    rw [run_bind]
    rcases hr : startUp.run n b j with ⟨e | ⟨⟩, b', j', t⟩
    · rw [hr] at hs
      cases hs
    · rfl
  rw [hlife]
  generalize startUp.run n b j = e at hi hsink ha he
  obtain ⟨hi', hsink', hu⟩ := accounted_carryOn (n := n) name qos es e.state e.journal
  have hg : e.state.registry = b.registry := congrArg Interpreter.registry hi
  have hu := hu label (hsink.trans hk)
  rw [hg] at hu
  have hg' : ((carryOn es).run n e.state e.journal).state.registry = b.registry :=
    (congrArg Interpreter.registry hi').trans hg
  have hsink' := hsink'.trans (hsink.trans hk)
  have honce : AnnouncedOnce b.registry name qos
      ((carryOn es).run n e.state e.journal).state.unitsPending
      (e.trace ++ ((carryOn es).run n e.state e.journal).trace) :=
    (ha.append hu).announcedOnce fun hnil => (hu.idle (he hnil)).1
  refine ⟨honce, hg', fun cs css => ?_, fun htaken later => ?_⟩
  · refine triesOnce _ _ _ cs css hsink' fun hp => ?_
    rw [Ended.state_after, hg']
    exact (honce.pending.1 hp).1
  · have hp : ((carryOn es).run n e.state e.journal).state.unitsPending = false := by
      rw [Bool.eq_false_iff]
      exact fun hp => htaken (honce.pending.1 hp).2
    obtain ⟨_, _, hlater⟩ := accounted_carryOn (n := n) name qos later
      ((carryOn es).run n e.state e.journal).state ((carryOn es).run n e.state e.journal).journal
    exact ((hlater label hsink').idle hp).2

/-- A bridge with a sensor that has a unit, for a topic. -/
def smallMetered : Bridge :=
  { small (.topic "d" none 0) with
    interpreter := .ofRegistry ⟨[("t", [⟨"x", .temperature, "", none⟩])], .standard .skip false⟩ }

/-- A life in which the connection comes after the start, and then two turns. -/
def smallLife : Ended Bridge Unit :=
  (life [.callback (.connected ⟨"Success", false⟩), .turn [] [], .turn [] []]).run .silent
    smallMetered .empty

/-- The first turn announces the units, and the second finds nothing to announce. -/
theorem smallLife_announced_once :
    (startUp.run .silent smallMetered .empty).result = .ok () ∧
      AnnouncedOnce smallMetered.registry "d" 0 smallLife.state.unitsPending smallLife.trace ∧
      smallLife.state.unitsPending = false ∧ (takenIn smallLife.trace).length = 1 := by
  have hs := eq_ok_of_failure? (r := (startUp.run .silent smallMetered .empty).result)
    (by decide +kernel)
  have honce : AnnouncedOnce smallMetered.registry "d" 0 smallLife.state.unitsPending
      smallLife.trace := (announced_once rfl hs _).1
  have hp : smallLife.state.unitsPending = false := by decide +kernel
  have hne : smallMetered.registry.unitNotices ≠ [] := List.cons_ne_nil _ _
  have htaken : takenIn smallLife.trace ≠ [] := fun hnone =>
    Bool.false_ne_true (hp.symm.trans (honce.pending.2 ⟨hne, hnone⟩))
  exact ⟨hs, honce, hp, Nat.le_antisymm honce.once (List.length_pos_iff.2 htaken)⟩

end Lives

end Bridge

end DeltaBridge
