import DeltaBridge.Proofs.Broker.Subscription

/-!
# After the end

A session that was stopped stays shut down, whatever its clients still tell. But it goes on telling
its listener how an attempt to connect went, and on a connection it asks for its topics again.

* `Callback.ofAttempt`: the callbacks that tell how an attempt to connect went; `Session.asked`: the
  topics that a callback leads to ask for;
* `Session.Lingers`, `lingers_live`: what a shut-down session does on late callbacks;
* `Session.Silent`, **`stopped_lingers`**: what a stopped session still does, and exactly when it is
  silent.
-/

namespace DeltaBridge

/-- A client tells how an attempt to connect went. -/
def Callback.ofAttempt : Callback → Bool
  | .connected _ => true
  | .connectFailed => true
  | _ => false

namespace Session

open Act

/-! ## Late callbacks -/

section Late

variable (s : Session)

theorem announces_eq_nil_iff (hs : s.link = .shutdown) (c : Callback) :
    s.announces c = [] ↔ (c.ofAttempt = true → s.listener = none) := by
  cases hl : s.listener <;> cases c <;>
    simp [announces, announcement?, Callback.ofAttempt, hs, hl]

/-- The topics that a callback leads to ask for. -/
def asked (s : Session) (c : Callback) : List (List (Text × Int)) :=
  if c.news? = some true ∧ s.topics.isEmpty = false ∧ s.client.isSome then [s.requests] else []

theorem asked_eq_nil_iff {k : Client} (hk : s.client = some k) (c : Callback) :
    s.asked c = [] ↔ (c.news? = some true → s.topics.isEmpty = true) := by
  simp [asked, hk]

theorem filterMap_asks (o : Outcome) (c : Callback) :
    (s.asks o c).filterMap CallRecord.asked? = s.asked c := by
  cases hc : s.client with
  | none => simp [asks, asked, hc]
  | some k =>
    unfold asks asked
    rw [hc]
    by_cases h : c.news? = some true ∧ s.topics.isEmpty = false
    · rw [if_pos h, if_pos ⟨h.1, h.2, rfl⟩]
      rfl
    · rw [if_neg h, if_neg fun h' => h ⟨h'.1, h'.2.1⟩]
      rfl

theorem asks_eq_nil_of_asked {o : Outcome} {c : Callback} (h : s.asked c = []) :
    s.asks o c = [] := by
  unfold asks
  split
  · rename_i hn
    cases hc : s.client with
    | none => rfl
    | some k =>
      rw [asked, if_pos ⟨hn.1, hn.2, by rw [hc]; rfl⟩] at h
      cases h
  · rfl

theorem subscribedAfter_of_asked {o : Outcome} {c : Callback} (h : s.asked c = [])
    (hs : s.subscribed = ∅) : s.subscribedAfter o c = ∅ := by
  cases c with
  | connected r => rw [subscribedAfter_of_asks s (asks_eq_nil_of_asked s h), hs]
  | disconnected r => rfl
  | connectFailed | message _ _ | subscribed _ | noted _ _ => exact hs

theorem announces_after (hs : s.link = .shutdown) (o : Outcome) (c : Callback) :
    (s.after o c).announces = s.announces := by
  have hl : (s.after o c).link = s.link := by rw [hs]; exact Link.hear_eq_shutdown_iff.2 hs
  funext d
  cases d <;> simp only [announces, announcement?, hl] <;> rfl

end Late

/-- What a shut-down session does on callbacks: its link stays, each callback is announced and asks
as ever, and if nothing is asked for, nothing gets subscribed. -/
structure Lingers (s : Session) (cs : List Callback) (e : Ended Session Unit) : Prop where
  link : e.state.link = .shutdown
  statuses : statusesIn e.trace = cs.flatMap s.announces
  asked : (callsIn e.trace).filterMap CallRecord.asked? = cs.flatMap s.asked
  subscribed : (∀ c ∈ cs, s.asked c = []) → s.subscribed = ∅ → e.state.subscribed = ∅

variable (n : Network)

/-- **Late callbacks are announced and ask as ever.** -/
theorem lingers_live {s : Session} (j : Journal) (hs : s.link = .shutdown) (cs : List Callback) :
    Lingers s cs ((live (cs.map .callback)).run n s j) := by
  induction cs generalizing s j with
  | nil => exact ⟨hs, rfl, rfl, fun _ h => h⟩
  | cons c cs ih =>
    obtain ⟨r, t, o, ⟨j', hr, _⟩, hc, hst, _⟩ := ends_handle_after n s j c
    have hlink : (s.after o c).link = .shutdown := Link.hear_eq_shutdown_iff.2 hs
    obtain ⟨hl, hstat, hask, hsub⟩ := ih j' hlink
    rw [List.map_cons, run_live_cons]
    simp only [Operation.act, hr]
    refine ⟨hl, ?_, ?_, fun hnone hempty => ?_⟩
    · rw [Ended.trace_after, statusesIn_append, statusesIn_during, hst, hstat,
        announces_after s hs, List.flatMap_cons]
    · rw [Ended.trace_after, callsIn_append, callsIn_during, List.filterMap_append, hc,
        filterMap_asks, hask, List.flatMap_cons]
      rfl
    · exact hsub (fun d hd => hnone d (List.mem_cons_of_mem c hd))
        (subscribedAfter_of_asked s (hnone c List.mem_cons_self) hempty)

/-! ## A stopped session -/

/-- Nobody is told anything, and no topics are asked for or subscribed. -/
structure Silent (e : Ended Session Unit) : Prop where
  statuses : statusesIn e.trace = []
  asked : (callsIn e.trace).filterMap CallRecord.asked? = []
  subscribed : e.state.subscribed = ∅

theorem HangsUp.asked {k : Client} {xs : List CallRecord} (h : HangsUp k xs) :
    xs.filterMap CallRecord.asked? = [] :=
  List.filterMap_eq_nil_iff.2 fun x hx => (h.idle x hx).2

/-- **A stopped session stays shut down, and lingers.** Each late callback is announced, but for
disconnections, and each connection makes it ask for all its topics. So it is silent exactly if each
client that tells of an attempt to connect finds nobody listening, and each one that tells of a
connection finds no topics. -/
theorem stopped_lingers (s : Session) (j : Journal) {k : Client} (hk : s.client = some k)
    (cs : List Callback) :
    Lingers s.ended cs ((live (.stop :: cs.map .callback)).run n s j) ∧
      (Silent ((live (.stop :: cs.map .callback)).run n s j) ↔
        ∀ c ∈ cs, (c.ofAttempt = true → s.listener = none) ∧
          (c.news? = some true → s.topics.isEmpty = true)) := by
  obtain ⟨r, t, ⟨j', hr, _⟩, ht, hst⟩ := ends_stop_of_client n s j hk
  have hlate := lingers_live n (s := s.ended) j' rfl cs
  have hrun : Lingers s.ended cs ((live (.stop :: cs.map .callback)).run n s j) := by
    rw [run_live_cons]
    simp only [Operation.act, hr]
    refine ⟨hlate.link, ?_, ?_, hlate.subscribed⟩
    · rw [Ended.trace_after, statusesIn_append, statusesIn_during, hst, List.nil_append,
        hlate.statuses]
    · rw [Ended.trace_after, callsIn_append, callsIn_during, List.filterMap_append, ht.asked,
        List.nil_append, hlate.asked]
  refine ⟨hrun, ?_, ?_⟩
  · rintro ⟨hstatuses, hasked, _⟩ c hc
    rw [hrun.statuses, List.flatMap_eq_nil_iff] at hstatuses
    rw [hrun.asked, List.flatMap_eq_nil_iff] at hasked
    exact ⟨(announces_eq_nil_iff s.ended rfl c).1 (hstatuses c hc),
      (asked_eq_nil_iff s.ended hk c).1 (hasked c hc)⟩
  · intro h
    have hasked : ∀ c ∈ cs, s.ended.asked c = [] := fun c hc =>
      (asked_eq_nil_iff s.ended hk c).2 (h c hc).2
    refine ⟨?_, ?_, hrun.subscribed hasked rfl⟩
    · rw [hrun.statuses, List.flatMap_eq_nil_iff]
      exact fun c hc => (announces_eq_nil_iff s.ended rfl c).2 (h c hc).1
    · rw [hrun.asked, List.flatMap_eq_nil_iff]
      exact hasked

/-- The connection is closed after the stop, and then there is another one. -/
def smallLate : List Callback :=
  [.disconnected ⟨"Success", false⟩, .connected ⟨"Success", false⟩]

/-- A connected session is stopped, and hears its late callbacks. -/
def smallStopped : Ended Session Unit :=
  (live (.stop :: smallLate.map .callback)).run .silent
    (lived .silent smallConfig none smallStart).state
    (lived .silent smallConfig none smallStart).journal

theorem small_stopped_lingers :
    (lived .silent smallConfig none smallStart).state.client = some 0 ∧
      Lingers (lived .silent smallConfig none smallStart).state.ended smallLate smallStopped ∧
      (Silent smallStopped ↔ ∀ c ∈ smallLate,
        (c.ofAttempt = true → (lived .silent smallConfig none smallStart).state.listener = none) ∧
          (c.news? = some true →
            (lived .silent smallConfig none smallStart).state.topics.isEmpty = true)) :=
  ⟨rfl, stopped_lingers .silent _ _ rfl smallLate⟩

/-- The late connection asks for the topic again, which counts as subscribed while the session is
shut down. -/
theorem late_connection_subscribes :
    smallStopped.state.link = .shutdown ∧
      smallStopped.state.subscribed.toList = [("t" : Text)] ∧
      (callsIn smallStopped.trace).filterMap CallRecord.asked? = [[(("t" : Text), 0)]] :=
  ⟨rfl, rfl, rfl⟩

end Session

end DeltaBridge
