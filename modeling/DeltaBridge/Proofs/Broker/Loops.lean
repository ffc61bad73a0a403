import DeltaBridge.Proofs.Broker.Launch
import DeltaBridge.Proofs.Broker.Subscription

/-!
# Running loops

A client has a loop that runs from its start until it is stopped. A start gets the loop of its new
client running, whatever runs already. A stop reaches only the client of the session, and stops its
loop only if the disconnection returns.

* `looping`: the clients whose loop runs after some calls; `NeverTwo`: at no point two loops run;
* `Session.Turns`, `turns`: what an operation does to the loops;
* `live_induction`: what each operation of a life preserves; `lived_numbered`: the clients with a
  running loop have earlier numbers than new ones;
* **`tidy_iff_careful`**: exactly when at most one loop runs, and none after a stop.
-/

namespace DeltaBridge

/-! ## The loops that run -/

namespace CallRecord

/-- The call gets the loop of its client running. -/
def runs (r : CallRecord) : Bool :=
  match r.call, r.outcome with
  | .startLoop, .returned _ => true
  | _, _ => false

/-- The call stops the loop of its client. -/
def halts (r : CallRecord) : Bool :=
  match r.call with
  | .stopLoop => true
  | _ => false

/-- The call leaves the loops as they are. -/
structure Steady (r : CallRecord) : Prop where
  runs : r.runs = false
  halts : r.halts = false

theorem steady_of_prepares {r : CallRecord} (h : r.prepares = true) : r.Steady := by
  rcases r with ⟨c, x, o⟩
  cases x with
  | startLoop =>
    cases o with
    | returned code => cases h
    | failed reason => exact ⟨rfl, rfl⟩
    | interrupted => exact ⟨rfl, rfl⟩
  | stopLoop => cases h
  | create _ | authenticate _ _ | encrypt | setReconnectDelay _ _ | connect _ _ _ | disconnect
  | subscribe _ | publish _ _ _ _ => exact ⟨rfl, rfl⟩

end CallRecord

/-- The clients whose loop runs after one more call. -/
def loopsAfter (cs : List Client) (r : CallRecord) : List Client :=
  if r.runs then cs ++ [r.client] else if r.halts then cs.filter (· ≠ r.client) else cs

/-- The clients whose loop was started and not stopped since, in some calls. -/
def looping (xs : List CallRecord) : List Client := xs.foldl loopsAfter []

theorem looping_concat (xs : List CallRecord) (r : CallRecord) :
    looping (xs ++ [r]) = loopsAfter (looping xs) r := by
  simp [looping]

theorem looping_append_of_steady {xs ys : List CallRecord} (h : ∀ r ∈ ys, r.Steady) :
    looping (xs ++ ys) = looping xs := by
  induction ys generalizing xs with
  | nil => rw [List.append_nil]
  | cons r ys ih =>
    obtain ⟨hr, hys⟩ := List.forall_mem_cons.1 h
    rw [List.append_cons, ih hys, looping_concat, loopsAfter, hr.runs, hr.halts]
    rfl

/-- The clients are one and the same, if there are any. -/
def AtMostOne (cs : List Client) : Prop := ∀ c ∈ cs, ∀ c' ∈ cs, c = c'

/-- At no point in some calls two loops run. -/
def NeverTwo (xs : List CallRecord) : Prop := ∀ ys, ys <+: xs → AtMostOne (looping ys)

theorem neverTwo_concat {xs : List CallRecord} {r : CallRecord} :
    NeverTwo (xs ++ [r]) ↔ NeverTwo xs ∧ AtMostOne (loopsAfter (looping xs) r) := by
  constructor
  · intro h
    refine ⟨fun ys hys => h ys (hys.trans (List.prefix_append _ _)), ?_⟩
    rw [← looping_concat]
    exact h _ (List.prefix_refl _)
  · rintro ⟨h, hr⟩ ys hys
    rcases List.prefix_concat_iff.1 hys with rfl | hys
    · rw [looping_concat]
      exact hr
    · exact h ys hys

theorem mem_of_mem_loopsAfter {cs : List Client} {r : CallRecord} (hr : r.runs = false) {c : Client}
    (hc : c ∈ loopsAfter cs r) : c ∈ cs := by
  rw [loopsAfter, hr] at hc
  cases hh : r.halts with
  | false => rwa [hh] at hc
  | true =>
    rw [hh] at hc
    exact (List.mem_filter.1 hc).1

theorem NeverTwo.append {xs ys : List CallRecord} (hxs : NeverTwo xs)
    (h : ∀ r ∈ ys, r.runs = false) : NeverTwo (xs ++ ys) := by
  induction ys generalizing xs with
  | nil => rwa [List.append_nil]
  | cons r ys ih =>
    obtain ⟨hr, hys⟩ := List.forall_mem_cons.1 h
    rw [List.append_cons]
    refine ih (neverTwo_concat.2 ⟨hxs, fun c hc c' hc' => ?_⟩) hys
    have hone : AtMostOne (looping xs) := hxs xs (List.prefix_refl _)
    exact hone c (mem_of_mem_loopsAfter hr hc) c' (mem_of_mem_loopsAfter hr hc')

namespace Session

open Act

/-! ## What an operation does to the loops -/

/-- The course of actions that leave the loops as they are. -/
def steadily : Course Session := fun _ j t _ j' => j.Records t j' ∧ ∀ r ∈ callsIn t, r.Steady

theorem composes_steadily : Composes steadily where
  report _ j rs := ⟨.of_report j rs, by simp⟩
  append h h' := ⟨h.1.append h'.1, by
    rw [callsIn_append, List.forall_mem_append]
    exact ⟨h.2, h'.2⟩⟩

section Operations

variable {n : Network}

theorem follows_of_ends {α : Type} {x : Act Session α}
    (h : ∀ s j, ∃ r s' t, Ends n s j x r s' t ∧ ∀ r ∈ callsIn t, r.Steady) :
    Follows n steadily x := by
  intro s j
  obtain ⟨r, s', t, ⟨j', hr, hj⟩, ht⟩ := h s j
  rw [hr]
  exact ⟨hj, ht⟩

theorem follows_handle_steadily (c : Callback) : Follows n steadily (handle c) := by
  refine follows_of_ends fun s j => ?_
  obtain ⟨r, t, o, he, ht, _⟩ := ends_handle_after n s j c
  refine ⟨r, _, _, he, fun x hx => ?_⟩
  rw [callsIn_during, ht, asks] at hx
  split at hx
  · obtain ⟨k, _, rfl⟩ := List.mem_map.1 hx
    exact ⟨rfl, rfl⟩
  · cases hx

theorem follows_perform_steadily (c : Client) {x : Call}
    (hx : ∀ o, CallRecord.Steady ⟨c, x, o⟩) : Follows n steadily (perform c x) := by
  refine follows_of_ends fun s j => ⟨_, s, _, .perform c x, fun r hr => ?_⟩
  rw [callsIn_made, List.mem_singleton] at hr
  rw [hr]
  exact hx _

theorem follows_settle_steadily (r : Except Failure Unit) : Follows n steadily (settle r) := by
  cases r with
  | ok a =>
    have h := composes_steadily
    exact Follows.bind h (Follows.waiting h) (follows_await h follows_handle_steadily)
  | error e =>
    refine follows_of_ends fun s j => ?_
    by_cases he : e = .interrupted
    · rw [he]
      exact ⟨_, _, _, ends_settle_of_interrupted n s j, by simp⟩
    · exact ⟨_, _, _, ends_settle_of_error n s j he, by simp⟩

theorem follows_attend_steadily : Follows n steadily attend := by
  have h := composes_steadily
  exact Follows.bind h (follows_atStart h follows_handle_steadily).attempt follows_settle_steadily

theorem follows_setUp_steadily : Follows n steadily setUp := by
  have h := composes_steadily
  rw [setUp_eq]
  refine Follows.bind h (Follows.state h) fun s => Follows.bind h (fun s j => ?_) fun c => ?_
  · refine ⟨.of_call j _, fun r hr => ?_⟩
    obtain rfl := List.mem_singleton.1 hr
    exact ⟨rfl, rfl⟩
  · refine Follows.bind h (fun s j => ⟨.refl j, by simp⟩) fun _ => ?_
    refine (passes_follows h).ready (fun x hx hne => follows_perform_steadily c fun o => ?_) _
    cases x with
    | startLoop => exact absurd rfl hne
    | authenticate _ _ | encrypt | setReconnectDelay _ _ | connect _ _ _ => exact ⟨rfl, rfl⟩
    | create _ | stopLoop | disconnect | subscribe _ | publish _ _ _ _ => exact hx.elim

theorem follows_act_steadily {o : Operation} (hstart : ∀ topics, o ≠ .start topics)
    (hstop : o ≠ .stop) : Follows n steadily o.act := by
  have h := composes_steadily
  have hchange : ∀ f, Follows n steadily (change f) := fun f s j => ⟨.refl j, by simp⟩
  cases o with
  | setUp => exact follows_setUp_steadily
  | assign topics =>
    refine Follows.bind h (hchange _) fun _ => follows_of_ends fun s j => ?_
    exact ⟨_, s, _, .mark _, by simp⟩
  | start topics => exact absurd rfl (hstart topics)
  | stop => exact absurd rfl hstop
  | callback c => exact follows_handle_steadily c
  | publish topic payload qos retain =>
    exact (passes_follows h).publish (Follows.state h) (Follows.fail h)
      (fun c _ _ _ _ => follows_perform_steadily c fun _ => ⟨rfl, rfl⟩) topic payload qos retain
  | drain => exact (passes_follows h).drain (Follows.state h) (hchange _)

end Operations

/-- What an operation does to the loops, if the next client is the given one: a start may get the
loop of its client running, and a stop hangs up the client of the session. -/
inductive Turns (s : Session) (k : Client) : Operation → List CallRecord → Prop
  | steady {o : Operation} {xs : List CallRecord} (ho : o ≠ .stop) (h : ∀ r ∈ xs, r.Steady) :
    Turns s k o xs
  | launch {topics : List Text} {ys zs : List CallRecord} (code : Int) (hy : ∀ r ∈ ys, r.Steady)
    (hz : ∀ r ∈ zs, r.Steady) :
    Turns s k (.start topics) (ys ++ ⟨k, .startLoop, .returned code⟩ :: zs)
  | idle (hs : s.client = none) : Turns s k .stop []
  | hangUp {c : Client} {xs : List CallRecord} (hs : s.client = some c) (h : HangsUp c xs) :
    Turns s k .stop xs

variable (n : Network) (s : Session) (j : Journal)

theorem start_turns (topics : List Text) :
    Turns s j.calls.length (.start topics)
      (callsIn ((start (.ofList topics)).run n s j).trace) := by
  have hstarts := starts n s j (.ofList topics)
  generalize (start (.ofList topics)).run n s j = e at hstarts
  cases hstarts with
  | failed e hs ht hj =>
    rename_i s' j' t
    refine .steady (by simp) fun r hr => ?_
    rw [Ended.trace_after, List.cons_append, callsIn_cons, callsIn_wanted, List.nil_append,
      callsIn_append, List.mem_append] at hr
    rcases hr with hr | hr
    · exact CallRecord.steady_of_prepares (prepares_of_mem_callsIn ht hr)
    · exact (follows_settle_steadily (.error e) s' j').2 r hr
  | launched code ht hj =>
    rename_i j' t
    rw [Ended.trace_after, List.cons_append, callsIn_cons, callsIn_wanted, List.nil_append,
      callsIn_append, callsIn_append, callsIn_made, List.append_assoc, List.singleton_append]
    refine .launch code (fun r hr => ?_) (follows_attend_steadily _ j').2
    exact CallRecord.steady_of_prepares (prepares_of_mem_callsIn ht hr)

theorem stop_turns : Turns s j.calls.length .stop (callsIn (stop.run n s j).trace) := by
  cases hc : s.client with
  | none =>
    obtain ⟨j', hr, _⟩ := ends_stop_of_noClient n s j hc
    rw [hr]
    exact .idle hc
  | some c =>
    obtain ⟨r, t, ⟨j', hr, _⟩, ht, _⟩ := ends_stop_of_client n s j hc
    rw [hr, callsIn_during]
    exact .hangUp hc ht

/-- **What an operation does to the loops.** -/
theorem turns (o : Operation) : Turns s j.calls.length o (callsIn (o.act.run n s j).trace) := by
  by_cases hstop : o = .stop
  · rw [hstop]
    exact stop_turns n s j
  by_cases hstart : ∃ topics, o = .start topics
  · obtain ⟨topics, rfl⟩ := hstart
    rw [run_act_start]
    exact start_turns n s j topics
  · exact .steady hstop (follows_act_steadily (fun topics h => hstart ⟨topics, h⟩) hstop s j).2

/-! ## Loops before and after -/

section Counting

variable {s : Session} {k : Client} {xs ys zs : List CallRecord}

theorem looping_launch (hy : ∀ r ∈ ys, r.Steady) (hz : ∀ r ∈ zs, r.Steady) (code : Int) :
    looping (xs ++ (ys ++ ⟨k, .startLoop, .returned code⟩ :: zs)) = looping xs ++ [k] := by
  rw [← List.append_assoc, List.append_cons, looping_append_of_steady hz, looping_concat,
    looping_append_of_steady hy]
  rfl

/-- A stop leaves the loops of all other clients running, and its own if the disconnection does not
return. -/
theorem mem_looping_hangUp (h : HangsUp k ys) {c : Client} :
    c ∈ looping (xs ++ ys) ↔
      c ∈ looping xs ∧ ¬(c = k ∧ ∃ code, ⟨c, .disconnect, .returned code⟩ ∈ ys) := by
  cases h with
  | both code o =>
    have hdisconnect : CallRecord.Steady ⟨k, .disconnect, .returned code⟩ := ⟨rfl, rfl⟩
    have hloops : looping (xs ++ [⟨k, .disconnect, .returned code⟩, ⟨k, .stopLoop, o⟩]) =
        (looping xs).filter (· ≠ k) := by
      rw [List.append_cons, looping_concat, looping_append_of_steady (by simpa using hdisconnect)]
      rfl
    rw [hloops, List.mem_filter, decide_eq_true_eq]
    refine and_congr_right fun _ => not_congr ⟨fun hc => ⟨hc, code, ?_⟩, And.left⟩
    rw [hc]
    exact List.mem_cons_self
  | failed h =>
    rw [looping_append_of_steady (by simpa using ⟨rfl, rfl⟩)]
    refine (and_iff_left ?_).symm
    rintro ⟨_, code, hmem⟩
    rw [List.mem_singleton] at hmem
    cases hmem
    exact h code rfl

/-- A client with a running loop was made before the next one. -/
def Numbered (xs : List CallRecord) : Prop := ∀ c ∈ looping xs, c < xs.length

theorem Numbered.turns {o : Operation} (h : Numbered xs) (ht : Turns s xs.length o ys) :
    Numbered (xs ++ ys) := by
  have hlen : xs.length ≤ (xs ++ ys).length := by simp
  intro c hc
  cases ht with
  | steady _ hy =>
    rw [looping_append_of_steady hy] at hc
    exact Nat.lt_of_lt_of_le (h c hc) hlen
  | launch code hy hz =>
    rw [looping_launch hy hz, List.mem_append, List.mem_singleton] at hc
    rcases hc with hc | rfl
    · exact Nat.lt_of_lt_of_le (h c hc) hlen
    · rw [List.length_append, List.length_append, List.length_cons]
      exact Nat.lt_add_of_pos_right (Nat.add_pos_right _ (Nat.succ_pos _))
  | idle _ =>
    rw [List.append_nil] at hc ⊢
    exact h c hc
  | hangUp _ hx =>
    exact Nat.lt_of_lt_of_le (h c ((mem_looping_hangUp hx).1 hc).1) hlen

end Counting

/-! ## The loops of a life -/

section Lives

variable (n : Network) (config : Config) (listener : Option Listener)

/-- How the next operation ends after some others in a life. -/
def stepped (before : List Operation) (o : Operation) : Ended Session Unit :=
  o.act.run n (lived n config listener before).state (lived n config listener before).journal

/-- At no point two loops run, and none runs after a stop that has returned. -/
structure Tidy (os : List Operation) : Prop where
  neverTwo : NeverTwo (lived n config listener os).journal.calls
  stopped : ∀ before later, os = before ++ .stop :: later →
    (stepped n config listener before .stop).result = .ok () →
      looping (stepped n config listener before .stop).journal.calls = []

/-- A start that gets a loop running finds none running, and a stop that returns finds none but that
of the client of the session, whose disconnection returns. -/
structure Careful (os : List Operation) : Prop where
  started : ∀ before topics later, os = before ++ .start topics :: later →
    (∃ r ∈ callsIn (stepped n config listener before (.start topics)).trace, r.runs = true) →
      looping (lived n config listener before).journal.calls = []
  stopped : ∀ before later, os = before ++ .stop :: later →
    (stepped n config listener before .stop).result = .ok () →
      ∀ c ∈ looping (lived n config listener before).journal.calls,
        (lived n config listener before).state.client = some c ∧
          ∃ code, ⟨c, .disconnect, .returned code⟩ ∈
            callsIn (stepped n config listener before .stop).trace

variable {n config listener}

theorem calls_run (o : Operation) (s : Session) (j : Journal) :
    (o.act.run n s j).journal.calls = j.calls ++ callsIn (o.act.run n s j).trace :=
  (@follows_act n s.config o s j).1.calls

theorem lived_numbered (os : List Operation) :
    Numbered (lived n config listener os).journal.calls := by
  refine live_induction (I := fun _ j => Numbered j.calls) (fun c hc => by cases hc) ?_
  intro before o later _ h
  rw [calls_run]
  exact h.turns (turns n _ _ o)

theorem calls_prefix_live (os : List Operation) (s : Session) (j : Journal) :
    j.calls <+: ((live os).run n s j).journal.calls := by
  induction os generalizing s j with
  | nil => exact List.prefix_refl _
  | cons o os ih =>
    rw [run_live_cons]
    refine List.IsPrefix.trans ?_ (ih _ _)
    rw [calls_run]
    exact List.prefix_append _ _

theorem calls_stepped_first {os before later : List Operation} {o : Operation}
    (he : os = before ++ o :: later) :
    (stepped n config listener before o).journal.calls <+:
      (lived n config listener os).journal.calls := by
  rw [he, lived, run_live_append, run_live_cons]
  exact calls_prefix_live later _ _

theorem looping_eq_nil_of_runs {xs ys : List CallRecord} {s : Session} {topics : List Text}
    (h : NeverTwo (xs ++ ys)) (hn : Numbered xs) (ht : Turns s xs.length (.start topics) ys)
    (hr : ∃ r ∈ ys, r.runs = true) : looping xs = [] := by
  cases ht with
  | steady _ hy =>
    obtain ⟨r, hr, hruns⟩ := hr
    rw [(hy r hr).runs] at hruns
    cases hruns
  | launch code hy hz =>
    have htwo := h _ (List.prefix_refl _)
    rw [looping_launch hy hz] at htwo
    refine List.eq_nil_iff_forall_not_mem.2 fun c hc => ?_
    have hk : c = xs.length :=
      htwo c (List.mem_append_left _ hc) _ (List.mem_append_right _ (by simp))
    exact Nat.lt_irrefl _ (hk ▸ hn c hc)

/-- Two loops never run if a start that gets one running finds none. -/
theorem NeverTwo.turns {xs ys : List CallRecord} {s : Session} {o : Operation} (h : NeverTwo xs)
    (ht : Turns s xs.length o ys)
    (hs : ∀ topics, o = .start topics → (∃ r ∈ ys, r.runs = true) → looping xs = []) :
    NeverTwo (xs ++ ys) := by
  cases ht with
  | steady _ hy => exact h.append fun r hr => (hy r hr).runs
  | launch code hy hz =>
    have hnone := hs _ rfl ⟨_, List.mem_append_right _ List.mem_cons_self, rfl⟩
    have hbefore := h.append fun r hr => (hy r hr).runs
    rw [← List.append_assoc, List.append_cons]
    refine NeverTwo.append (neverTwo_concat.2 ⟨hbefore, ?_⟩) fun r hr => (hz r hr).runs
    rw [looping_append_of_steady hy, hnone]
    intro c hc c' hc'
    rw [List.mem_singleton.1 hc, List.mem_singleton.1 hc']
  | idle _ => rwa [List.append_nil]
  | hangUp _ hx => exact h.append (by cases hx <;> simp [CallRecord.runs])

/-- After a stop no loop runs exactly if none ran but that of the client whose disconnection has
returned. -/
theorem looping_stop_eq_nil_iff {xs ys : List CallRecord} {s : Session} {k : Client}
    (ht : Turns s k .stop ys) :
    looping (xs ++ ys) = [] ↔ ∀ c ∈ looping xs, s.client = some c ∧
      ∃ code, ⟨c, .disconnect, .returned code⟩ ∈ ys := by
  cases ht with
  | steady ho _ => exact absurd rfl ho
  | idle hs =>
    rw [List.append_nil, hs, List.eq_nil_iff_forall_not_mem]
    simp
  | hangUp hs hx =>
    rw [List.eq_nil_iff_forall_not_mem, hs]
    refine forall_congr' fun c => ?_
    rw [mem_looping_hangUp hx, not_and, Classical.not_not, Option.some_inj]
    exact imp_congr_right fun _ => and_congr_left fun _ => eq_comm

/-- **Exactly when the loops are in order.** No two loops run at any point and none runs after a
stop, if and only if each start that gets a loop running finds none running, and each stop finds
none but that of the client of the session, whose disconnection returns. -/
theorem tidy_iff_careful (os : List Operation) :
    Tidy n config listener os ↔ Careful n config listener os := by
  have hcalls : ∀ before o, (stepped n config listener before o).journal.calls =
      (lived n config listener before).journal.calls ++
        callsIn (stepped n config listener before o).trace :=
    fun before o => calls_run o _ _
  have hturns : ∀ before o, Turns (lived n config listener before).state
      (lived n config listener before).journal.calls.length o
        (callsIn (stepped n config listener before o).trace) :=
    fun before o => turns n _ _ o
  constructor
  · rintro ⟨htwo, hstop⟩
    refine ⟨fun before topics later he hr => ?_, fun before later he hok => ?_⟩
    · have hpart : NeverTwo (stepped n config listener before (.start topics)).journal.calls :=
        fun ys hys => htwo ys (hys.trans (calls_stepped_first he))
      rw [hcalls] at hpart
      exact looping_eq_nil_of_runs hpart (lived_numbered before) (hturns _ _) hr
    · have hnone := hstop before later he hok
      rw [hcalls] at hnone
      exact (looping_stop_eq_nil_iff (hturns _ _)).1 hnone
  · rintro ⟨hstart, hstop⟩
    refine ⟨?_, fun before later he hok => ?_⟩
    · refine live_induction (I := fun _ j => NeverTwo j.calls) ?_ fun before o later he h => ?_
      · intro ys hys
        rw [List.prefix_nil.1 hys]
        intro c hc
        cases hc
      · rw [calls_run]
        refine NeverTwo.turns h (turns n _ _ o) fun topics ho hr => hstart before topics later ?_ ?_
        · rw [he, ho]
        · rw [ho] at hr
          exact hr
    · rw [hcalls]
      exact (looping_stop_eq_nil_iff (hturns _ _)).2 (hstop before later he hok)

/-- A network on which no disconnection succeeds. -/
def deafNetwork : Network :=
  { Network.silent with
    answer := fun _ _ x =>
      match x with
      | .disconnect => .failed "boom"
      | _ => .returned 0 }

/-- A stop returns and leaves a loop running, and after a second start two run. -/
theorem loops_left_running :
    (stepped deafNetwork smallConfig none smallStart .stop).result = .ok () ∧
      looping (stepped deafNetwork smallConfig none smallStart .stop).journal.calls = [0] ∧
      looping (lived .silent smallConfig none (smallStart ++ smallStart)).journal.calls = [0, 5] :=
  ⟨rfl, by decide +kernel, by decide +kernel⟩

end Lives

end Session

end DeltaBridge
