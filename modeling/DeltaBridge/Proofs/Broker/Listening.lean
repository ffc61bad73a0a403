import DeltaBridge.Proofs.Broker.Subscription

/-!
# The listener does not matter

Two sessions that differ in their listeners do the same: they make the same calls, end each
operation with the same result, and go on with the same state, whatever the listeners do, and
whether there are any. If both have one, both listeners are told the same.

* `untold`: a trace without what is told; `Session.muted`: a session without its listener;
* `Session.Alike`: sessions and journals that do not differ but for the listeners; `Session.Same`:
  two ends of an action that do not;
* `Session.Ignores`: an action that ends the same on sessions that are alike; `Ignores.bind`,
  `Ignores.ofState`: how from its parts, `ignores_announce`: telling the status is one;
* `ignores_start`, `ignores_stop`, `ignores_handle`, `ignores_publish`: what a session does;
* **`listener_ignored`**: each operation of a life.
-/

namespace DeltaBridge

/-! ## Traces without what is told -/

mutual

/-- A deed without what is told in it. -/
def Deed.untold : Deed → List Deed
  | .told _ => []
  | .during o parts f => [.during o (untold parts) f]
  | .made r => [.made r]
  | .wanted topics => [.wanted topics]

/-- Some deeds without what is told in them. -/
def untold : List Deed → List Deed
  | [] => []
  | d :: ds => d.untold ++ untold ds

end

theorem untold_append (t u : List Deed) : untold (t ++ u) = untold t ++ untold u := by
  induction t with
  | nil => rfl
  | cons d t ih => rw [List.cons_append, untold, untold, ih, List.append_assoc]

namespace Session

open Act

/-- The session without its listener. -/
def muted (s : Session) : Session := { s with listener := none }

/-- The deeds in which two traces are compared: all if both sessions have a listener, or all but
what is told. -/
def compared (both : Bool) (t : List Deed) : List Deed := if both then t else untold t

theorem compared_append (both : Bool) (t u : List Deed) :
    compared both (t ++ u) = compared both t ++ compared both u := by
  cases both
  · exact untold_append t u
  · rfl

theorem compared_during (both : Bool) (o : Occasion) {t u : List Deed} (f : Option Failure)
    (h : compared both t = compared both u) :
    compared both [.during o t f] = compared both [.during o u f] := by
  cases both with
  | false =>
    have h : untold t = untold u := h
    show [Deed.during o (untold t) f] ++ [] = [Deed.during o (untold u) f] ++ []
    rw [h]
  | true =>
    have h : t = u := h
    rw [h]

/-! ## Two runs -/

/-- The sessions and the journals do not differ but for the listeners. If both have one, both were
told the same. -/
structure Alike (both : Bool) (s s' : Session) (j j' : Journal) : Prop where
  muted : s.muted = s'.muted
  calls : j.calls = j'.calls
  statuses : both = true →
    s.listener.isSome = true ∧ s'.listener.isSome = true ∧ j.statuses = j'.statuses

/-- The ends do not differ but for the listeners and for what is told to them. -/
structure Same {α : Type} (both : Bool) (e e' : Ended Session α) : Prop where
  result : e.result = e'.result
  trace : compared both e.trace = compared both e'.trace
  alike : Alike both e.state e'.state e.journal e'.journal

/-- The action ends the same on all sessions that are alike. -/
def Ignores (n : Network) {α : Type} (x : Act Session α) : Prop :=
  ∀ both s s' j j', Alike both s s' j j' → Same both (x.run n s j) (x.run n s' j')

namespace Ignores

variable {n : Network} {α β : Type}

theorem pure (a : α) : Ignores n (pure a) := fun _ _ _ _ _ h => ⟨rfl, rfl, h⟩

theorem fail (e : Failure) : Ignores n (fail e : Act Session α) := fun _ _ _ _ _ h => ⟨rfl, rfl, h⟩

theorem ofLogged (x : Logged α) : Ignores n (ofLogged x) :=
  fun _ _ _ _ _ h => ⟨rfl, rfl, ⟨h.muted, h.calls, h.statuses⟩⟩

theorem bind {x : Act Session α} {f : α → Act Session β} (hx : Ignores n x)
    (hf : ∀ a, Ignores n (f a)) : Ignores n (x >>= f) := by
  intro both s s' j j' h
  have hxs := hx both s s' j j' h
  rcases hr : x.run n s j with ⟨r, s₁, j₁, t⟩
  rcases hr' : x.run n s' j' with ⟨r', s₁', j₁', t'⟩
  rw [hr, hr'] at hxs
  obtain ⟨hresult, htrace, halike⟩ := hxs
  obtain rfl : r = r' := hresult
  cases r with
  | error e =>
    rw [run_bind_of_error n s j hr, run_bind_of_error n s' j' hr']
    exact ⟨rfl, htrace, halike⟩
  | ok a =>
    rw [run_bind_of_ok n s j hr, run_bind_of_ok n s' j' hr']
    have hfs := hf a both s₁ s₁' j₁ j₁' halike
    have htrace : compared both t = compared both t' := htrace
    refine ⟨hfs.result, ?_, hfs.alike⟩
    rw [Ended.trace_after, Ended.trace_after, compared_append, compared_append, htrace, hfs.trace]

/-- What depends on the state, but not on the listener. -/
theorem ofState {f : Session → Act Session β} (hf : ∀ s, f s = f s.muted)
    (h : ∀ s, Ignores n (f s)) : Ignores n (state >>= f) := by
  intro both s s' j j' ha
  have hrun : ∀ s j, (state >>= f).run n s j = (f s.muted).run n s j := by
    intro s j
    rw [run_bind, run_state, ← hf s]
    rfl
  rw [hrun, hrun, ha.muted]
  exact h s'.muted both s s' j j' ha

theorem attempt {x : Act Session α} (hx : Ignores n x) : Ignores n (attempt x) := by
  intro both s s' j j' h
  obtain ⟨hresult, htrace, halike⟩ := hx both s s' j j' h
  exact ⟨congrArg Except.ok hresult, htrace, halike⟩

theorem during {x : Act Session α} (hx : Ignores n x) (o : Occasion) : Ignores n (during o x) := by
  intro both s s' j j' h
  obtain ⟨hresult, htrace, halike⟩ := hx both s s' j j' h
  refine ⟨hresult, ?_, halike⟩
  rw [run_during, run_during, hresult]
  exact compared_during both o _ htrace

theorem change {f : Session → Session} (hf : ∀ s, (f s).muted = (f s.muted).muted)
    (hl : ∀ s, (f s).listener = s.listener) : Ignores n (change f) := by
  intro both s s' j j' h
  refine ⟨rfl, rfl, ?_, h.calls, ?_⟩
  · show (f s).muted = (f s').muted
    rw [hf s, h.muted, ← hf s']
  · show both = true → (f s).listener.isSome = true ∧ (f s').listener.isSome = true ∧ _
    rw [hl, hl]
    exact h.statuses

theorem mark (d : Deed) : Ignores n (mark d) := fun _ _ _ _ _ h => ⟨rfl, rfl, h⟩

theorem atStart : Ignores n atStart := by
  intro both s s' j j' h
  refine ⟨?_, rfl, h⟩
  show Except.ok (n.atStart j.calls) = .ok (n.atStart j'.calls)
  rw [h.calls]

theorem waiting : Ignores n waiting := by
  intro both s s' j j' h
  refine ⟨?_, rfl, h⟩
  show Except.ok (n.waiting j.calls) = .ok (n.waiting j'.calls)
  rw [h.calls]

theorem perform (c : Client) (x : Call) : Ignores n (perform c x) := by
  intro both s s' j j' h
  rw [run_perform, run_perform, h.calls]
  exact ⟨rfl, rfl, h.muted, by simp [Journal.record, h.calls], h.statuses⟩

theorem create (id : Text) : Ignores n (create id) := by
  intro both s s' j j' h
  unfold Act.run Act.create
  simp only [h.calls]
  exact ⟨rfl, rfl, h.muted, by simp [Journal.record, h.calls], h.statuses⟩

theorem passes (n : Network) : Passes (fun {_} x => Ignores n x) := ⟨pure, bind, ofLogged⟩

end Ignores

/-! ## What a session does -/

section Doing

variable {n : Network}

theorem ignores_note (level : Level) (m : Text) : Ignores n (note level m) := .ofLogged _

theorem ignores_moveTo (l : Link) : Ignores n (moveTo l) := .change (fun _ => rfl) fun _ => rfl

theorem ignores_forget : Ignores n forget := .change (fun _ => rfl) fun _ => rfl

/-- **Telling the status ends the same, whatever the listener does.** -/
theorem ignores_announce (isError : Bool) (m : Text) : Ignores n (announce isError m) := by
  intro both s s' j j' h
  obtain ⟨j₁, hr, hj⟩ := ends_announce n s j isError m
  obtain ⟨j₁', hr', hj'⟩ := ends_announce n s' j' isError m
  have hcalls : j₁.calls = j₁'.calls := by
    rw [hj.calls, hj'.calls, callsIn_toldTo, callsIn_toldTo, h.calls]
  rw [hr, hr']
  cases both with
  | false =>
    refine ⟨rfl, ?_, h.muted, hcalls, by simp⟩
    show untold (toldTo s.listener _) = untold (toldTo s'.listener _)
    cases s.listener <;> cases s'.listener <;> rfl
  | true =>
    obtain ⟨hl, hl', hstatuses⟩ := h.statuses rfl
    have htold : toldTo s.listener ⟨m, isError⟩ = toldTo s'.listener ⟨m, isError⟩ := by
      rw [toldTo, toldTo, hl, hl']
    refine ⟨rfl, htold, h.muted, hcalls, fun _ => ⟨hl, hl', ?_⟩⟩
    rw [hj.statuses, hj'.statuses, htold, hstatuses]

theorem ignores_subscribeAll : Ignores n subscribeAll := by
  refine .ofState (fun _ => rfl) fun s => ?_
  split
  · exact ignores_note _ _
  refine .bind (ignores_note _ _) fun _ => ?_
  split
  · exact .fail _
  refine .bind (.perform _ _) fun code => ?_
  split
  · exact ignores_note _ _
  · exact .change (fun _ => rfl) fun _ => rfl

theorem ignores_onConnected (r : Reason) : Ignores n (onConnected r) := by
  unfold onConnected
  split
  · exact .bind (ignores_moveTo _) fun _ => ignores_announce _ _
  · refine .bind (ignores_moveTo _) fun _ => .ofState (fun _ => rfl) fun s => ?_
    exact .bind (ignores_announce _ _) fun _ => ignores_subscribeAll

theorem ignores_onDisconnected (r : Reason) : Ignores n (onDisconnected r) := by
  refine .bind ignores_forget fun _ => .ofState (fun _ => rfl) fun s => ?_
  split
  · exact .pure ()
  split
  · refine .bind (ignores_note _ _) fun _ => ?_
    exact .bind (ignores_moveTo _) fun _ => ignores_announce _ _
  · exact .bind (ignores_moveTo _) fun _ => ignores_announce _ _

theorem ignores_onSubscribed (rs : List Reason) : Ignores n (onSubscribed rs) := by
  unfold onSubscribed
  split <;> exact ignores_note _ _

/-- Every callback. -/
theorem ignores_handle (c : Callback) : Ignores n (handle c) := by
  refine .during ?_ _
  cases c with
  | connected r => exact ignores_onConnected r
  | connectFailed => exact .bind (ignores_moveTo _) fun _ => ignores_announce _ _
  | disconnected r => exact ignores_onDisconnected r
  | message topic payload =>
    exact .bind (.change (fun _ => rfl) fun _ => rfl) fun _ => ignores_note _ _
  | subscribed rs => exact ignores_onSubscribed rs
  | noted severity text => exact ignores_note _ _

theorem ignores_handleAside (c : Callback) : Ignores n (handleAside c) :=
  .bind (ignores_handle c).attempt fun _ => .pure ()

theorem ignores_setUp : Ignores n setUp := by
  rw [setUp_eq]
  refine .ofState (fun _ => rfl) fun s => .bind (.create _) fun c => ?_
  refine .bind (.change (fun _ => rfl) fun _ => rfl) fun _ => ?_
  exact (Ignores.passes n).ready (fun x _ _ => .perform c x) s.config

theorem ignores_callClient (x : Call) : Ignores n (callClient x) := by
  refine .ofState (fun _ => rfl) fun s => ?_
  split
  · exact .fail _
  · exact .bind (.perform _ _) fun _ => .pure ()

theorem ignores_launch : Ignores n launch := by
  refine .bind ignores_setUp fun _ => .ofState (fun _ => rfl) fun s => ?_
  refine .bind (ignores_callClient _) fun _ => .bind (ignores_callClient _) fun _ => ?_
  exact .bind .atStart fun cs => (Ignores.passes n).each ignores_handle cs

theorem ignores_await (css : List (List Callback)) : Ignores n (await css) := by
  induction css with
  | nil =>
    refine .ofState (fun _ => rfl) fun s => ?_
    split
    · exact .pure true
    · exact .bind (ignores_note _ _) fun _ => .pure false
  | cons cs css ih =>
    refine .ofState (fun _ => rfl) fun s => ?_
    split
    · exact .pure true
    · exact .bind ((Ignores.passes n).each ignores_handleAside cs) fun _ => ih

theorem ignores_want (topics : TopicSet) : Ignores n (want topics) :=
  .bind (.change (fun _ => rfl) fun _ => rfl) fun _ => .mark _

theorem ignores_start (topics : TopicSet) : Ignores n (start topics) := by
  refine .bind (ignores_want topics) fun _ => .bind (ignores_moveTo _) fun _ => ?_
  refine .ofState (fun _ => rfl) fun s => .bind (ignores_note _ _) fun _ => ?_
  refine .bind ignores_launch.attempt fun r => ?_
  split
  · exact .bind .waiting fun css => ignores_await css
  · exact .fail _
  · refine .bind (ignores_moveTo _) fun _ => ?_
    exact .bind (ignores_announce _ _) fun _ => .fail _

theorem ignores_hangUp (c : Client) : Ignores n (hangUp c) := by
  refine .bind (ignores_note _ _) fun _ => ?_
  exact .bind (.perform _ _) fun _ => .bind (.perform _ _) fun _ => .pure ()

theorem ignores_stop : Ignores n stop := by
  refine .during (.ofState (fun _ => rfl) fun s => ?_) _
  split
  · exact .pure ()
  refine .bind (ignores_moveTo _) fun _ => .bind (ignores_hangUp _).attempt fun r => ?_
  rcases r with e | a
  · cases e
    case interrupted => exact .bind ignores_forget fun _ => .fail _
    all_goals exact .bind (ignores_note _ _) fun _ => .bind ignores_forget fun _ => .pure ()
  · exact .bind ignores_forget fun _ => .pure ()

theorem ignores_publish (topic : Text) (payload : Value) (qos : Int) (retain : Bool) :
    Ignores n (publish topic payload qos retain) := by
  refine .ofState (fun _ => rfl) fun s => ?_
  split
  · exact .fail _
  split
  · exact .fail _
  have hpacket : Ignores n (ofExcept (packet topic payload)) := by
    cases packet topic payload with
    | ok v => exact .pure v
    | error e => exact .fail e
  refine .bind hpacket fun packet => .bind (.perform _ _) fun code => ?_
  split
  · exact .fail _
  · exact ignores_note _ _

theorem ignores_drain : Ignores n drain :=
  .ofState (fun _ => rfl) fun _ => .bind (.change (fun _ => rfl) fun _ => rfl) fun _ => .pure _

end Doing

/-! ## Lives -/

/-- What the caller of an operation gets. -/
inductive Reply where
  | done
  /-- Whether there is a connection. -/
  | connected (b : Bool)
  /-- The messages that were taken. -/
  | messages (ms : List (Text × Value))

/-- The operation, with what its caller gets. -/
def Operation.reply : Operation → Act Session Reply
  | setUp => do Session.setUp; return .done
  | assign topics => do want (.ofList topics); return .done
  | start topics => do return .connected (← Session.start (.ofList topics))
  | stop => do Session.stop; return .done
  | callback c => do handle c; return .done
  | publish topic payload qos retain => do Session.publish topic payload qos retain; return .done
  | drain => do return .messages (← Session.drain)

theorem act_eq_reply (o : Operation) : o.act = (do let _ ← o.reply) := by
  cases o <;> simp [Operation.act, Operation.reply]

section Lives

variable {n : Network}

theorem ignores_reply (o : Operation) : Ignores n o.reply := by
  cases o with
  | setUp => exact .bind ignores_setUp fun _ => .pure _
  | assign topics => exact .bind (ignores_want _) fun _ => .pure _
  | start topics => exact .bind (ignores_start _) fun _ => .pure _
  | stop => exact .bind ignores_stop fun _ => .pure _
  | callback c => exact .bind (ignores_handle c) fun _ => .pure _
  | publish topic payload qos retain =>
    exact .bind (ignores_publish topic payload qos retain) fun _ => .pure _
  | drain => exact .bind ignores_drain fun _ => .pure _

theorem ignores_live (os : List Operation) : Ignores n (live os) := by
  refine (Ignores.passes n).each (fun o => .bind ?_ fun _ => .pure ()) os
  rw [act_eq_reply]
  exact (Ignores.bind (ignores_reply o) fun _ => .pure ()).attempt

end Lives

/-- How an operation ends that follows the life of a fresh session. -/
def replied (n : Network) (config : Config) (listener : Option Listener) (os : List Operation)
    (o : Operation) : Ended Session Reply :=
  o.reply.run n (lived n config listener os).state (lived n config listener os).journal

theorem same_replied {both : Bool} {listener listener' : Option Listener}
    (h : both = true → listener.isSome = true ∧ listener'.isSome = true) (n : Network)
    (config : Config) (os : List Operation) (o : Operation) :
    Same both (replied n config listener os o) (replied n config listener' os o) := by
  have hfresh : Alike both (fresh config listener) (fresh config listener') .empty .empty :=
    ⟨rfl, rfl, fun hb => ⟨(h hb).1, (h hb).2, rfl⟩⟩
  have hlived := ignores_live (n := n) os both _ _ _ _ hfresh
  exact ignores_reply o both _ _ _ _ hlived.alike

/-- **The listener does not matter.** After every life of a fresh session, each operation ends with
the same result, the same state, the same calls and the same trace without a listener and with any
one; and any two listeners, whether they fail or not, are told the same. -/
theorem listener_ignored (n : Network) (config : Config) (os : List Operation) (o : Operation)
    (l l' : Listener) :
    Same false (replied n config none os o) (replied n config (some l) os o) ∧
      Same true (replied n config (some l) os o) (replied n config (some l') os o) :=
  ⟨same_replied (by simp) n config os o, same_replied (by simp) n config os o⟩

end Session

end DeltaBridge
