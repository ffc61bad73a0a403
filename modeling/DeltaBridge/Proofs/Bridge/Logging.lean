import DeltaBridge.Proofs.Bridge.Sending
import DeltaBridge.Proofs.Bridge.Turning
import DeltaBridge.Proofs.Sensor.Interpretation

/-!
# Reported documents

A bridge without a topic reports its documents. It handles what it takes from the queue up to the
first message whose records cannot be shown or written, and ends with that.

* `Bridge.upToFault`: the messages up to the first one with a fault, `Handles.upTo`;
* `Bridge.loggingFault`, `Bridge.reportedFor`: how the handling of a message fails, and what is done
  for it;
* `Bridge.Reports`: what a turn does, `Bridge.reports_turnAmid`, `Bridge.reports_turn`;
* **`Bridge.logs_up_to_fault`**: what is handled, by a single message and by a turn.
-/

namespace DeltaBridge

open Act

namespace Bridge

/-! ## Up to the first fault -/

/-- The messages up to the first one with a fault, and that one. -/
def upToFault (fault : Text × Value → Option Failure) : List (Text × Value) → List (Text × Value)
  | [] => []
  | m :: ms => if (fault m).isSome then [m] else m :: upToFault fault ms

section Faults

variable {fault : Text × Value → Option Failure}

theorem upToFault_of_none {ms : List (Text × Value)} (h : ∀ m ∈ ms, fault m = none) :
    upToFault fault ms = ms := by
  induction ms with
  | nil => rfl
  | cons m ms ih =>
    rw [upToFault, if_neg (by simp [h m List.mem_cons_self]),
      ih fun x hx => h x (List.mem_cons_of_mem m hx)]

theorem upToFault_append {done : List (Text × Value)} {m : Text × Value} {f : Failure}
    (rest : List (Text × Value)) (hd : ∀ x ∈ done, fault x = none) (hm : fault m = some f) :
    upToFault fault (done ++ m :: rest) = done ++ [m] := by
  induction done with
  | nil => rw [List.nil_append, upToFault, if_pos (by rw [hm]; rfl), List.nil_append]
  | cons x done ih =>
    rw [List.cons_append, upToFault, if_neg (by simp [hd x List.mem_cons_self]),
      ih fun y hy => hd y (List.mem_cons_of_mem x hy), List.cons_append]

/-- **Messages whose faults are known are handled up to the first fault.** -/
theorem Handles.upTo {n : Network} {i : Interpreter} {k : Sink} {ms : List (Text × Value)}
    {r : Except Failure Unit} {t : List Deed} (h : Handles n i k ms r t)
    (hm : ∀ topic payload parts f, .during (.message topic payload) parts f ∈ t →
      f = fault (topic, payload)) :
    failure? r = ms.findSome? fault ∧ handledIn t = upToFault fault ms := by
  obtain ⟨lost, ha, hl⟩ := h.lost
  rcases h.reach hm fun ns parts f hu => absurd hu (h.units ns parts f) with
    ⟨rfl, hnone⟩ | ⟨f, done, m, rfl, hdone, hnone, hf⟩
  · rw [hl rfl, List.append_nil] at ha
    rw [ha] at hnone ⊢
    exact ⟨(List.findSome?_eq_none_iff.2 hnone).symm, (upToFault_of_none hnone).symm⟩
  · have hms : ms = done ++ m :: lost := by
      rw [← ha, hdone, List.append_assoc, List.singleton_append]
    rw [hms, hdone, upToFault_append lost hnone hf, List.findSome?_append,
      List.findSome?_eq_none_iff.2 hnone,
      List.findSome?_cons, hf]
    exact ⟨rfl, rfl⟩

end Faults

/-! ## Messages -/

/-- The failure of a message if documents are reported: its records cannot be shown, or they cannot
be written. -/
def loggingFault (i : Interpreter) (m : Text × Value) : Option Failure :=
  match (i.interpret m.1 m.2).value with
  | .error e => some (.unshowable e)
  | .ok rs => (writeError? rs).map .unwritable

/-- What is done for a message if documents are reported: its records are offered to the sink once,
if there are any and a binding asks for them. -/
def reportedFor (i : Interpreter) (m : Text × Value) : List Deed :=
  match (i.interpret m.1 m.2).value with
  | .error _ => []
  | .ok rs =>
    if i.registry.bindingsFor m.1 = [] then [] else [.during (.readings rs) [] (loggingFault i m)]

variable {n : Network} {i : Interpreter} {label : Option Text}

/-- A message that comes as a text or as bytes has no fault if its records can be shown, and none of
them is flawed or nested too deep. -/
theorem loggingFault_eq_none_iff {m : Text × Value} (hm : m.2.isWire = true) :
    loggingFault i m = none ↔ ∃ rs, (i.interpret m.1 m.2).value = .ok rs ∧
      rs.any Record.isFlawed = false ∧ rs.any Record.isDeep = false := by
  unfold loggingFault
  cases h : (i.interpret m.1 m.2).value with
  | error e => simp
  | ok rs => simpa using writeError?_eq_none_iff (Interpreter.plain_interpret hm h)

theorem reported_of_handled {m : Text × Value} {r : Except Failure (List Record)} {parts : List Deed}
    (h : Handled n i (.log label) m.1 m.2 r parts) :
    parts = reportedFor i m ∧ failure? r = loggingFault i m := by
  unfold reportedFor loggingFault
  cases h with
  | unshowable h =>
    rw [h]
    exact ⟨rfl, rfl⟩
  | unbound h hb =>
    rw [Interpreter.interpret_of_unbound hb] at h
    cases h
    rw [Interpreter.interpret_of_unbound hb]
    exact ⟨(if_pos hb).symm, rfl⟩
  | offered h hb hs =>
    rename_i rs r t
    obtain ⟨rfl, hf⟩ := hs.result_log
    rw [h]
    simp only [if_neg hb, ← hf]
    rcases r with f | ⟨⟩
    · -- the failure is no failure of the broker, so it is neither told nor contained
      cases hw : writeError? rs with
      | none =>
        rw [hw] at hf
        cases hf
      | some e =>
        rw [hw] at hf
        cases hf
        exact ⟨rfl, rfl⟩
    · exact ⟨rfl, rfl⟩

/-! ## Turns -/

theorem Due.eq_ok_of_log {b : Bridge} (hk : b.sink = .log label) {r : Except Failure Unit}
    {p : Bool} {t : List Deed} (h : Due n b r p t) : r = .ok () := by
  cases h with
  | idle _ => rfl
  | tried _ ha =>
    rw [hk] at ha
    cases ha with
    | nothing _ => rfl
    | offered _ hs =>
      obtain ⟨u, hu⟩ := write_unitsDelta b.registry.unitNotices
      cases hs with
      | reported _ => rfl
      | unwritten he =>
        rw [hu] at he
        cases he

/-- What a turn does with the messages that it takes from the queue, if documents are reported. -/
structure Reports (i : Interpreter) (ms : List (Text × Value)) (e : Ended Bridge Unit) : Prop where
  result : failure? e.result = ms.findSome? (loggingFault i)
  /-- What comes after the first message with a fault is lost. -/
  handled : handledIn e.trace = upToFault (loggingFault i) ms
  offered : ∀ topic payload parts f, .during (.message topic payload) parts f ∈ e.trace →
    parts = reportedFor i (topic, payload) ∧ f = loggingFault i (topic, payload)

theorem reports_turnAmid {b : Bridge} (hk : b.sink = .log label) {s : Session}
    (hb : b.transport = some s) (j : Journal) (cs : List Callback) (css : List (List Callback)) :
    Reports b.interpreter (s.queue ++ messagesOf cs) ((turnAmid cs css).run n b j) := by
  obtain ⟨r, s', p, t, ⟨j', hr, hj⟩, ht⟩ := ends_turnAmid (n := n) hb j cs css
  rw [hr]
  cases ht with
  | stuck hd => cases hd.eq_ok_of_log hk
  | worked hd ha hh hs =>
    rename_i t u
    have hmessages : ∀ topic payload parts f, .during (.message topic payload) parts f ∈ u →
        parts = reportedFor b.interpreter (topic, payload) ∧
          f = loggingFault b.interpreter (topic, payload) := by
      intro topic payload parts f hm
      obtain ⟨r', rfl, hH⟩ := hs.handled _ _ _ _ hm
      rw [hk] at hH
      exact reported_of_handled (m := (topic, payload)) hH
    obtain ⟨hres, hhandled⟩ := hs.upTo fun topic payload parts f hm => (hmessages _ _ _ _ hm).2
    refine ⟨hres, by rw [handledIn_append, hd.quiet.2, List.nil_append, hhandled], ?_⟩
    intro topic payload parts f hm
    rcases List.mem_append.1 hm with hm | hm
    · have := mem_handledIn hm
      rw [hd.quiet.2] at this
      cases this
    · exact hmessages _ _ _ _ hm

/-- So it is with the turn of the bridge itself, which is the one without callbacks. -/
theorem reports_turn {b : Bridge} (hk : b.sink = .log label) {s : Session}
    (hb : b.transport = some s) (j : Journal) :
    Reports b.interpreter s.queue (turn.run n b j) := by
  have h := reports_turnAmid (n := n) hk hb j [] []
  rwa [turnAmid_nil, messagesOf, List.filterMap_nil, List.append_nil] at h

/-- **A bridge that reports handles messages up to the first one with a fault, and fails with
that.** A turn, with callbacks during it or without any (`turnAmid_nil`), does so with all that is
in the queue when it is emptied, and loses the messages after the fault. Each message that is
handled is offered to the sink once, if it can be shown and its topic has bindings. A message as it
comes from a client has a fault only if its records cannot be shown, or if one of them is flawed or
nested too deep. -/
theorem logs_up_to_fault {b : Bridge} (hk : b.sink = .log label) (j : Journal) :
    (∀ m : Text × Value, m.2.isWire = true →
      (loggingFault b.interpreter m = none ↔ ∃ rs, (b.interpreter.interpret m.1 m.2).value = .ok rs ∧
        rs.any Record.isFlawed = false ∧ rs.any Record.isDeep = false)) ∧
      (∀ m : Text × Value,
        failure? ((handleMessage m.1 m.2).run n b j).result = loggingFault b.interpreter m ∧
          ((handleMessage m.1 m.2).run n b j).trace =
            [.during (.message m.1 m.2) (reportedFor b.interpreter m)
              (loggingFault b.interpreter m)]) ∧
      ∀ s cs css, b.transport = some s →
        Reports b.interpreter (s.queue ++ messagesOf cs) ((turnAmid cs css).run n b j) := by
  refine ⟨fun m hm => loggingFault_eq_none_iff hm, fun m => ?_,
    fun s cs css hb => reports_turnAmid hk hb j cs css⟩
  obtain ⟨r, t, ⟨j', hr, _⟩, hh⟩ := ends_handleMessage n b j m.1 m.2
  rw [hk] at hh
  obtain ⟨rfl, hf⟩ := reported_of_handled hh
  rw [hr, ← hf]
  exact ⟨rfl, rfl⟩

/-- A message that arrives during a turn before the queue is emptied is handled in it. -/
theorem small_logs :
    failure? ((turnAmid [.message smallMessage.1 smallMessage.2] []).run .silent
          (small (.log none)) .empty).result =
        none ∧
      handledIn ((turnAmid [.message smallMessage.1 smallMessage.2] []).run .silent
          (small (.log none)) .empty).trace =
        [smallMessage] := by
  obtain ⟨_, _, hturn⟩ := logs_up_to_fault (n := .silent) (b := small (.log none)) rfl .empty
  have h := hturn smallSession [.message smallMessage.1 smallMessage.2] [] rfl
  exact ⟨h.result.trans rfl, h.handled.trans rfl⟩

end Bridge

end DeltaBridge
