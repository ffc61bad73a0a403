import DeltaBridge.Proofs.Broker.Course

/-!
# Traces

What can be read off a trace: the single things done, the calls and the status messages among them,
the messages that arrived and those that were handled.

* `singles`: the deeds without their occasions; `callsIn`, `statusesIn`: calls and status messages;
* `failureIn`: how the first publication that fails in a trace fails;
* `arrivedIn`, `handledIn`: the messages told by clients, and those handled; `Deed.Aside`: what is
  done beside the work on messages and units;
* `Journal.Records`: a journal that has grown by what is in a trace;
* `Act.Ends`: how a run ends, `Ends.bind`, `Ends.during`: how from its parts.
-/

namespace DeltaBridge

/-! ## The single things done -/

mutual

/-- A deed as the single things done in it. -/
def Deed.single : Deed → List Deed
  | .during _ parts _ => singles parts
  | d => [d]

/-- The single things done in some deeds. -/
def singles : List Deed → List Deed
  | [] => []
  | d :: ds => d.single ++ singles ds

end

@[simp] theorem singles_nil : singles [] = [] := rfl

@[simp] theorem singles_cons (d : Deed) (t : List Deed) :
    singles (d :: t) = d.single ++ singles t := rfl

@[simp] theorem singles_append (t u : List Deed) : singles (t ++ u) = singles t ++ singles u := by
  induction t with
  | nil => rfl
  | cons d t ih => simp [ih]

@[simp] theorem single_during (o : Occasion) (t : List Deed) (f : Option Failure) :
    (Deed.during o t f).single = singles t := rfl

/-- The call that a deed is. -/
def Deed.call? : Deed → Option CallRecord
  | .made r => some r
  | _ => none

/-- The status message that a deed is. -/
def Deed.status? : Deed → Option Status
  | .told s => some s
  | _ => none

/-- The calls made in some deeds, on whatever occasion. -/
def callsIn (t : List Deed) : List CallRecord := (singles t).filterMap Deed.call?

/-- The status messages told in some deeds, on whatever occasion. -/
def statusesIn (t : List Deed) : List Status := (singles t).filterMap Deed.status?

section Reading

variable (t u : List Deed) (d : Deed) (o : Occasion) (f : Option Failure)

@[simp] theorem callsIn_nil : callsIn [] = [] := rfl

@[simp] theorem callsIn_append : callsIn (t ++ u) = callsIn t ++ callsIn u := by simp [callsIn]

theorem callsIn_cons : callsIn (d :: t) = callsIn [d] ++ callsIn t := callsIn_append [d] t

@[simp] theorem callsIn_made (r : CallRecord) : callsIn [.made r] = [r] := rfl

@[simp] theorem callsIn_told (s : Status) : callsIn [.told s] = [] := rfl

@[simp] theorem callsIn_wanted (ts : TopicSet) : callsIn [.wanted ts] = [] := rfl

@[simp] theorem callsIn_during : callsIn [.during o t f] = callsIn t := by simp [callsIn]

@[simp] theorem statusesIn_nil : statusesIn [] = [] := rfl

@[simp] theorem statusesIn_append : statusesIn (t ++ u) = statusesIn t ++ statusesIn u := by
  simp [statusesIn]

@[simp] theorem statusesIn_made (r : CallRecord) : statusesIn [.made r] = [] := rfl

@[simp] theorem statusesIn_told (s : Status) : statusesIn [.told s] = [s] := rfl

@[simp] theorem statusesIn_wanted (ts : TopicSet) : statusesIn [.wanted ts] = [] := rfl

@[simp] theorem statusesIn_during : statusesIn [.during o t f] = statusesIn t := by
  simp [statusesIn]

end Reading

/-! ## Publications -/

/-- The failure with which a call ends, if it ends with one. -/
def Outcome.failure? : Outcome → Option Failure
  | .returned _ => none
  | .failed reason => some (.call reason)
  | .interrupted => some .interrupted

/-- The failure of a publication. -/
def CallRecord.failure? (r : CallRecord) : Option Failure :=
  match r.call with
  | .publish _ _ _ _ => r.outcome.failure?
  | _ => none

/-- The failure of the first publication in a trace that ends with one. -/
def failureIn (t : List Deed) : Option Failure := (callsIn t).findSome? CallRecord.failure?

@[simp] theorem failureIn_append (t u : List Deed) :
    failureIn (t ++ u) = (failureIn t).or (failureIn u) := by
  rw [failureIn, callsIn_append, List.findSome?_append]
  rfl

@[simp] theorem failureIn_made (r : CallRecord) : failureIn [.made r] = r.failure? := by
  rw [failureIn, callsIn_made, List.findSome?_singleton]

@[simp] theorem failureIn_during (o : Occasion) (t : List Deed) (f : Option Failure) :
    failureIn [.during o t f] = failureIn t := by rw [failureIn, callsIn_during, failureIn]

/-! ## Messages -/

/-- The message that a client tells of. -/
def Callback.message? : Callback → Option (Text × Value)
  | .message topic payload => some (topic, payload)
  | _ => none

/-- The message that has arrived with a deed. -/
def Deed.arrival? : Deed → Option (Text × Value)
  | .during (.callback c) _ _ => c.message?
  | _ => none

/-- The message that is handled in a deed. -/
def Deed.handled? : Deed → Option (Text × Value)
  | .during (.message topic payload) _ _ => some (topic, payload)
  | _ => none

/-- The messages that clients told of, in the order of their arrival. -/
def arrivedIn (t : List Deed) : List (Text × Value) := t.filterMap Deed.arrival?

/-- The messages handled, in the order in which they were. -/
def handledIn (t : List Deed) : List (Text × Value) := t.filterMap Deed.handled?

@[simp] theorem arrivedIn_nil : arrivedIn [] = [] := rfl

@[simp] theorem arrivedIn_append (t u : List Deed) :
    arrivedIn (t ++ u) = arrivedIn t ++ arrivedIn u :=
  List.filterMap_append

theorem arrivedIn_callback (c : Callback) (t : List Deed) (f : Option Failure) :
    arrivedIn [.during (.callback c) t f] = c.message?.toList := by
  cases h : c.message? <;> simp [arrivedIn, Deed.arrival?, h]

@[simp] theorem handledIn_nil : handledIn [] = [] := rfl

@[simp] theorem handledIn_append (t u : List Deed) :
    handledIn (t ++ u) = handledIn t ++ handledIn u :=
  List.filterMap_append

/-- The deed deals with a message or with units. -/
def Deed.works : Deed → Bool
  | .during (.message _ _) _ _ => true
  | .during (.units _) _ _ => true
  | _ => false

/-- A deed in which no message and no units are dealt with, and no publication fails. -/
structure Deed.Aside (d : Deed) : Prop where
  works : d.works = false
  failure : failureIn [d] = none

/-! ## Journals and traces -/

/-- The second journal is the first with the calls and the status messages of the trace. -/
structure Journal.Records (j : Journal) (t : List Deed) (j' : Journal) : Prop where
  calls : j'.calls = j.calls ++ callsIn t
  statuses : j'.statuses = j.statuses ++ statusesIn t

namespace Journal.Records

theorem of_report (j : Journal) (rs : List Report) : j.Records [] (j.report rs) :=
  ⟨by simp, by simp⟩

theorem refl (j : Journal) : j.Records [] j := ⟨by simp, by simp⟩

theorem append {j j' j'' : Journal} {t u : List Deed} (h : j.Records t j') (h' : j'.Records u j'') :
    j.Records (t ++ u) j'' :=
  ⟨by simp [h'.calls, h.calls], by simp [h'.statuses, h.statuses]⟩

theorem of_call (j : Journal) (r : CallRecord) : j.Records [.made r] (j.record r) :=
  ⟨by simp [Journal.record], by simp [Journal.record]⟩

theorem during {j j' : Journal} {t : List Deed} (h : j.Records t j') (o : Occasion)
    (f : Option Failure) :
    j.Records [.during o t f] j' := ⟨by simp [h.calls], by simp [h.statuses]⟩

end Journal.Records

namespace Act

/-! ## Single runs -/

/-- The run ends with the result and the state after the deeds of the trace, and its journal has
them. -/
def Ends {σ α : Type} (n : Network) (s : σ) (j : Journal) (x : Act σ α) (r : Except Failure α)
    (s' : σ) (t : List Deed) : Prop :=
  ∃ j', x.run n s j = ⟨r, s', j', t⟩ ∧ j.Records t j'

namespace Ends

variable {σ τ α β : Type} {n : Network} {s s' s'' : σ} {j : Journal} {t u : List Deed}

theorem pure (a : α) : Ends n s j (pure a : Act σ α) (.ok a) s [] := ⟨j, rfl, .refl j⟩

theorem fail (e : Failure) : Ends n s j (fail e : Act σ α) (.error e) s [] := ⟨j, rfl, .refl j⟩

theorem state : Ends n s j state (.ok s) s [] := ⟨j, rfl, .refl j⟩

theorem change (f : σ → σ) : Ends n s j (change f) (.ok ()) (f s) [] := ⟨j, rfl, .refl j⟩

theorem mark (ts : TopicSet) : Ends n s j (mark (.wanted ts)) (.ok ()) s [.wanted ts] :=
  ⟨j, rfl, by simp, by simp⟩

theorem ofLogged (x : Logged α) : Ends n s j (ofLogged x) (.ok x.value) s [] :=
  ⟨_, rfl, .of_report j _⟩

theorem perform (c : Client) (x : Call) :
    Ends n s j (perform c x) (endOfCall (n.answer j.calls c x)) s
      [.made ⟨c, x, n.answer j.calls c x⟩] :=
  ⟨_, rfl, .of_call j _⟩

theorem create (id : Text) :
    Ends n s j (create id)
      ((endOfCall (n.answer j.calls j.calls.length (.create id))).map fun _ => j.calls.length) s
      [.made ⟨j.calls.length, .create id, n.answer j.calls j.calls.length (.create id)⟩] :=
  ⟨_, rfl, .of_call j _⟩

theorem tell (l : Listener) (st : Status) :
    Ends n s j (tell l st) (.ok (l j.statuses st).failure) s [.told st] :=
  ⟨_, rfl, by simp, by simp⟩

theorem seq {x : Act σ α} {f : α → Act σ β} {a : α} {r : Except Failure β} {j' : Journal}
    (hx : x.run n s j = ⟨.ok a, s', j', t⟩) (hj : j.Records t j')
    (hf : Ends n s' j' (f a) r s'' u) :
    Ends n s j (x >>= f) r s'' (t ++ u) := by
  obtain ⟨j'', hr, hj'⟩ := hf
  exact ⟨j'', by rw [run_bind_of_ok n s j hx, hr]; rfl, hj.append hj'⟩

/-- A first part that ends with a result, and the rest, whatever the journal. -/
theorem bind {x : Act σ α} {f : α → Act σ β} {a : α} {r : Except Failure β}
    (hx : Ends n s j x (.ok a) s' t) (hf : ∀ j', j.Records t j' → Ends n s' j' (f a) r s'' u) :
    Ends n s j (x >>= f) r s'' (t ++ u) := by
  obtain ⟨j', hr, hj⟩ := hx
  exact seq hr hj (hf j' hj)

theorem after {x : Act σ α} {f : α → Act σ β} {a : α} {r : Except Failure β}
    (hx : Ends n s j x (.ok a) s' []) (hf : ∀ j', j.Records [] j' → Ends n s' j' (f a) r s'' u) :
    Ends n s j (x >>= f) r s'' u := hx.bind hf

theorem next {x : Act σ α} {f : α → Act σ β} {a : α} {r : Except Failure β}
    (hx : x.run n s j = ⟨.ok a, s', j, []⟩) (hf : Ends n s' j (f a) r s'' u) :
    Ends n s j (x >>= f) r s'' u := seq hx (.refl j) hf

theorem logged {x : Logged α} {f : α → Act σ β} {r : Except Failure β}
    (hf : Ends n s (j.report x.reports) (f x.value) r s' t) :
    Ends n s j (Act.ofLogged x >>= f) r s' t :=
  seq (run_ofLogged n s j x) (.of_report j _) hf

theorem bind_error {x : Act σ α} {f : α → Act σ β} {e : Failure}
    (hx : Ends n s j x (.error e) s' t) :
    Ends n s j (x >>= f) (.error e) s' t := by
  obtain ⟨j', hr, hj⟩ := hx
  exact ⟨j', run_bind_of_error n s j hr, hj⟩

theorem attempt {x : Act σ α} {r : Except Failure α} (hx : Ends n s j x r s' t) :
    Ends n s j (attempt x) (.ok r) s' t := by
  obtain ⟨j', hr, hj⟩ := hx
  exact ⟨j', by rw [run_attempt, hr], hj⟩

theorem during {x : Act σ α} {r : Except Failure α} (hx : Ends n s j x r s' t) (o : Occasion) :
    Ends n s j (during o x) r s' [.during o t (failure? r)] := by
  obtain ⟨j', hr, hj⟩ := hx
  exact ⟨j', by rw [run_during, hr], hj.during o _⟩

theorem within {part : τ → σ} {put : σ → τ → τ} {b : τ} {x : Act σ α} {r : Except Failure α}
    (hx : Ends n (part b) j x r s' t) : Ends n b j (within part put x) r (put s' b) t := by
  obtain ⟨j', hr, hj⟩ := hx
  exact ⟨j', by rw [run_within, hr], hj⟩

end Ends

end Act

end DeltaBridge
