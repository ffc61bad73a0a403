import DeltaBridge.Proofs.Bridge.Sending
import DeltaBridge.Proofs.Delta.RoundTrip

/-!
# Documents that are sent

A sink makes one text of a batch, which is read back as the batch, or it sends nothing.

* `Sink.SendsText`, `Sink.SendsNothing`: the text is reported or published, once; nothing is;
* `Sink.sendsText_values`, `Sink.sendsNothing_values`, `Sink.sendsText_units`: when which is the
  case;
* **`Sink.documents_round_trip`**: what the texts of batches mean;
* `Sink.nestedReading`: a reading that is nested too deep to be sent.
-/

namespace DeltaBridge

open Act

namespace Session

variable {n : Network} {s : Session} {j : Journal} {c : Client} {topic : Text} {payload : Value}

theorem run_publish_of_unwritten (hc : s.client = some c) (hs : s.isConnected = true) {e : Failure}
    (hp : packet topic payload = .error e) (qos : Int) (retain : Bool) :
    (publish topic payload qos retain).run n s j = ⟨.error e, s, j, []⟩ := by
  unfold publish
  rw [run_bind_of_ok n s j (run_state n s j)]
  simp only [hc, hs, hp]
  rfl

end Session

namespace Sink

/-! ## One text or nothing -/

section

variable (send : Sink → Act Transport Unit) (title : Text) (retain : Bool) (label : Option Text)

/-- The text is sent, and nothing else: it is reported under the title, or published if there is a
connection. -/
structure SendsText (t : Text) : Prop where
  reported (n : Network) (s : Transport) (j : Journal) :
    ((send (.log label)).run n s j).result = .ok () ∧
      ((send (.log label)).run n s j).journal =
        j.report [⟨.info, .valueLog, title ++ " " ++ t⟩]
  published (n : Network) (s : Session) (j : Journal) {c : Client} (hc : s.client = some c)
    (hs : s.isConnected = true) (name : Text) (qos : Int) :
    let call := Call.publish name (.text t) qos retain
    let o := n.answer j.calls c call
    ((send (.topic name label qos)).run n (some s) j).result = Session.resultOf name o ∧
      ((send (.topic name label qos)).run n (some s) j).journal.calls = j.calls ++ [⟨c, call, o⟩]

/-- Sending fails for the given reason, and nothing is reported or published. -/
structure SendsNothing (e : Json.WriteError) : Prop where
  reported (n : Network) (s : Transport) (j : Journal) :
    ((send (.log label)).run n s j).result = .error (.unwritable e) ∧
      ((send (.log label)).run n s j).journal = j
  published (n : Network) (s : Session) (j : Journal) {c : Client} (hc : s.client = some c)
    (hs : s.isConnected = true) (name : Text) (qos : Int) :
    ((send (.topic name label qos)).run n (some s) j).result =
        .error (Session.unwritten name e) ∧
      ((send (.topic name label qos)).run n (some s) j).journal = j

end

section Documents

variable {send : Sink → Act Transport Unit} {title : Text} {retain : Bool} {label : Option Text}
  {occasion : Occasion} {ms : List (Text × Value)}
  (hlog : send (.log label) = during occasion (report title (.object ms)))
  (htopic : ∀ name qos, send (.topic name label qos) =
    during occasion (Transport.use (Session.publish name (.object ms) qos retain)))

include hlog htopic

theorem sendsText_of_write {t : Text} (h : Json.write (.object ms) = .ok t) :
    SendsText send title retain label t where
  reported n s j := by
    rw [hlog, run_during, report, h]
    exact ⟨rfl, rfl⟩
  published n s j _ hc hs name qos := by
    obtain ⟨j', hr, hj⟩ := (Transport.ends_use (Session.ends_publish_of_connected n s j hc hs
      (Session.packet_object_of_ok h) qos retain)).during occasion
    rw [htopic, hr]
    exact ⟨rfl, hj.calls⟩

theorem sendsNothing_of_write {e : Json.WriteError} (h : Json.write (.object ms) = .error e) :
    SendsNothing send label e where
  reported n s j := by
    rw [hlog, run_during, report, h]
    exact ⟨rfl, rfl⟩
  published n s j _ hc hs name qos := by
    rw [htopic, run_during, Transport.run_use (Session.run_publish_of_unwritten hc hs
      (Session.packet_object_of_error h) qos retain)]
    exact ⟨rfl, rfl⟩

end Documents

/-! ## Batches -/

variable (label : Option Text)

/-- A batch of readings that cannot be written. -/
theorem sendsNothing_values {rs : List Record} {e : Json.WriteError} (he : writeError? rs = some e) :
    SendsNothing (publishValues · rs) label e := by
  obtain ⟨t, ht⟩ := write_valuesDelta label rs
  rw [he] at ht
  exact sendsNothing_of_write rfl (fun _ _ => rfl) ht

/-- A batch of readings that can be written. -/
theorem sendsText_values {rs : List Record} (hn : writeError? rs = none) :
    ∃ t, Json.write (valuesDelta label rs) = .ok t ∧
      SendsText (publishValues · rs) "delta" false label t := by
  obtain ⟨t, ht⟩ := write_valuesDelta label rs
  rw [hn] at ht
  exact ⟨t, ht, sendsText_of_write rfl (fun _ _ => rfl) ht⟩

theorem sendsText_units (ns : List UnitNotice) :
    ∃ t, Json.write (unitsDelta ns) = .ok t ∧
      SendsText (publishUnits · ns) "meta" true label t := by
  obtain ⟨t, ht⟩ := write_unitsDelta ns
  exact ⟨t, ht, sendsText_of_write rfl (fun _ _ => rfl) ht⟩

/-- **What is sent of a batch is read back.** If a double that is not finite is inside a list or an
object among the readings, or if a reading is nested too deep, nothing is sent of them. Otherwise
one text is, and it means the label and the readings in their order, with null for each reading that
is not finite itself. For units one text is always sent, and it means the units. -/
theorem documents_round_trip {rs : List Record} {ns : List UnitNotice}
    (hlabel : Json.IsSound (label.getD [])) (hrs : ∀ r ∈ rs, r.Legible)
    (hns : ∀ u ∈ ns, u.Legible) :
    (if rs.any Record.isFlawed || rs.any Record.isDeep then
        ∃ e, (e = .nonFinite ∧ rs.any Record.isFlawed = true ∨
            e = .tooDeep ∧ rs.any Record.isDeep = true) ∧
          SendsNothing (publishValues · rs) label e
      else ∃ t, SendsText (publishValues · rs) "delta" false label t ∧
        Json.Means t (documentWith (label.getD []) "values" (valueEntries rs))) ∧
    ∃ t, SendsText (publishUnits · ns) "meta" true label t ∧
      Json.Means t (documentWith [] "meta" (unitEntries ns)) := by
  have hplain : ∀ r ∈ rs, r.Plain := fun r hr => (hrs r hr).plain
  have hnone := writeError?_eq_none_iff hplain
  refine ⟨?_, ?_⟩
  · cases he : writeError? rs with
    | none =>
      obtain ⟨hf, hd⟩ := hnone.1 he
      rw [hf, hd, if_neg (by decide)]
      obtain ⟨t, ht, hsent⟩ := sendsText_values label he
      exact ⟨t, hsent, means_valuesDelta hlabel hrs ht⟩
    | some e =>
      have hreason := eq_of_writeError? hplain he
      rw [if_pos]
      · exact ⟨e, hreason, sendsNothing_values label he⟩
      · rw [Bool.or_eq_true]
        exact hreason.imp And.right And.right
  · obtain ⟨t, ht, hsent⟩ := sendsText_units label ns
    exact ⟨t, hsent, means_unitsDelta hns ht⟩

/-- A reading that is not finite itself, and one with items. -/
def smallReadings : List Record :=
  [⟨"a", .float (0.0 / 0.0)⟩, ⟨"b", .list [.int 1, .float 1.0]⟩]

/-- The entries that come back: null for the first reading, and the second one as it is. -/
def smallEntries : List (Text × Value) := [("a", .null), ("b", .list [.int 1, .float 1.0])]

/-- The unit of one destination. -/
def smallUnits : List UnitNotice := [⟨"a", "K"⟩]

theorem small_round_trip :
    (Json.IsSound "lab" ∧ (∀ r ∈ smallReadings, r.Legible) ∧ ∀ u ∈ smallUnits, u.Legible) ∧
      (∃ t, SendsText (publishValues · smallReadings) "delta" false (some "lab") t ∧
        Json.Means t (documentWith "lab" "values" smallEntries)) ∧
      ∃ t, SendsText (publishUnits · smallUnits) "meta" true (some "lab") t ∧
        Json.Means t (documentWith [] "meta" [("a", .object [("units", .text "K")])]) := by
  have hlabel : Json.IsSound "lab" := Json.isSound_of_ascii (by decide)
  have hrs : ∀ r ∈ smallReadings, r.Legible := by
    simp only [smallReadings, List.forall_mem_cons, List.not_mem_nil, false_imp_iff, implies_true,
      and_true]
    exact ⟨⟨⟨rfl, rfl⟩, Json.isSound_of_ascii (by decide), trivial⟩,
      ⟨⟨rfl, by decide +kernel⟩, Json.isSound_of_ascii (by decide), trivial, trivial, trivial⟩⟩
  have hns : ∀ u ∈ smallUnits, u.Legible :=
    List.forall_mem_singleton.2
      ⟨Json.isSound_of_ascii (by decide), Json.isSound_of_ascii (by decide)⟩
  have hf : (smallReadings.any Record.isFlawed || smallReadings.any Record.isDeep) = false := by
    decide +kernel
  have hentries : valueEntries smallReadings = smallEntries := by
    have hnan : (0.0 / 0.0 : Float).isFinite = false := by decide +kernel
    simp [valueEntries, smallReadings, smallEntries, Value.publishable, hnan]
  obtain ⟨hvalues, hunits⟩ := documents_round_trip (some "lab") hlabel hrs hns
  rw [if_neg (by simp [hf]), hentries] at hvalues
  exact ⟨⟨hlabel, hrs, hns⟩, hvalues, hunits⟩

/-- A reading that goes deeper than documents may. -/
def nestedReading (k : Nat) : Record := ⟨"a", Value.nested k⟩

theorem plain_nestedReading (k : Nat) : (nestedReading k).Plain :=
  ⟨Value.somewhere_nested _ k, (Value.hasLong_eq _).trans (Value.somewhere_nested _ k)⟩

theorem nestedReading_unsent {k : Nat} (h : depthLimit < k + 6) (label : Option Text) :
    (nestedReading k).Legible ∧ (nestedReading k).isFlawed = false ∧
      SendsNothing (publishValues · [nestedReading k]) label .tooDeep := by
  have hplain := plain_nestedReading k
  have hvalue : (nestedReading k).value.publishable = Value.nested k := by cases k <;> rfl
  have hflawed : (nestedReading k).isFlawed = false := by
    rw [Record.isFlawed, hvalue]
    exact Value.somewhere_nested _ k
  have hdeep : (nestedReading k).isDeep = true := by
    rw [Record.isDeep, nestedReading, Value.depth_nested]
    exact decide_eq_true h
  have hdestination : Json.IsSound "a" := Json.isSound_of_ascii (by decide)
  refine ⟨⟨hplain, hdestination, Value.legible_nested k⟩, hflawed,
    sendsNothing_values label ?_⟩
  cases he : (nestedReading k).writeError? with
  | none =>
    rw [(Record.sound_of_writeError? he).2] at hdeep
    cases hdeep
  | some e =>
    rcases hplain.eq_of_writeError? he with ⟨-, hf⟩ | ⟨rfl, -⟩
    · rw [hflawed] at hf
      cases hf
    · rw [writeError?, List.findSome?_singleton, he]

/-- Of a reading inside 20000 lists nothing is sent, though there is no flaw in it. -/
theorem deep_reading_unsent :
    (nestedReading 20000).Legible ∧ (nestedReading 20000).isFlawed = false ∧
      SendsNothing (publishValues · [nestedReading 20000]) none .tooDeep :=
  nestedReading_unsent (by decide) none

end Sink

end DeltaBridge
