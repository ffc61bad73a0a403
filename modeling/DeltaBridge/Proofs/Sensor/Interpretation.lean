import DeltaBridge.Proofs.Delta.Document
import DeltaBridge.Proofs.Json.Reading
import DeltaBridge.Proofs.Path.Finding
import DeltaBridge.Sensor.Interpretation

/-!
# What is read from messages

The records of a message that comes as a text or as bytes are plain: they have neither bytes nor
integers too long to be written out.

* `Value.isWire`: the payload of a message;
* `hasBytes_extract`, `Converter.hasBytes_convert`: extraction and conversion bring no bytes;
* **`Interpreter.plain_interpret`**: the records are plain.
-/

namespace DeltaBridge

/-- The value is a text or bytes, as messages carry them. -/
def Value.isWire : Value → Bool
  | .text _ | .bytes _ => true
  | _ => false

/-! ## Extraction -/

theorem hasBytes_decodePayload {payload v : Value} (hw : payload.isWire = true)
    (h : decodePayload payload = .ok v) :
    v.hasBytes = false := by
  cases payload with
  | bytes b =>
    simp only [decodePayload] at h
    split at h
    · cases h
      rfl
    · cases h
  | text t =>
    cases h
    rfl
  | null | bool _ | int _ | float _ | list _ | object _ => cases hw

theorem hasBytes_readDocument {payload v : Value} (h : readDocument payload = .ok v) :
    v.hasBytes = false := by
  unfold readDocument at h
  split at h
  · split at h
    · rename_i hr
      cases h
      exact Json.hasBytes_read hr
    · cases h
    · cases h
  · cases h

theorem hasBytes_selected {p : Path} {document v : Value} (hp : p.isPlain = true)
    (hd : document.hasBytes = false) (h : Matcher.standard.selected p document = .ok (some v)) :
    v.hasBytes = false := by
  unfold Matcher.selected at h
  split at h
  · cases h
  · rename_i ns hns
    obtain ⟨m, hm, rfl⟩ := Option.map_eq_some_iff.1 (Except.ok.inj h)
    exact (Path.plain_find p _ ns hp (Node.plain_fresh hd) hns m
      (List.mem_of_find?_eq_some hm)).value

theorem hasBytes_extractWith {payload v : Value} {selector : Text}
    (h : Matcher.standard.extractWith payload selector = .ok v) :
    v.hasBytes = false := by
  unfold Matcher.extractWith at h
  split at h
  · cases h
  rename_i p hp
  split at h
  · cases h
  rename_i document hd
  split at h
  · cases h
  · cases h
  · rename_i w hw
    cases h
    exact hasBytes_selected (Path.isPlain_parse hp) (hasBytes_readDocument hd) hw

theorem hasBytes_extract {payload v : Value} {selector : Option Text} (hw : payload.isWire = true)
    (h : (extract payload selector).value = .ok v) : v.hasBytes = false := by
  unfold extract Matcher.extract at h
  split at h
  · cases h
  · rename_i w hd
    cases h
    exact hasBytes_decodePayload hw hd
  · rename_i w s hd
    split at h
    · cases h
      exact hasBytes_decodePayload hw hd
    · split at h
      · cases h
      · rename_i x hx
        cases h
        exact hasBytes_extractWith hx

/-! ## Conversion -/

namespace Converter

theorem convertWith_value {c : Converter} {rule : Rule} {kind : Kind} {unit : Text} {raw v : Value}
    (h : (c.convertWith rule kind unit raw).value = .ok v) : ∃ y, v = .float y := by
  unfold convertWith at h
  dsimp only at h
  split at h
  · cases h
  split at h
  · cases h
  cases hy : rule.run (Reading.ofValue raw).value with
  | error e =>
    rw [hy] at h
    split at h <;> cases h
  | ok y =>
    rw [hy] at h
    refine ⟨y, ?_⟩
    split at h <;> exact (Except.ok.inj h).symm

theorem hasBytes_convert {c : Converter} {kind : Kind} {unit : Text} {raw v : Value}
    (hr : raw.hasBytes = false) (h : (c.convert kind unit raw).value = .ok v) :
    v.hasBytes = false := by
  unfold convert at h
  split at h
  · obtain ⟨y, rfl⟩ := convertWith_value h
    rfl
  · split at h
    · cases h
      exact hr
    · cases h
      exact hr

end Converter

/-! ## Records -/

namespace Interpreter

theorem hasBytes_recordOf {c : Converter} {payload : Value} {b : Binding} {r : Record}
    (hw : payload.isWire = true) (h : (recordOf c payload b).value = some r) :
    r.value.hasBytes = false := by
  unfold recordOf at h
  rw [Logged.value_bind] at h
  split at h
  · dsimp only at h
    split at h <;> cases h
  · rename_i raw hraw
    rw [Logged.value_bind] at h
    split at h
    · dsimp only at h
      split at h <;> cases h
    · rename_i v hv
      cases h
      exact Converter.hasBytes_convert (hasBytes_extract hw hraw) hv

theorem hasBytes_recordsOf {c : Converter} {payload : Value} (hw : payload.isWire = true)
    (bs : List Binding) :
    ∀ r ∈ (recordsOf c payload bs).value, r.value.hasBytes = false := by
  induction bs with
  | nil => exact fun _ hr => absurd hr List.not_mem_nil
  | cons b bs ih =>
    intro r hr
    rcases List.mem_append.1 hr with hr | hr
    · exact hasBytes_recordOf hw (Option.mem_toList.1 hr)
    · exact ih r hr

/-- **The records of a message are plain.** -/
theorem plain_interpret {i : Interpreter} {topic : Text} {payload : Value} {rs : List Record}
    (hw : payload.isWire = true) (h : (i.interpret topic payload).value = .ok rs) :
    ∀ r ∈ rs, r.Plain := by
  unfold interpret at h
  split at h
  · cases h
    exact fun _ hr => absurd hr List.not_mem_nil
  · rw [Logged.value_bind, Logged.value_bind] at h
    split at h
    · cases h
    · rename_i hl
      cases h
      intro r hr
      refine ⟨hasBytes_recordsOf hw _ r hr, ?_⟩
      exact (Value.showError?_eq_none_iff.1 (List.findSome?_eq_none_iff.1 hl r hr)).1

end Interpreter

end DeltaBridge
