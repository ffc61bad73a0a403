import DeltaBridge.Proofs.Extraction
import DeltaBridge.Proofs.Json.Parsing

/-!
# Payloads that are readable

For a selector that is a path, a payload is readable exactly if it is a JSON text, or the bytes of
one. None of the numbers that JSON has no notation for stands in it, also where the selector does
not reach. What is nested too deeply is left out, and so are integers that are too long.

* `ExtractionError.IsUnreadable`, `Unreadable`: the payload is refused;
* `unreadable_iff`: it is refused where it is not read; `exists_read_iff`,
  `not_exists_read_of_constant`: which texts are read;
* `ReadsJson`, **`readsJson_of_parsed`**: texts and bytes.
-/

namespace DeltaBridge

open Json (IsText IsJson Deeper)

/-- The payload is at fault, and neither the selector nor the search. -/
def ExtractionError.IsUnreadable : ExtractionError → Prop
  | badEncoding _ | badDocument _ _ | notText _ => True
  | _ => False

/-- The payload is refused. -/
def Unreadable (payload : Value) (selector : Text) : Prop :=
  ∃ e, (extract payload (some selector)).value = .error e ∧ e.IsUnreadable

/-! ## Texts -/

section Texts

variable {payload : Value} {selector : Text} {p : Path} {t : Text} {x : Json.Tree}

theorem unreadable_document_iff (h : ¬Deeper depthLimit .strict t) :
    (∃ e, readDocument (.text t) = .error e ∧ e.IsUnreadable) ↔
      ¬∃ v, Json.read .strict t = .ok v := by
  cases hread : Json.read .strict t with
  | ok v => simp [readDocument_of_read hread]
  | error e =>
    have hdeep (c : Json.Container) : e ≠ .tooDeep c := fun hc =>
      h (Json.readTo_tooDeep_iff.1 ⟨c, by rw [← hc]; exact hread⟩)
    refine iff_of_true ⟨.badDocument t e, ?_, trivial⟩ (by simp)
    rw [readDocument, hread]
    cases e with
    | tooDeep c => exact absurd rfl (hdeep c)
    | malformed _ | constant _ | longInteger _ => rfl

/-- What is asked of a text is refused where the text is not read. -/
theorem unreadable_iff (asks : Matcher.standard.Asks payload selector p t)
    (h : ¬Deeper depthLimit .strict t) :
    Unreadable payload selector ↔ ¬∃ v, Json.read .strict t = .ok v := by
  rw [← unreadable_document_iff h]
  unfold Unreadable
  unfold extract
  rw [asks.value_extract, Matcher.extractWith, asks.compiled]
  cases readDocument (.text t) with
  | error e => exact Iff.rfl
  | ok document =>
    -- the failures of a search are none of the payload
    refine iff_of_false ?_ (by simp)
    rintro ⟨e, he, hu⟩
    dsimp only at he
    split at he <;> cases he <;> exact hu

/-- The texts that are read are those of JSON. -/
theorem exists_read_iff (h : ¬Deeper depthLimit .strict t) (hs : ∀ x, IsText x t → x.IsShort) :
    (∃ v, Json.read .strict t = .ok v) ↔ IsJson t := by
  constructor
  · rintro ⟨v, hv⟩
    obtain ⟨x, hx, hr, -⟩ := (Json.readTo_eq_ok_iff_of_not_deeper h).1 hv
    exact ⟨x, hx, (Json.areRead_strict_iff.1 hr).2⟩
  · rintro ⟨x, hx, hc⟩
    have hr := Json.areRead_strict_iff.2 ⟨hs x hx, hc⟩
    exact ⟨x.value, (Json.readTo_eq_ok_iff_of_not_deeper h).2 ⟨x, hx, hr, rfl⟩⟩

/-- No text is read in which one of the numbers stands that JSON has no notation for. -/
theorem not_exists_read_of_constant {c : Json.Constant} (hx : IsText x t)
    (hc : x.Has (.constant c)) : ¬∃ v, Json.read .strict t = .ok v := by
  rintro ⟨v, hv⟩
  rcases Json.readTo_of_isText depthLimit .strict hx with ⟨hf, -⟩ | ⟨-, e, he, -⟩
  · exact (Json.areRead_strict_iff.1 hf.read).2 c hc
  · cases he.symm.trans hv

end Texts

/-! ## Texts and bytes -/

/-- The payloads that are refused with the selector are those that are no JSON. -/
structure ReadsJson (selector : Text) : Prop where
  /-- A text is refused exactly if it is none of JSON. -/
  text (t : Text) : ¬Deeper depthLimit .strict t → (∀ x, IsText x t → x.IsShort) →
    (Unreadable (.text t) selector ↔ ¬IsJson t)
  /-- In particular it is refused if one of the numbers without a notation stands in it. -/
  constant (t : Text) (x : Json.Tree) (c : Json.Constant) : ¬Deeper depthLimit .strict t →
    IsText x t → x.Has (.constant c) → Unreadable (.text t) selector
  /-- Bytes are refused that are those of no text. -/
  bytes (b : Bytes) : (∀ t, Utf8.IsEncodable t → Utf8.encode t ≠ b) →
    Unreadable (.bytes b) selector
  /-- Those of a text are treated as the text. -/
  encoded (t : Text) : Utf8.IsEncodable t →
    extract (.bytes (Utf8.encode t)) (some selector) = extract (.text t) (some selector)

/-- **With a selector that is a path, what is refused is exactly what is no JSON.** -/
theorem readsJson_of_parsed {selector : Text} {p : Path} (notBlank : selector.strip ≠ [])
    (parsed : Path.parse selector.strip = .ok p) : ReadsJson selector := by
  have asks (t : Text) : Matcher.standard.Asks (.text t) selector p t := ⟨rfl, notBlank, parsed⟩
  refine ⟨?_, ?_, ?_, ?_⟩
  · intro t deep short
    rw [unreadable_iff (asks t) deep, exists_read_iff deep short]
  · intro t x c deep hx hc
    exact (unreadable_iff (asks t) deep).2 (not_exists_read_of_constant hx hc)
  · intro b hb
    obtain ⟨e, hdecode⟩ := Utf8.exists_decode_eq_error_iff.2 hb
    refine ⟨.badEncoding e, ?_, trivial⟩
    unfold extract
    rw [Matcher.value_extract, decodePayload, hdecode]
  · intro t ht
    have hdecode : decodePayload (.bytes (Utf8.encode t)) = decodePayload (.text t) :=
      (Carries.bytes ht).decode
    unfold extract Matcher.extract
    rw [hdecode]

/-- The member `a` is asked for, in a list with an item missing and in a whole one. -/
theorem readsJson_member : Text.strip "$.a" ≠ [] ∧
    Path.parse (Text.strip "$.a") = .ok (.child .root (.names ["a"])) ∧ ReadsJson "$.a" ∧
    ¬IsJson "[1,]" ∧ IsJson "[1]" := by
  have notBlank : Text.strip "$.a" ≠ [] := by decide +kernel
  have parsed : Path.parse (Text.strip "$.a") = .ok (.child .root (.names ["a"])) := rfl
  have reads : ReadsJson "$.a" := readsJson_of_parsed notBlank parsed
  have hopen : Json.read .strict "[1,]" = .error (.malformed ⟨.noValue, 3⟩) := rfl
  have hclosed : Json.read .strict "[1]" = .ok (.list [.int 1]) := rfl
  have asks (t : Text) : Matcher.standard.Asks (.text t) "$.a" (.child .root (.names ["a"])) t :=
    ⟨rfl, notBlank, parsed⟩
  refine ⟨notBlank, parsed, reads, ?_, ?_⟩
  · have deep : ¬Deeper depthLimit .strict "[1,]" := fun hd => by
      obtain ⟨c, hc⟩ := Json.readTo_tooDeep_iff.2 hd
      cases hopen.symm.trans hc
    rw [← reads.text "[1,]" deep fun x hx => hx.isShort (by decide), unreadable_iff (asks _) deep]
    rintro ⟨v, hv⟩
    cases hopen.symm.trans hv
  · have deep : ¬Deeper depthLimit .strict "[1]" := fun hd => by
      obtain ⟨c, hc⟩ := Json.readTo_tooDeep_iff.2 hd
      cases hclosed.symm.trans hc
    by_contra hn
    rw [← reads.text "[1]" deep fun x hx => hx.isShort (by decide),
      unreadable_iff (asks _) deep] at hn
    exact hn ⟨_, hclosed⟩

end DeltaBridge
