import DeltaBridge.Extraction
import DeltaBridge.Proofs.Json.Depth
import DeltaBridge.Proofs.Path.Lawful
import DeltaBridge.Proofs.Text.Utf8

/-!
# Extractions that fail

A payload that gives no value is one of three failures that concern one sensor only, with two
exceptions: a text that is nested too deeply, and a search that stops. These escape, and nothing
else does, whatever the matcher is.

* `Carries`: payloads with a text; `Matcher.Asks`: an expression is to be searched in a text;
* `Matcher.Escapes`: the failures that are not contained, with `not_escapes_of_answers`;
* `isContained_or_deeper`, `selected_eq_error_iff`: where they come from; `isContained_or_escapes`,
  `exists_of_escapes`: that they are all, and that each shows;
* **`Matcher.extract_contained_or_escapes`**: every failure is contained or escapes so, and wherever
  one can escape one does;
* `exists_escapes_iff`, `isContained_of_isTame`: with the standard matcher; `parent_of_root_escapes`:
  the parent of the root is asked for.
-/

namespace DeltaBridge

/-- The payload is the text, or the bytes of the text. -/
inductive Carries (t : Text) : Value → Prop
  | text : Carries t (.text t)
  | bytes (h : Utf8.IsEncodable t) : Carries t (.bytes (Utf8.encode t))

namespace Matcher

variable (M : Matcher)

/-- The payload is read as the text `t`, and the selector as the expression `x`. -/
structure Asks (payload : Value) (selector : Text) (x : M.Expression) (t : Text) : Prop where
  decoded : decodePayload payload = .ok (.text t)
  notBlank : selector.strip ≠ []
  compiled : M.compile selector.strip = .ok x

/-- A failure that is not contained. -/
inductive Escapes (payload : Value) (selector : Text) : ExtractionError → Prop
  /-- The text goes deeper than texts are read. -/
  | tooDeep {x : M.Expression} {t : Text} (asks : M.Asks payload selector x t)
    (deep : Json.Deeper depthLimit .strict t) (c : Json.Container) :
    Escapes payload selector (.tooDeep c)
  /-- The search for the nodes of the expression stops. -/
  | stopped {x : M.Expression} {t : Text} {document : Value} {e : SearchError}
    (asks : M.Asks payload selector x t) (read : Json.read .strict t = .ok document)
    (stops : M.find x (.fresh document) = .error e) : Escapes payload selector (.searchFailed e)

end Matcher

/-! ## The parts of an extraction -/

section Parts

variable {M : Matcher} {payload : Value} {selector : Text} {x : M.Expression} {t : Text}

theorem Carries.decode (h : Carries t payload) : decodePayload payload = .ok (.text t) := by
  cases h with
  | text => rfl
  | bytes h =>
    unfold decodePayload
    simp only [Utf8.decode_encode h]

namespace Matcher

theorem value_extract : (M.extract payload (some selector)).value =
    match decodePayload payload with
    | .error e => .error e
    | .ok v => if selector.strip.isEmpty then .ok v else M.extractWith v selector := by
  unfold extract
  cases decodePayload payload with
  | error e => rfl
  | ok v =>
    simp only
    split
    · rfl
    · cases M.extractWith v selector <;> rfl

theorem Asks.value_extract (asks : M.Asks payload selector x t) :
    (M.extract payload (some selector)).value = M.extractWith (.text t) selector := by
  rw [Matcher.value_extract, asks.decoded]
  exact if_neg (by simpa using asks.notBlank)

theorem Asks.unique {x' : M.Expression} {t' : Text} (asks : M.Asks payload selector x t)
    (asks' : M.Asks payload selector x' t') : x = x' ∧ t = t' :=
  ⟨Except.ok.inj (asks.compiled.symm.trans asks'.compiled),
    Value.text.inj (Except.ok.inj (asks.decoded.symm.trans asks'.decoded))⟩

end Matcher

theorem isContained_of_decodePayload {e : ExtractionError} (h : decodePayload payload = .error e) :
    e.isContained = true := by
  unfold decodePayload at h
  split at h
  · split at h
    · cases h
    · cases h
      rfl
  · cases h

theorem eq_text_of_readDocument {document : Value} (h : readDocument payload = .ok document) :
    ∃ t, payload = .text t ∧ Json.read .strict t = .ok document := by
  unfold readDocument at h
  split at h
  · rename_i t
    split at h
    · rename_i hv
      cases h
      exact ⟨t, rfl, hv⟩
    · cases h
    · cases h
  · cases h

theorem readDocument_of_read {document : Value} (h : Json.read .strict t = .ok document) :
    readDocument (.text t) = .ok document := by
  rw [readDocument, h]

/-- What holds no document is contained, or it is a text that is too deep. -/
theorem isContained_or_deeper {e : ExtractionError} (h : readDocument payload = .error e) :
    e.isContained = true ∨
      ∃ t c, payload = .text t ∧ e = .tooDeep c ∧ Json.Deeper depthLimit .strict t := by
  unfold readDocument at h
  split at h
  · rename_i t
    split at h
    · cases h
    · rename_i c hc
      cases h
      exact .inr ⟨t, c, rfl, rfl, Json.readTo_tooDeep_iff.1 ⟨c, hc⟩⟩
    · cases h
      exact .inl rfl
  · cases h
    exact .inl rfl

theorem readDocument_of_deeper (h : Json.Deeper depthLimit .strict t) :
    ∃ c, readDocument (.text t) = .error (.tooDeep c) := by
  obtain ⟨c, hc⟩ := Json.readTo_tooDeep_iff.2 h
  exact ⟨c, by rw [readDocument, Json.read, hc]⟩

theorem Matcher.selected_eq_error_iff {document : Value} {e : SearchError} :
    M.selected x document = .error e ↔ M.find x (.fresh document) = .error e := by
  unfold selected
  cases M.find x (.fresh document) <;> simp

end Parts

/-! ## Whole extractions -/

namespace Matcher

section Extractions

variable {M : Matcher} {payload : Value} {selector : Text} {e : ExtractionError}

theorem isContained_or_escapes (h : (M.extract payload (some selector)).value = .error e) :
    e.isContained = true ∨ M.Escapes payload selector e := by
  rw [value_extract] at h
  cases hv : decodePayload payload with
  | error e' =>
    rw [hv] at h
    cases h
    exact .inl (isContained_of_decodePayload hv)
  | ok v =>
  rw [hv] at h
  simp only at h
  split at h
  · cases h
  rename_i hb
  have notBlank : selector.strip ≠ [] := by simpa using hb
  unfold extractWith at h
  split at h
  · cases h
    exact .inl rfl
  rename_i x hx
  split at h
  · rename_i e' he
    cases h
    refine (isContained_or_deeper he).imp_right ?_
    rintro ⟨t, c, rfl, rfl, hd⟩
    exact .tooDeep ⟨hv, notBlank, hx⟩ hd c
  rename_i document hd
  obtain ⟨t, rfl, ht⟩ := eq_text_of_readDocument hd
  split at h
  · rename_i e' he
    cases h
    exact .inr (.stopped ⟨hv, notBlank, hx⟩ ht (selected_eq_error_iff.1 he))
  · cases h
    exact .inl rfl
  · cases h

theorem exists_of_escapes (h : M.Escapes payload selector e) :
    ∃ e', (M.extract payload (some selector)).value = .error e' ∧ e'.isContained = false := by
  cases h with
  | tooDeep asks deep c =>
    obtain ⟨c', hc⟩ := readDocument_of_deeper deep
    exact ⟨.tooDeep c', by rw [asks.value_extract, extractWith, asks.compiled]; simp only [hc], rfl⟩
  | @stopped x t document e asks read stops =>
    refine ⟨.searchFailed e, ?_, rfl⟩
    rw [asks.value_extract, extractWith, asks.compiled]
    simp only [readDocument_of_read read, selected_eq_error_iff.2 stops]

/-- From a text that is not too deep nothing escapes if the search has an answer in its document. -/
theorem not_escapes_of_answers {x : M.Expression} {t : Text} (asks : M.Asks payload selector x t)
    (shallow : ¬ Json.Deeper depthLimit .strict t)
    (answers : ∀ d, Json.read .strict t = .ok d → ∃ ns, M.find x (.fresh d) = .ok ns) :
    ¬ M.Escapes payload selector e := by
  intro h
  cases h with
  | tooDeep asks' deep c =>
    obtain ⟨-, rfl⟩ := asks.unique asks'
    exact shallow deep
  | stopped asks' read stops =>
    obtain ⟨rfl, rfl⟩ := asks.unique asks'
    obtain ⟨ns, hns⟩ := answers _ read
    cases stops.symm.trans hns

end Extractions

/-- **Every failure to extract a value is contained or escapes, and where one can escape one does**:
with any matcher. From a text that is not too deep none escapes for a path that is made of steps to
members and elements, and of other parts that never stop a search, as long as the matcher has room
for the levels of the path and of the document. -/
theorem extract_contained_or_escapes (M : Matcher) (payload : Value) (selector : Text) :
    (∀ e, (M.extract payload (some selector)).value = .error e →
      e.isContained = true ∨ M.Escapes payload selector e) ∧
    ((∃ e, M.Escapes payload selector e) →
      ∃ e, (M.extract payload (some selector)).value = .error e ∧ e.isContained = false) ∧
    (∀ room, M.LawfulSearch room → ∀ p t, M.Asks payload selector (M.build p) t → M.Quiet p →
      ¬ Json.Deeper depthLimit .strict t →
      (∀ d, Json.read .strict t = .ok d → p.height d.depth ≤ room) →
      ∀ e, ¬ M.Escapes payload selector e) := by
  refine ⟨fun e => isContained_or_escapes, ?_, ?_⟩
  · rintro ⟨e, he⟩
    exact exists_of_escapes he
  · intro room lawful p t asks quiet shallow hroom e
    exact not_escapes_of_answers asks shallow fun d hd => quiet.answers lawful _ (hroom d hd)

/-- An object with a number. -/
def numberPayload : Text := "\x7b\"a\": 5\x7d"

/-- The first element of the number is asked for, and nothing escapes. -/
theorem index_into_number_contained :
    standard.Asks (.text numberPayload) "$.a[0]"
      (.child (.child .root (.names ["a"])) (.positions [0])) numberPayload ∧
    standard.LawfulSearch 3 ∧ ¬ Json.Deeper depthLimit .strict numberPayload ∧
    (∀ e, ¬ standard.Escapes (.text numberPayload) "$.a[0]" e) ∧
    (standard.extract (.text numberPayload) (some "$.a[0]")).value = .error (.noMatch "$.a[0]") := by
  have asks : standard.Asks (.text numberPayload) "$.a[0]"
      (.child (.child .root (.names ["a"])) (.positions [0])) numberPayload :=
    ⟨rfl, by decide +kernel, rfl⟩
  have quiet : standard.Quiet (.child (.child .root (.names ["a"])) (.positions [0])) :=
    .child (.child .root (.step rfl)) (.step rfl)
  have shallow : ¬ Json.Deeper depthLimit .strict numberPayload := fun deep => by
    obtain ⟨c, hc⟩ := Json.readTo_tooDeep_iff.2 deep
    cases hc
  have lawful := lawfulSearch_standard 3
  have hcontained := (extract_contained_or_escapes standard _ _).2.2 3 lawful _ _ asks quiet shallow
    fun _ _ => Nat.le_refl 3
  exact ⟨asks, lawful, shallow, hcontained, rfl⟩

end Matcher

/-! ## The standard matcher -/

/-- The standard matcher stops exactly where its search comes to a parent of the root, to an
intersection, or to an integer beyond the doubles that meets a double. -/
theorem exists_escapes_iff {payload : Value} {selector : Text} {p : Path} {t : Text}
    (asks : Matcher.standard.Asks payload selector p t) :
    (∃ e, Matcher.standard.Escapes payload selector e) ↔
      Json.Deeper depthLimit .strict t ∨ ∃ document x e, Json.read .strict t = .ok document ∧
        Query.Reaches (.path p (.fresh document)) x ∧ Query.Faulty x e := by
  constructor
  · rintro ⟨e, h⟩
    cases h with
    | tooDeep asks' deep c =>
      obtain ⟨-, rfl⟩ := asks.unique asks'
      exact .inl deep
    | @stopped _ _ document e asks' read stops =>
      obtain ⟨rfl, rfl⟩ := asks.unique asks'
      obtain ⟨x, hr, hf⟩ := Query.reaches_faulty (x := .path p (.fresh document)) stops
      exact .inr ⟨document, x, e, read, hr, hf⟩
  · rintro (deep | ⟨document, x, e, read, hr, hf⟩)
    · exact ⟨_, .tooDeep asks deep .array⟩
    · obtain ⟨e', he⟩ := Query.fails_of_reaches hr hf
      exact ⟨_, .stopped asks read he⟩

/-- Without steps to parents, intersections and arithmetic nothing escapes from a text that is not
too deep. -/
theorem isContained_of_isTame {payload : Value} {selector : Text} {p : Path} {t : Text}
    (asks : Matcher.standard.Asks payload selector p t) (tame : p.isTame = true)
    (shallow : ¬ Json.Deeper depthLimit .strict t) {e : ExtractionError}
    (h : (extract payload (some selector)).value = .error e) : e.isContained = true := by
  exact (Matcher.isContained_or_escapes h).resolve_right
    (Matcher.not_escapes_of_answers asks shallow fun _ _ => Matcher.answers_standard tame _)

/-- The parent of the root is asked for. -/
theorem parent_of_root_escapes : (extract (.text "{}") (some "$.`parent`")).value =
    .error (.searchFailed .noParent) := by
  -- failures can be compared, values cannot
  have h : (match (extract (.text "{}") (some "$.`parent`")).value with
      | .error e => decide (e = .searchFailed .noParent)
      | .ok _ => false) = true := by decide +kernel
  split at h
  · rename_i e he
    rw [he, of_decide_eq_true h]
  · cases h

end DeltaBridge
