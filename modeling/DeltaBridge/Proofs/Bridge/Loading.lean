import DeltaBridge.Bridge.Program
import DeltaBridge.Proofs.Json.Limits
import DeltaBridge.Proofs.Json.LineEnds
import DeltaBridge.Proofs.Text.Utf8
import DeltaBridge.Proofs.Value.Members

/-!
# Loading definition files

A file that holds a JSON text within the limits of the reader is loaded, with the topics in it. Any
other file is a failure, which ends the program. It is reported as a bad configuration, unless the
bytes of the file are those of no text, or its text is beyond the limits.

* `Json.Tree.topics`: the topics in a JSON text;
* `DefinitionFile.Holds`, `DefinitionFile.Escapes`: files with a text; files whose failures are not
  reported as a bad configuration;
* `readDefinitionFile_eq_ok_iff`, `escapes_iff`: files that are read, and files that escape;
* `Loads`, **`DefinitionFile.loads`**: what comes of each file; `DefinitionFile.byte_escapes`: a file
  that is not reported.
-/

namespace DeltaBridge

open Json (IsText Deeper Longer)

/-! ## Topics -/

namespace Json.Tree

/-- The items of the list that is the whole tree, or that the last member `from` of it is. Without
such a list there are none. -/
def topics : Tree → List Value
  | .leaf _ => []
  | .array xs => valueItems xs
  | .object ms =>
    match Members.get? "from" ms.reverse with
    | some (.array xs) => valueItems xs
    | _ => []

theorem valueMembers_eq_map (ms : List (Text × Tree)) :
    valueMembers ms = ms.map fun m => (m.1, m.2.value) := by
  induction ms with
  | nil => rfl
  | cons m ms ih => rw [valueMembers, ih, List.map_cons]

theorem getD_topicList?_value (x : Tree) : (topicList? x.value).getD [] = x.topics := by
  cases x with
  | leaf l =>
    cases l with
    | number l => cases l <;> rfl
    | null | bool _ | constant _ | text _ => rfl
  | array xs => rfl
  | object ms =>
    have hget : Members.get? "from" (Members.ofPairs (valueMembers ms)) =
        (Members.get? "from" ms.reverse).map value := by
      rw [Members.get?_ofPairs, valueMembers_eq_map, ← List.map_reverse, Members.get?_map]
    rw [value, topicList?, hget, topics]
    cases Members.get? "from" ms.reverse with
    | none => rfl
    | some x =>
      cases x with
      | array xs => rfl
      | object ms => rfl
      | leaf l =>
        cases l with
        | number l => cases l <;> rfl
        | null | bool _ | constant _ | text _ => rfl

end Json.Tree

/-! ## Files -/

namespace DefinitionFile

/-- The file has the text as its content. -/
def Holds (file : DefinitionFile) (t : Text) : Prop :=
  Utf8.IsEncodable t ∧ file = .content (Utf8.encode t)

/-- The failure of the file is not reported as a bad configuration. -/
inductive Escapes (file : DefinitionFile) : Prop
  /-- The bytes are those of no text. -/
  | encoding {b : Bytes} (content : file = .content b)
    (illegible : ∀ t, Utf8.IsEncodable t → Utf8.encode t ≠ b)
  /-- The text is deeper than texts are read. -/
  | deep {t : Text} (holds : file.Holds t) (deeper : Deeper depthLimit .lenient (joinLineEnds t))
  /-- The text comes to an integer that is longer than integers are read. -/
  | long {t : Text} (holds : file.Holds t) (longer : Longer .lenient (joinLineEnds t))

end DefinitionFile

/-- The failure of a file whose text is not read. -/
def DefinitionError.ofJson (path content : Text) : Json.Error → DefinitionError
  | .longInteger n => .longInteger n
  | .tooDeep c => .tooDeep c
  | e => .badDocument path content e

theorem DefinitionError.isContained_ofJson {path content : Text} {e : Json.Error} :
    (ofJson path content e).isContained = false ↔ e.IsLimit := by
  cases e with
  | longInteger _ | tooDeep _ => exact iff_of_true rfl trivial
  | malformed _ | constant _ => exact iff_of_false (by simp [ofJson, isContained]) id

section Files

variable {path t : Text} {file : DefinitionFile} {v : Value}

theorem holds_of_decode {b : Bytes} (h : Utf8.decode b = .ok t) :
    (DefinitionFile.content b).Holds t := by
  obtain ⟨ht, rfl⟩ := Utf8.decode_eq_ok_iff.1 h
  exact ⟨ht, rfl⟩

theorem DefinitionFile.Holds.read (h : file.Holds t) : readDefinitionFile path file =
    (Json.read .lenient (joinLineEnds t)).mapError (.ofJson path (joinLineEnds t)) := by
  obtain ⟨ht, rfl⟩ := h
  rw [readDefinitionFile, Utf8.decode_encode ht]
  dsimp only
  cases Json.read .lenient (joinLineEnds t) with
  | ok v => rfl
  | error e => cases e <;> rfl

/-- What is read of a file is read of its text. -/
theorem readDefinitionFile_eq_ok_iff : readDefinitionFile path file = .ok v ↔
    ∃ t, file.Holds t ∧ Json.read .lenient (joinLineEnds t) = .ok v := by
  constructor
  · intro h
    obtain ⟨t, ht⟩ : ∃ t, file.Holds t := by
      cases file with
      | missing | directory => cases h
      | content b =>
        cases hb : Utf8.decode b with
        | ok t => exact ⟨t, holds_of_decode hb⟩
        | error e =>
          rw [readDefinitionFile, hb] at h
          cases h
    refine ⟨t, ht, ?_⟩
    rw [ht.read] at h
    cases hread : Json.read .lenient (joinLineEnds t) with
    | ok w =>
      rw [hread] at h
      cases h
      rfl
    | error e =>
      rw [hread] at h
      cases h
  · rintro ⟨t, ht, hv⟩
    rw [ht.read, hv]
    rfl

/-- A file with a text escapes where a limit is reported. -/
theorem DefinitionFile.Holds.escapes_iff (ht : file.Holds t) (path : Text) :
    (∃ e, readDefinitionFile path file = .error e ∧ e.isContained = false) ↔
      Deeper depthLimit .lenient (joinLineEnds t) ∨ Longer .lenient (joinLineEnds t) := by
  rw [← Json.isLimit_readTo_iff, ht.read, Json.read]
  cases Json.readTo depthLimit .lenient (joinLineEnds t) with
  | ok v => simp [Except.mapError]
  | error e => simp [Except.mapError, DefinitionError.isContained_ofJson]

/-- The failures that are not reported are those of the encoding, and the limits of the reader. -/
theorem escapes_iff (path : Text) :
    (∃ e, readDefinitionFile path file = .error e ∧ e.isContained = false) ↔ file.Escapes := by
  constructor
  · rintro ⟨e, h, he⟩
    cases file with
    | missing | directory =>
      cases h
      cases he
    | content b =>
      cases hb : Utf8.decode b with
      | error e' => exact .encoding rfl (Utf8.exists_decode_eq_error_iff.1 ⟨e', hb⟩)
      | ok t =>
        have ht := holds_of_decode hb
        exact ((ht.escapes_iff path).1 ⟨e, h, he⟩).elim (.deep ht) (.long ht)
  · rintro (⟨rfl, illegible⟩ | ⟨ht, deeper⟩ | ⟨ht, longer⟩)
    · obtain ⟨e, he⟩ := Utf8.exists_decode_eq_error_iff.2 illegible
      exact ⟨.badEncoding e, by rw [readDefinitionFile, he], rfl⟩
    · exact (ht.escapes_iff path).2 (.inl deeper)
    · exact (ht.escapes_iff path).2 (.inr longer)

end Files

/-! ## Loading -/

section Loading

variable {path : Text} {file : DefinitionFile} {e : DefinitionError} {ts : List Value}

theorem value_loadDefinitions (path : Text) (file : DefinitionFile) :
    (loadDefinitions path file).value =
      (readDefinitionFile path file).map fun v => (topicList? v).getD [] := by
  unfold loadDefinitions
  cases readDefinitionFile path file with
  | error e => rfl
  | ok v =>
    show _ = Except.ok ((topicList? v).getD [])
    dsimp only
    cases topicList? v <;> rfl

theorem loadDefinitions_eq_error_iff : (loadDefinitions path file).value = .error e ↔
    readDefinitionFile path file = .error e := by
  rw [value_loadDefinitions]
  cases readDefinitionFile path file <;> simp [Except.map]

theorem loadDefinitions_eq_ok_iff : (loadDefinitions path file).value = .ok ts ↔
    ∃ t x, file.Holds t ∧ IsText x t ∧ x.Fits depthLimit .lenient ∧ x.topics = ts := by
  rw [value_loadDefinitions]
  constructor
  · intro h
    cases hv : readDefinitionFile path file with
    | error e =>
      rw [hv] at h
      cases h
    | ok v =>
      rw [hv] at h
      obtain ⟨t, ht, hread⟩ := readDefinitionFile_eq_ok_iff.1 hv
      obtain ⟨x, hx, hf, rfl⟩ := Json.readTo_eq_ok_iff.1 hread
      refine ⟨t, x, ht, Json.isText_joinLineEnds_iff.1 hx, hf, ?_⟩
      rw [← x.getD_topicList?_value]
      exact Except.ok.inj h
  · rintro ⟨t, x, ht, hx, hf, rfl⟩
    have hread : readDefinitionFile path file = .ok x.value :=
      readDefinitionFile_eq_ok_iff.2 ⟨t, ht, Json.readTo_eq_ok_iff.2
        ⟨x, Json.isText_joinLineEnds_iff.2 hx, hf, rfl⟩⟩
    rw [hread, ← x.getD_topicList?_value]
    rfl

theorem Program.ending_of_error (settings : Settings) (time : Text) (n : Network)
    (told : List (List Callback))
    (h : (loadDefinitions settings.definitionsPath file).value = .error e) :
    (run settings file time n told).1 =
      if e.isContained then .farewell ("configuration error: " ++ e.message)
      else .badSetup (.definitions e) := by
  have hbuild : (Bridge.build settings file time).value = .error (.definitions e) := by
    rw [Bridge.build, Logged.value_bind, h]
    rfl
  rw [run, hbuild]
  rfl

end Loading

/-- What comes of the definition file at a path. -/
structure Loads (path : Text) (file : DefinitionFile) : Prop where
  /-- The files that are loaded hold a JSON text within the limits, and its topics are loaded. -/
  loaded (ts : List Value) : (loadDefinitions path file).value = .ok ts ↔
    ∃ t x, file.Holds t ∧ IsText x t ∧ x.Fits depthLimit .lenient ∧ x.topics = ts
  /-- A JSON text beyond the limits escapes. -/
  beyond (t : Text) (x : Json.Tree) : file.Holds t → IsText x t →
    ¬x.Fits depthLimit .lenient → file.Escapes
  /-- The failures of files that escape are not contained. Those of all other files are. -/
  escapes : (∃ e, (loadDefinitions path file).value = .error e ∧ e.isContained = false) ↔
    file.Escapes
  /-- A failure ends the program, with a text for the user if it is contained. -/
  ending (settings : Settings) (time : Text) (n : Network) (told : List (List Callback))
    (e : DefinitionError) : settings.definitionsPath = path →
    (loadDefinitions path file).value = .error e →
    (Program.run settings file time n told).1 =
      if e.isContained then .farewell ("configuration error: " ++ e.message)
      else .badSetup (.definitions e)

/-- **Each file is loaded as its JSON text says, or its failure ends the program.** The failure is
reported as a bad configuration, unless the file escapes. -/
theorem DefinitionFile.loads (path : Text) (file : DefinitionFile) : Loads path file := by
  refine ⟨fun ts => loadDefinitions_eq_ok_iff, ?_, ?_, ?_⟩
  · intro t x ht hx hf
    rw [← Json.isText_joinLineEnds_iff] at hx
    exact ((Json.deeper_or_longer_iff_of_isText hx).2 hf).elim (.deep ht) (.long ht)
  · rw [← escapes_iff path]
    simp only [loadDefinitions_eq_error_iff]
  · rintro settings time n told e rfl h
    exact Program.ending_of_error settings time n told h

/-- A byte that starts no character escapes: nothing is loaded, and the failure is not contained. -/
theorem DefinitionFile.byte_escapes : ¬∀ path file,
    (∃ ts, (loadDefinitions path file).value = .ok ts) ∨
      ∃ e, (loadDefinitions path file).value = .error e ∧ e.isContained = true := by
  intro h
  rcases h "sensors.json" (.content [0xFF]) with ⟨ts, hts⟩ | ⟨e, he, hc⟩
  · cases hts
  · cases he
    cases hc

end DeltaBridge
