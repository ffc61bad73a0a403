import DeltaBridge.Proofs.Sensor.Registry
import DeltaBridge.Proofs.Value.Depth
import DeltaBridge.Sensor.Interpretation

/-!
# Sensors do not affect each other

What a message becomes under a configuration is put together from what it becomes under each single
row. All that a row can do to another one is that its record cannot be shown.

* `Interpreter.shown`: records, unless one of them cannot be shown, `shown_append`, `shown_flatMap`;
* `value_interpret`: what a message becomes, by the bindings of its topic;
* `Registry.declaredRows`, `Registry.soleEntry`: the rows for a topic, and an entry with one row;
* `Interpreter.translated`: what a message becomes under a configuration;
* **`Interpreter.isolated`**: how it is put together.
-/

namespace DeltaBridge

open Registry

namespace Interpreter

/-! ## Records of bindings -/

/-- The records, unless one of them cannot be shown. -/
def shown (rs : List Record) : Except ShowError (List Record) :=
  match rs.findSome? Record.showError? with
  | some e => .error e
  | none => .ok rs

theorem shown_append (rs rs' : List Record) :
    shown (rs ++ rs') = (do
      let xs ← shown rs
      let ys ← shown rs'
      return xs ++ ys) := by
  unfold shown
  rw [List.findSome?_append]
  cases rs.findSome? Record.showError? <;> cases rs'.findSome? Record.showError? <;> rfl

/-- Records of several things can be shown if those of each can. -/
theorem shown_flatMap {α : Type} {f : α → List Record} {g : α → Except ShowError (List Record)}
    {xs : List α}
    (h : ∀ x ∈ xs, g x = shown (f x)) :
    shown (xs.flatMap f) = (xs.mapM g).map List.flatten := by
  induction xs with
  | nil => rfl
  | cons x xs ih =>
    rw [List.forall_mem_cons] at h
    rw [List.flatMap_cons, shown_append, ih h.2, List.mapM_cons, h.1]
    cases shown (f x) with
    | error e => rfl
    | ok rs => cases xs.mapM g <;> rfl

theorem shown_eq_error_iff {rs : List Record} {e : ShowError} :
    shown rs = .error e ↔ rs.findSome? Record.showError? = some e := by
  unfold shown
  cases rs.findSome? Record.showError? <;> simp

theorem exists_showError?_iff {r : Record} :
    (∃ e, r.showError? = some e) ↔ r.value.hasLong = true ∨ depthLimit < r.value.depth + 2 := by
  rw [← Option.isSome_iff_exists, ← Option.ne_none_iff_isSome, Ne, Record.showError?,
    Value.showError?_eq_none_iff, depthLimit]
  cases r.value.hasLong <;> simp; omega

theorem exists_shown_eq_error_iff {rs : List Record} :
    (∃ e, shown rs = .error e) ↔
      ∃ r ∈ rs, r.value.hasLong = true ∨ depthLimit < r.value.depth + 2 := by
  simp only [shown_eq_error_iff, ← exists_showError?_iff, ← Option.isSome_iff_exists,
    List.findSome?_isSome_iff]

variable (c c' : Converter) (payload : Value)

theorem value_recordsOf (bs : List Binding) :
    (recordsOf c payload bs).value = bs.filterMap fun b => (recordOf c payload b).value := by
  induction bs with
  | nil => rfl
  | cons b bs ih =>
    rw [recordsOf, Logged.value_bind, Logged.value_bind, ih, List.filterMap_cons]
    cases (recordOf c payload b).value <;> rfl

/-- A message becomes the records of the bindings of its topic. -/
theorem value_interpret (i : Interpreter) (topic : Text) :
    (i.interpret topic payload).value =
      shown ((i.registry.bindingsFor topic).filterMap fun b =>
        (recordOf i.converter payload b).value) := by
  rw [← value_recordsOf]
  unfold interpret
  cases i.registry.bindingsFor topic with
  | nil => rfl
  | cons b bs =>
    simp only [Logged.value_bind, shown]
    cases (recordsOf i.converter payload (b :: bs)).value.findSome? Record.showError? <;> rfl

end Interpreter

/-! ## Rows -/

namespace Registry

/-- The well-formed rows of all entries for a topic, in their order. -/
def declaredRows (entries : List Value) (topic : Text) : List Value :=
  (entries.filter fun e => topicOf? e = some topic).flatMap fun e =>
    (rowsOf e).filter fun row => (bindingOf? row).isSome

/-- An entry with one row. -/
def soleEntry (topic : Text) (row : Value) : Value :=
  .object [("mqtt_topic", .text topic), ("sensors", .list [row])]

theorem filterMap_declaredRows (entries : List Value) (topic : Text) :
    (declaredRows entries topic).filterMap bindingOf? = declaredBindings entries topic := by
  rw [declaredRows, List.filterMap_flatMap, declaredBindings]
  congr 1
  funext e
  rw [List.filterMap_filter]
  congr 1
  funext row
  cases bindingOf? row <;> rfl

theorem declaredBindings_append (es es' : List Value) (topic : Text) :
    declaredBindings (es ++ es') topic =
      declaredBindings es topic ++ declaredBindings es' topic := by
  rw [declaredBindings, List.filter_append, List.flatMap_append]
  rfl

theorem declaredBindings_of_ne {entry : Value} {topic : Text} (h : topicOf? entry ≠ some topic) :
    declaredBindings [entry] topic = [] := by
  rw [declaredBindings, List.filter_cons_of_neg (by simpa using h)]
  rfl

theorem topicOf?_soleEntry {entries : List Value} {topic : Text} {row : Value}
    (h : row ∈ declaredRows entries topic) : topicOf? (soleEntry topic row) = some topic := by
  obtain ⟨e, he, _⟩ := List.mem_flatMap.1 h
  obtain ⟨hne, htrim⟩ := trimmed_topicOf? (of_decide_eq_true (List.mem_filter.1 he).2)
  have ht : topicOf? (soleEntry topic row) =
      if (Value.text topic).fieldText.strip = [] then none
      else some (Value.text topic).fieldText.strip := rfl
  rw [ht, strip_fieldText_text htrim, if_neg hne]

theorem declaredBindings_soleEntry {entries : List Value} {topic : Text} {row : Value}
    (h : row ∈ declaredRows entries topic) :
    declaredBindings [soleEntry topic row] topic = [row].filterMap bindingOf? := by
  rw [declaredBindings, List.filter_cons_of_pos (by simpa using topicOf?_soleEntry h)]
  exact List.append_nil _

end Registry

/-! ## Configurations -/

namespace Interpreter

/-- What a message becomes under a configuration with the given entries. The registry announces the
units of one converter, and readings are converted by the other. -/
def translated (c c' : Converter) (entries : List Value) (topic : Text) (payload : Value) :
    Except ShowError (List Record) :=
  (interpret ⟨(ofConfig (.list entries) c).value, c'⟩ topic payload).value

variable (c c' : Converter) (entries : List Value) (topic : Text) (payload : Value)

theorem translated_eq :
    translated c c' entries topic payload =
      shown ((declaredBindings entries topic).filterMap fun b =>
        (recordOf c' payload b).value) := by
  rw [translated, value_interpret, bindingsFor_ofConfig]
  rfl

theorem translated_append (es es' : List Value) :
    translated c c' (es ++ es') topic payload = (do
      let rs ← translated c c' es topic payload
      let rs' ← translated c c' es' topic payload
      return rs ++ rs') := by
  simp only [translated_eq, declaredBindings_append, List.filterMap_append, shown_append]

theorem translated_rows :
    translated c c' entries topic payload =
      ((declaredRows entries topic).mapM fun row =>
        translated c c' [soleEntry topic row] topic payload).map List.flatten := by
  have hrow : ∀ row ∈ declaredRows entries topic,
      translated c c' [soleEntry topic row] topic payload =
        shown (([row].filterMap bindingOf?).filterMap fun b =>
          (recordOf c' payload b).value) := fun row h => by
    rw [translated_eq, declaredBindings_soleEntry h]
  rw [← shown_flatMap hrow, translated_eq, ← filterMap_declaredRows, ← List.filterMap_flatMap,
    ← List.filterMap_flatMap, List.flatMap_singleton']

/-- **What a message becomes is put together from its rows.** Under any configuration, and with any
converters, it is what the rows for its topic give one by one, in the order of their declaration; of
two configurations one after the other it is what they give one after the other; and an entry for
another topic does not matter. It fails only if a record cannot be shown, since it has an integer
too long to be written out or is nested too deep. -/
theorem isolated :
    translated c c' entries topic payload =
        ((declaredRows entries topic).mapM fun row =>
          translated c c' [soleEntry topic row] topic payload).map List.flatten ∧
      (∀ es es', translated c c' (es ++ es') topic payload = (do
        let rs ← translated c c' es topic payload
        let rs' ← translated c c' es' topic payload
        return rs ++ rs')) ∧
      (∀ before entry after, topicOf? entry ≠ some topic →
        translated c c' (before ++ entry :: after) topic payload =
          translated c c' (before ++ after) topic payload) ∧
      ((∃ e, translated c c' entries topic payload = .error e) ↔
        ∃ b ∈ declaredBindings entries topic, ∃ r, (recordOf c' payload b).value = some r ∧
          (r.value.hasLong = true ∨ depthLimit < r.value.depth + 2)) := by
  refine ⟨translated_rows c c' entries topic payload, translated_append c c' topic payload, ?_, ?_⟩
  · intro before entry after h
    rw [translated_eq, translated_eq, ← List.singleton_append, declaredBindings_append,
      declaredBindings_append, declaredBindings_of_ne h, List.nil_append, ← declaredBindings_append]
  · rw [translated_eq, exists_shown_eq_error_iff]
    simp only [List.mem_filterMap]
    constructor
    · rintro ⟨r, ⟨b, hb, hr⟩, hl⟩
      exact ⟨b, hb, r, hr, hl⟩
    · rintro ⟨b, hb, r, hr, hl⟩
      exact ⟨r, ⟨b, hb, hr⟩, hl⟩

end Interpreter

end DeltaBridge
