import DeltaBridge.Broker.TopicSet
import DeltaBridge.Proofs.Json.Reading
import DeltaBridge.Sensor.Registry

/-!
# The registry of a configuration

A registry has exactly what is well formed in its configuration: the topics in the order in which
they first occur, and under each topic the bindings of all its rows.

* `Binding.Settled`: a binding of which nothing is left to be trimmed;
* `topicOf?`, `bindingOf?`, `declaredTopics`, `declaredBindings`: what a configuration declares;
* `read?`, `value_readRows`, `value_readEntries`: what is read of its parts;
* `keys_foldl_extend`, `getD_foldl_extend`: how the topics are merged;
* `Registry.Reflects`, **`Registry.reflects_ofConfig`**: the registry of a configuration;
  `mergedConfig`: one with two entries for a topic.
-/

namespace DeltaBridge

/-! ## Fields -/

theorem strip_fieldText_text {t : Text} (h : t.Trimmed) : (Value.text t).fieldText.strip = t := by
  rw [Value.fieldText_text, Text.strip_eq_self h]

namespace Binding

/-- No text of the binding is left to be trimmed, and none is empty that stands for something. -/
structure Settled (b : Binding) : Prop where
  destination : b.destination ≠ [] ∧ b.destination.Trimmed
  unit : b.unit.Trimmed
  selector : ∀ t ∈ b.selector, t ≠ [] ∧ t.Trimmed

theorem trimmed_of_mem_selectorOf {v : Value} {t : Text} (h : t ∈ selectorOf v) :
    t ≠ [] ∧ t.Trimmed := by
  unfold selectorOf at h
  split at h
  · cases h
  · split at h
    · cases h
    · rename_i hne
      cases h
      exact ⟨by simpa using hne, Text.trimmed_strip _⟩

end Binding

namespace Registry

/-! ## What a configuration declares -/

/-- The binding of a row; none if the row is no object with a destination. -/
def bindingOf? : Value → Option Binding
  | .object row =>
    let destination := (Binding.field row "destination").fieldText.strip
    if destination = [] then none
    else some
      { destination
        kind := (Kind.read (Binding.field row "sensor")).value
        unit := (Binding.field row "unit").fieldText.strip
        selector := Binding.selectorOf (Binding.field row "json_path") }
  | _ => none

/-- The topic of an entry; none if the entry is no object with a topic and a list of sensors. -/
def topicOf? : Value → Option Text
  | .object ms =>
    let topic := (Binding.field ms "mqtt_topic").fieldText.strip
    match Binding.field ms "sensors" with
    | .list _ => if topic = [] then none else some topic
    | _ => none
  | _ => none

/-- The sensor rows of an entry. -/
def rowsOf : Value → List Value
  | .object ms =>
    match Binding.field ms "sensors" with
    | .list rows => rows
    | _ => []
  | _ => []

/-- The entries of a configuration. -/
def entriesOf : Value → List Value
  | .list entries => entries
  | _ => []

/-- The topics of the well-formed entries, in their order. -/
def declaredTopics (entries : List Value) : List Text := entries.filterMap topicOf?

/-- The bindings that the well-formed rows of all entries for a topic declare, in their order. -/
def declaredBindings (entries : List Value) (topic : Text) : List Binding :=
  (entries.filter fun e => topicOf? e = some topic).flatMap fun e => (rowsOf e).filterMap bindingOf?

/-! ## Reading the parts -/

theorem value_ofRow (row : List (Text × Value)) :
    (Binding.ofRow row).value =
      match bindingOf? (.object row) with
      | some b => .ok b
      | none => .error .noDestination := by
  unfold Binding.ofRow bindingOf?
  by_cases h : (Binding.field row "destination").fieldText.strip = []
  · simp [h]
  · simp [h]

theorem value_readRows (topic : Text) (i : Nat) (rows : List Value) :
    (readRows topic i rows).value = rows.filterMap bindingOf? := by
  induction rows generalizing i with
  | nil => rfl
  | cons row rows ih =>
    cases row with
    | object ms =>
      rw [readRows]
      simp only [Logged.value_bind]
      rw [value_ofRow]
      cases h : bindingOf? (.object ms) with
      | some b => simp [ih, h]
      | none => simp [ih, h]
    | null | bool _ | int _ | float _ | text _ | bytes _ | list _ =>
      rw [readRows]
      · simp only [Logged.value_bind, ih]
        rfl
      · simp

/-- What is read of an entry: its topic with the bindings of its rows. -/
def read? (entry : Value) : Option TopicBinding :=
  (topicOf? entry).bind fun t => TopicBinding.make? t ((rowsOf entry).filterMap bindingOf?)

theorem value_readEntry (i : Nat) (entry : Value) : (readEntry i entry).value = read? entry := by
  cases entry with
  | object ms =>
    unfold readEntry read? topicOf? rowsOf
    dsimp only
    by_cases ht : (Binding.field ms "mqtt_topic").fieldText.strip = []
    · rw [dif_neg (by simpa using ht)]
      cases Binding.field ms "sensors" <;> simp [ht]
    · rw [dif_pos ht]
      cases Binding.field ms "sensors" with
      | list rows => simp [ht, TopicBinding.make?, value_readRows]
      | null | bool _ | int _ | float _ | text _ | bytes _ | object _ => simp
  | null | bool _ | int _ | float _ | text _ | bytes _ | list _ => rfl

theorem value_readEntries (i : Nat) (entries : List Value) :
    (readEntries i entries).value = entries.filterMap read? := by
  induction entries generalizing i with
  | nil => rfl
  | cons e es ih =>
    rw [readEntries, Logged.value_bind, Logged.value_bind, value_readEntry, ih]
    cases h : read? e with
    | none => simp [h]
    | some t => simp [h]

theorem value_ofConfig (config : Value) (c : Converter) :
    (ofConfig config c).value = ofTopics ((entriesOf config).filterMap read?) c := by
  cases config with
  | list entries =>
    rw [ofConfig]
    simp only [Logged.value_bind, value_readEntries]
    rfl
  | null | bool _ | int _ | float _ | text _ | bytes _ | object _ => rfl

theorem converter_ofConfig (config : Value) (c : Converter) :
    (ofConfig config c).value.converter = c := by
  rw [value_ofConfig]
  rfl

theorem trimmed_topicOf? {entry : Value} {t : Text} (h : topicOf? entry = some t) :
    t ≠ [] ∧ t.Trimmed := by
  cases entry with
  | object ms =>
    unfold topicOf? at h
    dsimp only at h
    split at h
    · split at h
      · cases h
      · rename_i hne
        cases h
        exact ⟨hne, Text.trimmed_strip _⟩
    · cases h
  | null | bool _ | int _ | float _ | text _ | bytes _ | list _ => cases h

theorem settled_bindingOf? {row : Value} {b : Binding} (h : bindingOf? row = some b) :
    b.Settled := by
  cases row with
  | object ms =>
    unfold bindingOf? at h
    dsimp only at h
    split at h
    · cases h
    · rename_i hne
      cases h
      exact ⟨⟨hne, Text.trimmed_strip _⟩, Text.trimmed_strip _,
        fun _ => Binding.trimmed_of_mem_selectorOf⟩
  | null | bool _ | int _ | float _ | text _ | bytes _ | list _ => cases h

theorem read?_of_topicOf? {entry : Value} {t : Text} (h : topicOf? entry = some t) :
    ∃ hne, read? entry = some ⟨t, (rowsOf entry).filterMap bindingOf?, hne⟩ := by
  obtain ⟨hne, _⟩ := trimmed_topicOf? h
  exact ⟨hne, by rw [read?, h, Option.bind_some, TopicBinding.make?, dif_pos hne]⟩

theorem read?_of_none {entry : Value} (h : topicOf? entry = none) : read? entry = none := by
  rw [read?, h, Option.bind_none]

theorem map_topic_read? (entries : List Value) :
    (entries.filterMap read?).map TopicBinding.topic = declaredTopics entries := by
  unfold declaredTopics
  induction entries with
  | nil => rfl
  | cons e es ih =>
    cases h : topicOf? e with
    | none => simp [h, read?_of_none h, ih]
    | some t =>
      obtain ⟨_, hr⟩ := read?_of_topicOf? h
      simp [h, hr, ih]

theorem flatMap_bindings_read? (topic : Text) (entries : List Value) :
    (((entries.filterMap read?).filter fun t => t.topic = topic).flatMap TopicBinding.bindings) =
      declaredBindings entries topic := by
  unfold declaredBindings
  induction entries with
  | nil => rfl
  | cons e es ih =>
    cases h : topicOf? e with
    | none => simp [h, read?_of_none h, ih]
    | some t =>
      obtain ⟨_, hr⟩ := read?_of_topicOf? h
      by_cases ht : t = topic <;> simp [h, hr, ih, ht]

/-! ## Merging -/

theorem keys_extend (es : List (Text × List Binding)) (t : TopicBinding) :
    Members.keys (extend es t) =
      if t.topic ∈ Members.keys es then Members.keys es else Members.keys es ++ [t.topic] :=
  Members.keys_put _ _ _

theorem getD_extend (es : List (Text × List Binding)) (t : TopicBinding) (topic : Text) :
    (Members.get? topic (extend es t)).getD [] =
      (Members.get? topic es).getD [] ++ if t.topic = topic then t.bindings else [] := by
  rw [extend, Members.get?_put]
  by_cases h : topic = t.topic
  · simp [h]
  · simp [h, Ne.symm h]

/-- Each topic gets its place with its first entry. -/
theorem keys_foldl_extend (ts : List TopicBinding) (es : List (Text × List Binding)) :
    Members.keys (ts.foldl extend es) = Members.keys es ++
      ((ts.map TopicBinding.topic).filter fun t => t ∉ Members.keys es).eraseDups := by
  induction ts generalizing es with
  | nil => simp
  | cons t ts ih =>
    rw [List.foldl_cons, ih, keys_extend]
    by_cases h : t.topic ∈ Members.keys es
    · simp [h]
    · rw [if_neg h, List.map_cons, List.filter_cons_of_pos (by simpa using h), List.eraseDups_cons,
        List.append_assoc, List.singleton_append, List.filter_filter]
      congr 3
      exact List.filter_congr fun a _ => by rw [Bool.eq_iff_iff]; simp [and_comm]

/-- Each topic gets the bindings of all its entries. -/
theorem getD_foldl_extend (ts : List TopicBinding) (es : List (Text × List Binding))
    (topic : Text) :
    (Members.get? topic (ts.foldl extend es)).getD [] = (Members.get? topic es).getD [] ++
      (ts.filter fun t => t.topic = topic).flatMap TopicBinding.bindings := by
  induction ts generalizing es with
  | nil => simp
  | cons t ts ih =>
    rw [List.foldl_cons, ih, getD_extend]
    by_cases h : t.topic = topic <;> simp [h]

/-! ## The registry -/

theorem nodup_eraseDups (ts : List Text) : ts.eraseDups.Nodup := by
  suffices h : ∀ n, ∀ ts : List Text, ts.length ≤ n → ts.eraseDups.Nodup from
    h _ ts (Nat.le_refl _)
  intro n
  induction n with
  | zero =>
    intro ts h
    rw [List.length_eq_zero_iff.1 (Nat.le_zero.1 h)]
    exact List.nodup_nil
  | succ n ih =>
    intro ts h
    cases ts with
    | nil => exact List.nodup_nil
    | cons t ts =>
      rw [List.eraseDups_cons, List.nodup_cons]
      refine ⟨by simp, ih _ ?_⟩
      exact Nat.le_trans (List.length_filter_le _ _) (Nat.le_of_succ_le_succ h)

theorem unitNotice?_eq_some_iff {c : Converter} {b : Binding} {n : UnitNotice} :
    unitNotice? c b = some n ↔
      n.destination = b.destination ∧ c.unitOf b.kind = some n.unit ∧ n.unit ≠ [] := by
  obtain ⟨destination, unit⟩ := n
  unfold unitNotice?
  split
  · rename_i h
    simp [h]
  · rename_i h
    simp only [h, Option.some.injEq]
    refine ⟨by simp, fun ⟨_, hu, hne⟩ => absurd hu.symm hne⟩
  · rename_i u hne h
    simp only [h, Option.some.injEq, UnitNotice.mk.injEq]
    constructor
    · rintro ⟨rfl, rfl⟩
      exact ⟨rfl, rfl, hne⟩
    · rintro ⟨rfl, rfl, _⟩
      exact ⟨rfl, rfl⟩

/-- The registry has exactly what the entries declare that are well formed. -/
structure Reflects (c : Converter) (entries : List Value) (r : Registry) : Prop where
  /-- The topics stand in the order in which they first occur, each once. -/
  topics : r.topics = (declaredTopics entries).eraseDups
  nodup : r.topics.Nodup
  /-- The broker is asked for these topics. -/
  asked : ∀ t, t ∈ (TopicSet.ofList r.topics).toList ↔ t ∈ declaredTopics entries
  /-- A topic has all bindings that are declared for it. -/
  bindings : ∀ t, r.bindingsFor t = declaredBindings entries t
  /-- Other texts have none. -/
  unbound : ∀ t, t ∉ r.topics → r.bindingsFor t = []
  /-- The bindings are stored under their topics, and nowhere else. -/
  stored : r.entries = r.topics.map fun t => (t, declaredBindings entries t)
  /-- No text that is stored is empty or has a blank at an end. -/
  trimmed : ∀ e ∈ r.entries, (e.1 ≠ [] ∧ e.1.Trimmed) ∧
    ∀ b ∈ e.2, b.destination ≠ [] ∧ b.destination.Trimmed
  /-- Each binding whose kind has a unit has one notice, topic by topic. -/
  units : r.unitNotices =
    r.topics.flatMap fun t => (declaredBindings entries t).filterMap (unitNotice? c)

theorem topics_ofConfig (config : Value) (c : Converter) :
    (ofConfig config c).value.topics = (declaredTopics (entriesOf config)).eraseDups := by
  rw [value_ofConfig]
  have h := keys_foldl_extend ((entriesOf config).filterMap read?) []
  rwa [map_topic_read?, List.filter_eq_self.2 (by simp [Members.keys])] at h

theorem bindingsFor_ofConfig (config : Value) (c : Converter) (t : Text) :
    (ofConfig config c).value.bindingsFor t = declaredBindings (entriesOf config) t := by
  rw [value_ofConfig, ← flatMap_bindings_read?]
  exact getD_foldl_extend _ [] t

theorem declaredBindings_eq_nil {entries : List Value} {t : Text} (h : t ∉ declaredTopics entries) :
    declaredBindings entries t = [] := by
  unfold declaredBindings
  rw [List.filter_eq_nil_iff.2 fun e he ht => h (List.mem_filterMap.2 ⟨e, he, by simpa using ht⟩)]
  rfl

theorem settled_of_mem_declared {entries : List Value} {t : Text} {b : Binding}
    (h : b ∈ declaredBindings entries t) : b.Settled := by
  obtain ⟨e, _, hb⟩ := List.mem_flatMap.1 h
  obtain ⟨row, _, hrow⟩ := List.mem_filterMap.1 hb
  exact settled_bindingOf? hrow

theorem reflects_value (config : Value) (c : Converter) :
    Reflects c (entriesOf config) (ofConfig config c).value := by
  have htopics := topics_ofConfig config c
  have hbindings := bindingsFor_ofConfig config c
  have hconv := converter_ofConfig config c
  generalize (ofConfig config c).value = r at htopics hbindings hconv
  have hnodup : r.topics.Nodup := htopics ▸ nodup_eraseDups _
  have hmem : ∀ t, t ∈ r.topics ↔ t ∈ declaredTopics (entriesOf config) := by
    intro t
    rw [htopics, List.mem_eraseDups]
  have hentry : ∀ e ∈ r.entries, e.2 = declaredBindings (entriesOf config) e.1 := by
    intro e he
    rw [← hbindings, bindingsFor, Members.get?_of_mem hnodup he, Option.getD_some]
  have hstored : r.entries = r.topics.map fun t => (t, declaredBindings (entriesOf config) t) := by
    rw [topics, List.map_map]
    refine (List.map_id r.entries).symm.trans (List.map_congr_left fun e he => ?_)
    rw [Function.comp_apply, ← hentry e he]
    rfl
  refine ⟨htopics, hnodup, fun t => ?_, hbindings, fun t ht => ?_, hstored,
    fun e he => ⟨?_, ?_⟩, ?_⟩
  · rw [TopicSet.mem_ofList, hmem]
  · rw [hbindings, declaredBindings_eq_nil fun h => ht ((hmem t).2 h)]
  · have ht := (hmem e.1).1 (List.mem_map_of_mem he)
    obtain ⟨entry, _, hentry⟩ := List.mem_filterMap.1 ht
    exact trimmed_topicOf? hentry
  · intro b hb
    rw [hentry e he] at hb
    exact (settled_of_mem_declared hb).destination
  · rw [unitNotices, hconv, hstored, List.flatMap_map]

theorem field_put (ms : List (Text × Value)) (k name : Text) (v : Value) :
    Binding.field (Members.put k v ms) name = if name = k then v else Binding.field ms name := by
  unfold Binding.field
  rw [Members.get?_put]
  split <;> rfl

theorem read?_put {ms : List (Text × Value)} {rows rows' : List Value}
    (hrows : Binding.field ms "sensors" = .list rows)
    (h : rows'.filterMap bindingOf? = rows.filterMap bindingOf?) :
    read? (.object (Members.put "sensors" (.list rows') ms)) = read? (.object ms) := by
  have hs : Binding.field (Members.put "sensors" (.list rows') ms) "sensors" = .list rows' := by
    rw [field_put, if_pos rfl]
  have ht : Binding.field (Members.put "sensors" (.list rows') ms) "mqtt_topic" =
      Binding.field ms "mqtt_topic" := by
    rw [field_put, if_neg (by decide)]
  unfold read? topicOf? rowsOf
  simp only [hs, ht, hrows, h]

/-- **The registry is what is well formed in the configuration.** Whatever the configuration is, the
registry reflects the entries; of a configuration that is read from a text no integer is too long to
be written out. Malformed entries and malformed rows, wherever they stand, change nothing. -/
theorem reflects_ofConfig (config : Value) (c : Converter) :
    Reflects c (entriesOf config) (ofConfig config c).value ∧
      (∀ b n, unitNotice? c b = some n ↔
        n.destination = b.destination ∧ c.unitOf b.kind = some n.unit ∧ n.unit ≠ []) ∧
      (∀ dialect t, Json.read dialect t = .ok config → config.hasLong = false) ∧
      (∀ before entry after, config = .list (before ++ after) → topicOf? entry = none →
        (ofConfig (.list (before ++ entry :: after)) c).value = (ofConfig config c).value) ∧
      ∀ before ms after rows row rows', config = .list (before ++ .object ms :: after) →
        Binding.field ms "sensors" = .list (rows ++ rows') → bindingOf? row = none →
        (ofConfig (.list (before ++
          .object (Members.put "sensors" (.list (rows ++ row :: rows')) ms) :: after)) c).value =
            (ofConfig config c).value := by
  refine ⟨reflects_value config c, fun _ _ => unitNotice?_eq_some_iff, fun _ _ => Json.hasLong_read,
    ?_, ?_⟩
  · rintro before entry after rfl h
    simp [value_ofConfig, entriesOf, read?_of_none h]
  · rintro before ms after rows row rows' rfl hrows h
    have hput : read? (.object (Members.put "sensors" (.list (rows ++ row :: rows')) ms)) =
        read? (.object ms) := read?_put hrows (by simp [h])
    simp only [value_ofConfig, entriesOf, List.filterMap_append, List.filterMap_cons, hput]

/-- Two entries for one topic with something else between them, and a row without a destination. -/
def mergedConfig : Value :=
  .list [
    .object [("mqtt_topic", .text " t "), ("sensors", .list [
      .object [("destination", .text "x"), ("sensor", .text "temperature"), ("unit", .text "C")],
      .object [("sensor", .text "other")]])],
    .int 5,
    .object [("mqtt_topic", .text "t"), ("sensors", .list [
      .object [("destination", .text "y"), ("sensor", .text "other"), ("json_path", .text "$.a")]])]]

/-- One topic is left, with the bindings of both entries. -/
theorem mergedConfig_reflected :
    Reflects (.standard .skip false) (entriesOf mergedConfig)
        (ofConfig mergedConfig (.standard .skip false)).value ∧
      (ofConfig mergedConfig (.standard .skip false)).value.entries =
        [(Text.ofString "t", [⟨"x", .temperature, "C", none⟩, ⟨"y", .other, "", some "$.a"⟩])] :=
  ⟨(reflects_ofConfig mergedConfig (.standard .skip false)).1, by decide +kernel⟩

end Registry

end DeltaBridge
