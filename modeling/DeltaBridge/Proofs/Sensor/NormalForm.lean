import DeltaBridge.Proofs.Sensor.Registry

/-!
# Normal forms of configurations

A registry can be written down as a configuration: one entry for each topic, one row for each
binding, and in every field a text that has no blanks at its ends. So it is the normal form of each
configuration that the registry is read from. Reading it gives the registry again, and there is
nothing to warn of.

* `Logged.Quietly`: a result without any report but those for debugging, `Quietly.bind`;
* `Binding.members`, `Registry.entryOf`, `Registry.toConfig`: what is written down;
* `Binding.Settled`, `Registry.Settled`: nothing is left to be trimmed or merged,
  `settled_ofConfig`;
* `quietly_readRows`, `quietly_readEntries`, `quietly_ofConfig`: what is settled is read back;
* `Registry.Restores`, **`Registry.restores_ofConfig`**: the registry of a normal form.
-/

namespace DeltaBridge

/-! ## Reports for debugging -/

namespace Logged

variable {α β : Type}

/-- The result is `a`, and there are no reports but those for debugging. -/
structure Quietly (x : Logged α) (a : α) : Prop where
  value : x.value = a
  debug : ∀ m ∈ x.reports, m.level = .debug

theorem quietly_pure (a : α) : (pure a : Logged α).Quietly a := ⟨rfl, by simp⟩

theorem Quietly.bind {x : Logged α} {f : α → Logged β} {a : α} {b : β} (hx : x.Quietly a)
    (hf : (f a).Quietly b) : (x >>= f).Quietly b := by
  obtain ⟨rfl, hx⟩ := hx
  refine ⟨hf.value, fun m hm => ?_⟩
  rw [reports_bind, List.mem_append] at hm
  exact hm.elim (hx m) (hf.debug m)

end Logged

open Logged

/-! ## Bindings -/

theorem Kind.read_tag (k : Kind) : Kind.read (.text k.tag) = pure k := by
  have htag : k.tag.strip.lower = k.tag := by cases k <;> decide +kernel
  rw [Kind.read, Value.fieldText_text, htag, ofTag?_tag]

namespace Binding

/-- The members of the row that declares a binding. -/
def members (b : Binding) : List (Text × Value) :=
  [("destination", .text b.destination), ("sensor", .text b.kind.tag), ("unit", .text b.unit),
    ("json_path", b.selector.elim .null .text)]

theorem selectorOf_elim {s : Option Text} (h : ∀ t ∈ s, t ≠ [] ∧ t.Trimmed) :
    selectorOf (s.elim .null .text) = s := by
  cases s with
  | none => rfl
  | some t =>
    obtain ⟨hne, ht⟩ := h t rfl
    have hstrip : (Value.text t).display.strip = t := Text.strip_eq_self ht
    simp [selectorOf, hstrip, hne]

theorem Settled.ofRow_members {b : Binding} (h : b.Settled) : ofRow b.members = pure (.ok b) := by
  have hdestination : (field b.members "destination").fieldText.strip = b.destination :=
    strip_fieldText_text h.destination.2
  have hunit : (field b.members "unit").fieldText.strip = b.unit := strip_fieldText_text h.unit
  have hkind : Kind.read (field b.members "sensor") = pure b.kind := Kind.read_tag b.kind
  have hselector : selectorOf (field b.members "json_path") = b.selector :=
    selectorOf_elim h.selector
  have hne : ¬b.destination.isEmpty = true := by simpa using h.destination.1
  unfold ofRow
  simp only [hdestination, if_neg hne, hunit, hkind, hselector, pure_bind]

end Binding

/-! ## Registries -/

namespace Registry

/-- The entry that declares some bindings for a topic. -/
def entryOf (topic : Text) (bs : List Binding) : Value :=
  .object [("mqtt_topic", .text topic), ("sensors", .list (bs.map fun b => .object b.members))]

/-- A configuration that declares what the registry has, topic by topic. -/
def toConfig (r : Registry) : Value := .list (r.entries.map fun e => entryOf e.1 e.2)

/-- Nothing in the registry is left to be trimmed or merged. -/
structure Settled (r : Registry) : Prop where
  nodup : r.topics.Nodup
  topic : ∀ e ∈ r.entries, e.1 ≠ [] ∧ e.1.Trimmed
  binding : ∀ e ∈ r.entries, ∀ b ∈ e.2, b.Settled

/-- The registry of a configuration is settled. -/
theorem settled_ofConfig (config : Value) (c : Converter) : (ofConfig config c).value.Settled := by
  have hr := reflects_value config c
  refine ⟨hr.nodup, fun e he => (hr.trimmed e he).1, fun e he b hb => ?_⟩
  rw [hr.stored] at he
  obtain ⟨t, -, rfl⟩ := List.mem_map.1 he
  exact settled_of_mem_declared hb

/-! ## Reading a normal form -/

theorem quietly_note (message : Text) : (note .debug message).Quietly () := ⟨rfl, by simp [note]⟩

theorem quietly_readRows (topic : Text) (i : Nat) {bs : List Binding} (h : ∀ b ∈ bs, b.Settled) :
    (readRows topic i (bs.map fun b => .object b.members)).Quietly bs := by
  induction bs generalizing i with
  | nil => exact quietly_pure []
  | cons b bs ih =>
    obtain ⟨hb, hbs⟩ := List.forall_mem_cons.1 h
    rw [List.map_cons, readRows, hb.ofRow_members, pure_bind]
    exact (quietly_note _).bind ((ih (i + 1) hbs).bind (quietly_pure (b :: bs)))

theorem readEntry_entryOf (i : Nat) {topic : Text} (bs : List Binding) (hne : topic ≠ [])
    (ht : topic.Trimmed) :
    readEntry i (entryOf topic bs) = (do
      note .debug ("MQTT Topic: " ++ topic)
      return some ⟨topic, ← readRows topic 0 (bs.map fun b => .object b.members), hne⟩) := by
  have htopic : (Binding.field [("mqtt_topic", .text topic),
      ("sensors", .list (bs.map fun b => .object b.members))] "mqtt_topic").fieldText.strip =
        topic := strip_fieldText_text ht
  unfold readEntry entryOf
  simp only [htopic]
  rw [dif_pos hne]
  rfl

theorem quietly_readEntry (i : Nat) {t : TopicBinding} (ht : t.topic.Trimmed)
    (h : ∀ b ∈ t.bindings, b.Settled) :
    (readEntry i (entryOf t.topic t.bindings)).Quietly (some t) := by
  rw [readEntry_entryOf i t.bindings t.topic_ne_nil ht]
  exact (quietly_note _).bind ((quietly_readRows t.topic 0 h).bind (quietly_pure (some t)))

theorem quietly_readEntries (i : Nat) {ts : List TopicBinding}
    (h : ∀ t ∈ ts, t.topic.Trimmed ∧ ∀ b ∈ t.bindings, b.Settled) :
    (readEntries i (ts.map fun t => entryOf t.topic t.bindings)).Quietly ts := by
  induction ts generalizing i with
  | nil => exact quietly_pure []
  | cons t ts ih =>
    obtain ⟨⟨ht, hb⟩, hts⟩ := List.forall_mem_cons.1 h
    rw [List.map_cons, readEntries]
    exact (quietly_readEntry i ht hb).bind ((ih (i + 1) hts).bind (quietly_pure (t :: ts)))

/-! ## Storing it -/

theorem extend_of_not_mem {es : List (Text × List Binding)} {t : TopicBinding}
    (h : t.topic ∉ Members.keys es) : extend es t = es ++ [(t.topic, t.bindings)] := by
  have hnone : Members.get? t.topic es = none :=
    List.lookup_eq_none_iff.2 fun e he => bne_iff_ne.2 fun heq => h (heq ▸ List.mem_map_of_mem he)
  rw [extend, hnone, Option.getD_none, List.nil_append, Members.put_of_not_mem h]

theorem foldl_extend_of_nodup {ts : List TopicBinding} (h : (ts.map TopicBinding.topic).Nodup) :
    ts.foldl extend [] = ts.map fun t => (t.topic, t.bindings) := by
  -- By induction for any entries before, among which there is none of these topics.
  suffices hf : ∀ es, (Members.keys es ++ ts.map TopicBinding.topic).Nodup →
      ts.foldl extend es = es ++ ts.map fun t => (t.topic, t.bindings) from hf [] h
  clear h
  induction ts with
  | nil => simp
  | cons t ts ih =>
    intro es h
    have hnew : t.topic ∉ Members.keys es := fun hk =>
      (List.nodup_append.1 h).2.2 _ hk _ List.mem_cons_self rfl
    have hlater : (Members.keys (es ++ [(t.topic, t.bindings)]) ++
        ts.map TopicBinding.topic).Nodup := by
      simpa [Members.keys] using h
    rw [List.foldl_cons, extend_of_not_mem hnew, ih _ hlater, List.map_cons, List.append_assoc,
      List.singleton_append]

theorem quietly_ofEntries (c : Converter) {ts : List TopicBinding}
    (hnodup : (ts.map TopicBinding.topic).Nodup)
    (h : ∀ t ∈ ts, t.topic.Trimmed ∧ ∀ b ∈ t.bindings, b.Settled) :
    (ofConfig (.list (ts.map fun t => entryOf t.topic t.bindings)) c).Quietly
      ⟨ts.map fun t => (t.topic, t.bindings), c⟩ := by
  have hstored : ofTopics ts c = ⟨ts.map fun t => (t.topic, t.bindings), c⟩ := by
    rw [ofTopics, foldl_extend_of_nodup hnodup]
  rw [ofConfig, ← hstored]
  exact (quietly_note _).bind ((quietly_readEntries 0 h).bind (quietly_pure (ofTopics ts c)))

/-- **A settled registry is read off the configuration that declares it.** -/
theorem quietly_ofConfig {r : Registry} (h : r.Settled) :
    (ofConfig r.toConfig r.converter).Quietly r := by
  obtain ⟨ts, hts⟩ : ∃ ts : List TopicBinding,
      (ts.map fun t => (t.topic, t.bindings)) = r.entries :=
    ⟨r.entries.pmap (fun e he => ⟨e.1, e.2, he⟩) fun e he => (h.topic e he).1, by
      simp [List.map_pmap]⟩
  have hnodup : (ts.map TopicBinding.topic).Nodup := by
    have htopics := h.nodup
    rwa [topics, ← hts, List.map_map] at htopics
  have hsettled : ∀ t ∈ ts, t.topic.Trimmed ∧ ∀ b ∈ t.bindings, b.Settled := by
    intro t ht
    have hmem : (t.topic, t.bindings) ∈ r.entries := hts ▸ List.mem_map_of_mem ht
    exact ⟨(h.topic _ hmem).2, h.binding _ hmem⟩
  have hconfig : r.toConfig = .list (ts.map fun t => entryOf t.topic t.bindings) := by
    rw [toConfig, ← hts, List.map_map]
    rfl
  have hread := quietly_ofEntries r.converter hnodup hsettled
  rwa [hts, ← hconfig] at hread

theorem settled_iff {r : Registry} :
    r.Settled ↔ (ofConfig r.toConfig r.converter).value = r :=
  ⟨fun h => (quietly_ofConfig h).value, fun h => h ▸ settled_ofConfig _ _⟩

/-! ## Normal forms -/

/-- The normal form of a configuration: what its registry declares. -/
def normalForm (config : Value) (c : Converter) : Value := (ofConfig config c).value.toConfig

/-- What is read is the registry again, with nothing to warn of. -/
structure Restores (r : Registry) (again : Logged Registry) : Prop where
  /-- The topics are the same, in the same order. -/
  topics : again.value.topics = r.topics
  /-- Each topic has the same bindings. -/
  bindings : ∀ t, again.value.bindingsFor t = r.bindingsFor t
  /-- The same units are announced. -/
  units : again.value.unitNotices = r.unitNotices
  /-- All that is reported is for debugging. -/
  unwarned : ∀ m ∈ again.reports, m.level = .debug

/-- **Configurations reach their normal form at once.** Whatever the configuration is, its normal
form gives the same registry without a warning, and is its own normal form. A registry is read off
the configuration that declares it exactly if nothing in it is left to be trimmed or merged. -/
theorem restores_ofConfig (config : Value) (c : Converter) :
    Restores (ofConfig config c).value (ofConfig (normalForm config c) c) ∧
      normalForm (normalForm config c) c = normalForm config c ∧
      ∀ r : Registry, r.Settled ↔ (ofConfig r.toConfig r.converter).value = r := by
  have hquiet := quietly_ofConfig (settled_ofConfig config c)
  rw [converter_ofConfig] at hquiet
  have hsame : (ofConfig (normalForm config c) c).value = (ofConfig config c).value := hquiet.value
  refine ⟨⟨?_, ?_, ?_, hquiet.debug⟩, ?_, fun r => settled_iff⟩
  · rw [hsame]
  · intro t
    rw [hsame]
  · rw [hsame]
  · rw [normalForm, hsame]
    rfl

/-- Blanks, letter case and fields that say nothing are gone. -/
example (c : Converter) :
    normalForm (.list [.object [("mqtt_topic", .text " t"), ("sensors", .list [.object
      [("sensor", .text "Pressure "), ("destination", .text "x"), ("json_path", .text " ")]])]]) c =
        .list [entryOf "t" [⟨"x", .pressure, [], none⟩]] := rfl

end Registry

end DeltaBridge
