import DeltaBridge.Proofs.Delta.Document
import DeltaBridge.Proofs.Json.RoundTrip

/-!
# Delta documents are read back

The text of a document is read as the document: one update, with the label of its source if there is
one, and with an entry for each reading or unit, in their order.

* `documentWith`: documents by what is in them, `valuesDelta_eq`, `unitsDelta_eq`;
* `Record.Legible`, `UnitNotice.Legible`: what can be told from its text;
* **`means_valuesDelta`**, **`means_unitsDelta`**: what the texts of documents mean.
-/

namespace DeltaBridge

/-! ## What is in a document -/

/-- The document whose only update has a list of entries under a name, each with a path and a value,
and the label of the source if that is not empty. -/
def documentWith (label name : Text) (entries : List (Text × Value)) : Value :=
  let source : List (Text × Value) :=
    if label = [] then [] else [("source", .object [("label", .text label)])]
  let parts := entries.map fun e => .object [("path", .text e.1), ("value", e.2)]
  .object [("updates", .list [.object (source ++ [(name, .list parts)])])]

/-- The readings as entries: a number that is not finite is null, any other value is as it was. -/
def valueEntries (rs : List Record) : List (Text × Value) :=
  rs.map fun r => (r.destination, r.value.publishable)

/-- The units as entries. -/
def unitEntries (ns : List UnitNotice) : List (Text × Value) :=
  ns.map fun u => (u.destination, .object [("units", .text u.unit)])

theorem valuesDelta_eq (label : Option Text) (rs : List Record) :
    valuesDelta label rs = documentWith (label.getD []) "values" (valueEntries rs) := by
  have hentries : rs.map Record.delta =
      (valueEntries rs).map fun e => .object [("path", .text e.1), ("value", e.2)] := by
    rw [valueEntries, List.map_map]
    rfl
  rw [valuesDelta, documentWith, ← hentries]
  rcases label with _ | _ | ⟨c, t⟩ <;> rfl

theorem unitsDelta_eq (ns : List UnitNotice) :
    unitsDelta ns = documentWith [] "meta" (unitEntries ns) := by
  have hentries : ns.map UnitNotice.delta =
      (unitEntries ns).map fun e => .object [("path", .text e.1), ("value", e.2)] := by
    rw [unitEntries, List.map_map]
    rfl
  rw [unitsDelta, documentWith, ← hentries]
  rfl

/-! ## Legible documents -/

/-- The reading is a value of JSON, and it can be told from its text. -/
structure Record.Legible (r : Record) : Prop where
  plain : r.Plain
  destination : Json.IsSound r.destination
  value : r.value.Legible

/-- The unit can be told from its text. -/
structure UnitNotice.Legible (u : UnitNotice) : Prop where
  destination : Json.IsSound u.destination
  unit : Json.IsSound u.unit

namespace Value

theorem legibleItems_iff {xs : List Value} : LegibleItems xs ↔ ∀ x ∈ xs, x.Legible := by
  induction xs with
  | nil => simp [LegibleItems]
  | cons x xs ih => simp [LegibleItems, ih]

theorem Legible.publishable {v : Value} (h : v.Legible) : v.publishable.Legible := by
  cases v with
  | float x =>
    rw [Value.publishable]
    split <;> trivial
  | null | bool _ | int _ | text _ | bytes _ | list _ | object _ => exact h

theorem legible_singleton {k : Text} {v : Value} (hk : Json.IsSound k) (hv : v.Legible) :
    (Value.object [(k, v)]).Legible :=
  ⟨List.nodup_singleton k, hk, hv, trivial⟩

theorem legible_pair {k l : Text} {v w : Value} (hkl : k ≠ l) (hk : Json.IsSound k) (hv : v.Legible)
    (hl : Json.IsSound l) (hw : w.Legible) : (Value.object [(k, v), (l, w)]).Legible :=
  ⟨by simpa [Members.keys] using hkl, hk, hv, hl, hw, trivial⟩

end Value

open Value

theorem legible_documentWith {label name : Text} {entries : List (Text × Value)}
    (hlabel : Json.IsSound label) (hname : Json.IsSound name) (hsource : ("source" : Text) ≠ name)
    (hentries : ∀ e ∈ entries, Json.IsSound e.1 ∧ e.2.Legible) :
    (documentWith label name entries).Legible := by
  have hlist : (Value.list (entries.map fun e =>
      .object [("path", .text e.1), ("value", e.2)])).Legible := by
    refine legibleItems_iff.2 fun x hx => ?_
    obtain ⟨e, he, rfl⟩ := List.mem_map.1 hx
    exact legible_pair (by decide) (Json.isSound_of_ascii (by decide)) (hentries e he).1
      (Json.isSound_of_ascii (by decide)) (hentries e he).2
  refine legible_singleton (Json.isSound_of_ascii (by decide)) ⟨?_, trivial⟩
  split
  · exact legible_singleton hname hlist
  · exact legible_pair hsource (Json.isSound_of_ascii (by decide))
      (legible_singleton (Json.isSound_of_ascii (by decide)) hlabel) hname hlist

/-! ## What the texts mean -/

/-- The text is read as the value in the strict dialect, by every reader that goes deep enough. -/
def Json.Means (t : Text) (v : Value) : Prop :=
  ∀ limit, v.depth ≤ limit → Json.readTo limit .strict t = .ok v

variable {t : Text}

/-- **The text of a batch of readings means the label and the readings.** -/
theorem means_valuesDelta {label : Option Text} {rs : List Record}
    (hlabel : Json.IsSound (label.getD [])) (hrs : ∀ r ∈ rs, r.Legible)
    (h : Json.write (valuesDelta label rs) = .ok t) :
    Json.Means t (documentWith (label.getD []) "values" (valueEntries rs)) := by
  rw [valuesDelta_eq] at h
  intro limit hlimit
  refine Json.readTo_write h (legible_documentWith hlabel (Json.isSound_of_ascii (by decide))
    (by decide) fun e he => ?_) hlimit .strict
  obtain ⟨r, hr, rfl⟩ := List.mem_map.1 he
  exact ⟨(hrs r hr).destination, (hrs r hr).value.publishable⟩

/-- **The text of a batch of units means the units.** -/
theorem means_unitsDelta {ns : List UnitNotice} (hns : ∀ u ∈ ns, u.Legible)
    (h : Json.write (unitsDelta ns) = .ok t) :
    Json.Means t (documentWith [] "meta" (unitEntries ns)) := by
  rw [unitsDelta_eq] at h
  intro limit hlimit
  refine Json.readTo_write h (legible_documentWith .nil (Json.isSound_of_ascii (by decide))
    (by decide) fun e he => ?_) hlimit .strict
  obtain ⟨u, hu, rfl⟩ := List.mem_map.1 he
  exact ⟨(hns u hu).destination,
    legible_singleton (Json.isSound_of_ascii (by decide)) (hns u hu).unit⟩

end DeltaBridge
