import DeltaBridge.Delta.Document
import DeltaBridge.Proofs.Json.Writing

/-!
# What can be written of delta documents

The way through a document is that through its readings, each inside five lists and objects, and
texts. So all units can be written, and readings unless a double that is not finite is inside a list
or an object, or one of them is nested too deep.

* `fault?_valuesDelta`, `fault?_unitsDelta`: faults on the way through documents;
* `writeError?`, **`write_valuesDelta`**, `write_unitsDelta`: the texts of documents;
* `Record.Plain`, `Record.isFlawed`, `Record.isDeep`: what may be in the value of a reading;
* **`eq_of_writeError?`**, `writeError?_eq_none_iff`: why plain readings have no text.
-/

namespace DeltaBridge

open Value

/-! ## The way through a document -/

section Fault

variable {ε : Type} {scalar : Value → Option ε} {deep : ε}

theorem fault?_deltaEntry (hs : ∀ t, scalar (.text t) = none) (room : Nat) (d : Text) (v : Value) :
    (deltaEntry d v).fault? scalar deep (room + 1) = v.fault? scalar deep room := by
  rw [deltaEntry, fault?_object, List.findSome?_cons, List.findSome?_singleton, fault?_text, hs]

theorem fault?_deltaOf (room : Nat) (update : List (Text × Value)) :
    (deltaOf update).fault? scalar deep (room + 3) =
      update.findSome? fun m => m.2.fault? scalar deep room := by
  rw [deltaOf, fault?_object, List.findSome?_singleton, fault?_list, List.findSome?_singleton,
    fault?_object]

theorem fault?_sourceMember (hs : ∀ t, scalar (.text t) = none) (room : Nat)
    (label : Option Text) :
    ((sourceMember label).findSome? fun m => m.2.fault? scalar deep (room + 1)) = none := by
  rcases label with _ | _ | ⟨c, t⟩
  · rfl
  · rfl
  · rw [sourceMember, List.findSome?_singleton, fault?_object, List.findSome?_singleton,
      fault?_text, hs]
    simp

theorem fault?_valuesDelta (hs : ∀ t, scalar (.text t) = none) (room : Nat) (label : Option Text)
    (rs : List Record) :
    (valuesDelta label rs).fault? scalar deep (room + 5) =
      rs.findSome? fun r => r.value.publishable.fault? scalar deep room := by
  rw [valuesDelta, fault?_deltaOf, List.findSome?_append, fault?_sourceMember hs, Option.none_or,
    List.findSome?_singleton, fault?_list, List.findSome?_map]
  exact congrFun (congrArg List.findSome? (funext fun r => fault?_deltaEntry hs room _ _)) rs

theorem fault?_unitsDelta (hs : ∀ t, scalar (.text t) = none) (room : Nat)
    (ns : List UnitNotice) : (unitsDelta ns).fault? scalar deep (room + 6) = none := by
  rw [unitsDelta, fault?_deltaOf, List.findSome?_singleton, fault?_list, List.findSome?_map,
    List.findSome?_eq_none_iff]
  intro u _
  rw [Function.comp_apply, UnitNotice.delta, fault?_deltaEntry hs, fault?_object,
    List.findSome?_singleton, fault?_text, hs]

end Fault

/-! ## Texts of documents -/

/-- Why a document with the reading has no text. Five lists and objects are around the value. -/
def Record.writeError? (r : Record) : Option Json.WriteError :=
  Json.writeError? (depthLimit - 5) r.value.publishable

/-- Why a document with the readings has no text. -/
def writeError? (rs : List Record) : Option Json.WriteError := rs.findSome? Record.writeError?

/-- **The first reading that cannot be written decides.** -/
theorem write_valuesDelta (label : Option Text) (rs : List Record) :
    ∃ t, Json.write (valuesDelta label rs) = Json.unlessFault (writeError? rs) t := by
  obtain ⟨t, ht⟩ := Json.writeTo_eq depthLimit (valuesDelta label rs)
  have hfault : Json.writeError? depthLimit (valuesDelta label rs) = writeError? rs :=
    fault?_valuesDelta (fun _ => rfl) (depthLimit - 5) label rs
  exact ⟨t, by rw [Json.write, ht, hfault]⟩

theorem write_unitsDelta (ns : List UnitNotice) : ∃ t, Json.write (unitsDelta ns) = .ok t := by
  obtain ⟨t, ht⟩ := Json.writeTo_eq depthLimit (unitsDelta ns)
  have hfault : Json.writeError? depthLimit (unitsDelta ns) = none :=
    fault?_unitsDelta (fun _ => rfl) (depthLimit - 6) ns
  exact ⟨t, by rw [Json.write, ht, hfault]; rfl⟩

/-! ## Plain readings -/

/-- The reading has neither bytes nor integers too long to be written out. -/
structure Record.Plain (r : Record) : Prop where
  bytes : r.value.hasBytes = false
  long : r.value.hasLong = false

/-- In the published reading there is a double that is not finite. -/
def Record.isFlawed (r : Record) : Bool := r.value.publishable.hasNonFinite

theorem somewhere_publishable {p : Value → Bool} {v : Value} (hp : p .null = false)
    (h : v.somewhere p = false) : v.publishable.somewhere p = false := by
  cases v with
  | float x =>
    by_cases hx : x.isFinite = true
    · rw [publishable, if_pos hx]
      exact h
    · rw [publishable, if_neg hx]
      exact hp
  | null | bool _ | int _ | text _ | bytes _ | list _ | object _ => exact h

theorem depth_publishable (v : Value) : v.publishable.depth = v.depth := by
  cases v with
  | float x =>
    rw [publishable]
    split <;> rfl
  | null | bool _ | int _ | text _ | bytes _ | list _ | object _ => rfl

/-- The document around the reading is nested too deep. -/
def Record.isDeep (r : Record) : Bool := depthLimit < r.value.depth + 5

theorem Record.Plain.eq_of_writeError? {r : Record} (h : r.Plain) {e : Json.WriteError}
    (he : r.writeError? = some e) :
    e = .nonFinite ∧ r.isFlawed = true ∨ e = .tooDeep ∧ r.isDeep = true := by
  refine (Json.eq_of_writeError? (somewhere_publishable rfl h.bytes)
    (somewhere_publishable rfl (hasLong_eq r.value ▸ h.long)) he).imp_right fun ⟨hd, hlt⟩ => ⟨hd, ?_⟩
  rw [depth_publishable, depthLimit] at hlt
  rw [Record.isDeep, depthLimit, decide_eq_true_iff]
  omega

theorem Record.sound_of_writeError? {r : Record} (he : r.writeError? = none) :
    r.isFlawed = false ∧ r.isDeep = false := by
  refine ⟨Json.finite_of_writeError? he, ?_⟩
  have hle := ((fault?_eq_none_iff _ _ _ _).1 he).2
  rw [depth_publishable, depthLimit] at hle
  rw [Record.isDeep, depthLimit, decide_eq_false_iff_not]
  omega

variable {rs : List Record}

/-- **Plain readings have no text** if one of them is flawed, or nested too deep. -/
theorem eq_of_writeError? (h : ∀ r ∈ rs, r.Plain) {e : Json.WriteError}
    (he : writeError? rs = some e) : e = .nonFinite ∧ rs.any Record.isFlawed = true ∨
      e = .tooDeep ∧ rs.any Record.isDeep = true := by
  obtain ⟨r, hr, he⟩ := List.exists_of_findSome?_eq_some he
  exact ((h r hr).eq_of_writeError? he).imp (fun ⟨he, hf⟩ => ⟨he, List.any_eq_true.2 ⟨r, hr, hf⟩⟩)
    fun ⟨he, hd⟩ => ⟨he, List.any_eq_true.2 ⟨r, hr, hd⟩⟩

theorem writeError?_eq_none_iff (h : ∀ r ∈ rs, r.Plain) :
    writeError? rs = none ↔
      rs.any Record.isFlawed = false ∧ rs.any Record.isDeep = false := by
  constructor
  · intro hn
    rw [List.any_eq_false, List.any_eq_false]
    have hsound r hr := Record.sound_of_writeError? (List.findSome?_eq_none_iff.1 hn r hr)
    exact ⟨fun r hr => by simp [(hsound r hr).1], fun r hr => by simp [(hsound r hr).2]⟩
  · rintro ⟨hf, hd⟩
    cases he : writeError? rs with
    | none => rfl
    | some e =>
      rcases eq_of_writeError? h he with ⟨-, hf'⟩ | ⟨-, hd'⟩
      · rw [hf] at hf'
        cases hf'
      · rw [hd] at hd'
        cases hd'

end DeltaBridge
