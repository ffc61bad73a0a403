import DeltaBridge.Json.Writer
import DeltaBridge.Proofs.Value.Depth

/-!
# What can be written as JSON

The text of a value is that of its parts. There is none if there is a fault on the way through the
value: bytes, an integer too long to be written out, a double that is not finite, or lists and
objects nested too deep.

* `Json.writeTo_list_ok`, `Json.writeTo_object_ok`: what was written of containers;
* `Json.writeError?`: the first fault; **`Json.writeTo_eq`**: it decides;
* `Json.finite_of_write`: whatever is written has only doubles that are finite;
* **`Json.eq_of_writeError?`**: the reasons that are left without bytes and overlong integers.
-/

namespace DeltaBridge.Json

open Value

/-! ## Texts of containers -/

theorem writeTo_list_ok {limit : Nat} {xs : List Value} {t : Text}
    (h : writeTo limit (.list xs) = .ok t) :
    ∃ ts, writeItems (limit - 1) xs = .ok ts ∧ t = "[" ++ Text.joinWith ", " ts ++ "]" := by
  rw [writeTo] at h
  split at h
  · cases h
  · cases hts : writeItems (limit - 1) xs with
    | error e => rw [hts] at h; cases h
    | ok ts => rw [hts] at h; cases h; exact ⟨ts, rfl, rfl⟩

theorem writeTo_object_ok {limit : Nat} {ms : List (Text × Value)} {t : Text}
    (h : writeTo limit (.object ms) = .ok t) :
    ∃ ts, writeMembers (limit - 1) ms = .ok ts ∧
      t = "\x7b" ++ Text.joinWith ", " ts ++ "\x7d" := by
  rw [writeTo] at h
  split at h
  · cases h
  · cases hts : writeMembers (limit - 1) ms with
    | error e => rw [hts] at h; cases h
    | ok ts => rw [hts] at h; cases h; exact ⟨ts, rfl, rfl⟩

theorem writeItems_cons_ok {limit : Nat} {x : Value} {xs : List Value} {ts : List Text}
    (h : writeItems limit (x :: xs) = .ok ts) :
    ∃ u us, writeTo limit x = .ok u ∧ writeItems limit xs = .ok us ∧ ts = u :: us := by
  rw [writeItems] at h
  cases hu : writeTo limit x with
  | error e => rw [hu] at h; cases h
  | ok u =>
    cases hus : writeItems limit xs with
    | error e => rw [hu, hus] at h; cases h
    | ok us => rw [hu, hus] at h; cases h; exact ⟨u, us, rfl, rfl, rfl⟩

theorem writeMembers_cons_ok {limit : Nat} {k : Text} {v : Value} {ms : List (Text × Value)}
    {ts : List Text} (h : writeMembers limit ((k, v) :: ms) = .ok ts) :
    ∃ u us, writeTo limit v = .ok u ∧ writeMembers limit ms = .ok us ∧
      ts = (writeString k ++ ": " ++ u) :: us := by
  rw [writeMembers] at h
  cases hu : writeTo limit v with
  | error e => rw [hu] at h; cases h
  | ok u =>
    cases hus : writeMembers limit ms with
    | error e => rw [hu, hus] at h; cases h
    | ok us => rw [hu, hus] at h; cases h; exact ⟨u, us, rfl, rfl, rfl⟩

/-! ## Faults -/

/-- Why a scalar has no text. -/
def scalarError? : Value → Option WriteError
  | .int n => if Value.isLong n then some .longInteger else none
  | .float x => if x.isFinite then none else some .nonFinite
  | .bytes _ => some .bytes
  | _ => none

/-- Why a value has no text, if its lists and objects may be nested up to the given depth. -/
def writeError? (limit : Nat) (v : Value) : Option WriteError := v.fault? scalarError? .tooDeep limit

/-- The result, unless there is a fault. -/
def unlessFault {α : Type} (fault : Option WriteError) (a : α) : Except WriteError α :=
  match fault with
  | some e => .error e
  | none => .ok a

-- The texts are those that the parts have; if a part has none, any text will do.
mutual

/-- **The first fault on the way through a value decides** why it has no text. -/
theorem writeTo_eq (limit : Nat) : ∀ v : Value,
    ∃ t, writeTo limit v = unlessFault (writeError? limit v) t
  | .null => ⟨"null", rfl⟩
  | .bool b => ⟨if b then "true" else "false", rfl⟩
  | .int n => by
    refine ⟨intText n, ?_⟩
    rw [writeTo, writeError?, fault?, scalarError?]
    · cases isLong n <;> rfl
    all_goals simp
  | .float x => by
    refine ⟨floatText x, ?_⟩
    rw [writeTo, writeError?, fault?, scalarError?]
    · cases x.isFinite <;> rfl
    all_goals simp
  | .text t => ⟨writeString t, rfl⟩
  | .bytes _ => ⟨[], rfl⟩
  | .list xs => by
    obtain ⟨ts, h⟩ := writeItems_eq (limit - 1) xs
    refine ⟨"[" ++ Text.joinWith ", " ts ++ "]", ?_⟩
    rw [writeTo, writeError?, fault?, h]
    split
    · rfl
    · cases faultItem? scalarError? .tooDeep (limit - 1) xs <;> rfl
  | .object ms => by
    obtain ⟨ts, h⟩ := writeMembers_eq (limit - 1) ms
    refine ⟨"\x7b" ++ Text.joinWith ", " ts ++ "\x7d", ?_⟩
    rw [writeTo, writeError?, fault?, h]
    split
    · rfl
    · cases faultMember? scalarError? .tooDeep (limit - 1) ms <;> rfl

theorem writeItems_eq (limit : Nat) : ∀ xs : List Value,
    ∃ ts, writeItems limit xs = unlessFault (faultItem? scalarError? .tooDeep limit xs) ts
  | [] => ⟨[], rfl⟩
  | x :: xs => by
    obtain ⟨t, hx⟩ := writeTo_eq limit x
    obtain ⟨ts, hxs⟩ := writeItems_eq limit xs
    refine ⟨t :: ts, ?_⟩
    rw [writeItems, faultItem?, hx, hxs, writeError?]
    cases x.fault? scalarError? .tooDeep limit with
    | some e => rfl
    | none => cases faultItem? scalarError? .tooDeep limit xs <;> rfl

theorem writeMembers_eq (limit : Nat) : ∀ ms : List (Text × Value),
    ∃ ts, writeMembers limit ms = unlessFault (faultMember? scalarError? .tooDeep limit ms) ts
  | [] => ⟨[], rfl⟩
  | (k, v) :: ms => by
    obtain ⟨t, hv⟩ := writeTo_eq limit v
    obtain ⟨ts, hms⟩ := writeMembers_eq limit ms
    refine ⟨(writeString k ++ ": " ++ t) :: ts, ?_⟩
    rw [writeMembers, faultMember?, hv, hms, writeError?]
    cases v.fault? scalarError? .tooDeep limit with
    | some e => rfl
    | none => cases faultMember? scalarError? .tooDeep limit ms <;> rfl

end

theorem writeError?_of_writeTo {limit : Nat} {v : Value} {t : Text} (h : writeTo limit v = .ok t) :
    writeError? limit v = none := by
  obtain ⟨u, hu⟩ := writeTo_eq limit v
  rw [h] at hu
  cases hf : writeError? limit v with
  | none => rfl
  | some e =>
    rw [hf] at hu
    cases hu

/-! ## What is in values with a text -/

theorem scalarError?_eq_some_iff {v : Value} {e : WriteError} : scalarError? v = some e ↔
    e = .nonFinite ∧ v.isNonFinite = true ∨ e = .longInteger ∧ v.isLongInt = true ∨
      e = .bytes ∧ v.isBytes = true := by
  cases v with
  | int n => cases h : isLong n <;> simp [scalarError?, isBytes, isLongInt, isNonFinite, h, eq_comm]
  | float x =>
    cases h : x.isFinite <;> simp [scalarError?, isBytes, isLongInt, isNonFinite, h, eq_comm]
  | null | bool _ | text _ | bytes _ | list _ | object _ =>
    simp [scalarError?, isBytes, isLongInt, isNonFinite, eq_comm]

theorem finite_of_writeError? {limit : Nat} {v : Value} (h : writeError? limit v = none) :
    v.hasNonFinite = false := by
  have hsome := ((fault?_eq_none_iff _ _ limit v).1 h).1
  rw [Bool.eq_false_iff] at hsome ⊢
  refine fun hf => hsome (somewhere_mono (fun x hx => ?_) v hf)
  rw [scalarError?_eq_some_iff.2 (.inl ⟨rfl, hx⟩), Option.isSome_some]

/-- Whatever is written has only doubles that are finite. -/
theorem finite_of_write {limit : Nat} {v : Value} {t : Text} (h : writeTo limit v = .ok t) :
    v.hasNonFinite = false :=
  finite_of_writeError? (writeError?_of_writeTo h)

/-- **Without bytes and overlong integers** there are two reasons why a value has no text: a double
that is not finite, and the depth. -/
theorem eq_of_writeError? {limit : Nat} {v : Value} {e : WriteError}
    (hb : v.somewhere isBytes = false) (hl : v.somewhere isLongInt = false)
    (h : writeError? limit v = some e) :
    e = .nonFinite ∧ v.hasNonFinite = true ∨ e = .tooDeep ∧ limit < v.depth := by
  refine (eq_of_fault? h).imp_left fun hs => ?_
  have hpass {p : Value → Bool} (hp : ∀ x, scalarError? x = some e → p x = true) :
      v.somewhere p = true :=
    somewhere_mono (fun x hx => hp x (of_decide_eq_true hx)) v hs
  cases e with
  | nonFinite => exact ⟨rfl, hpass fun x hx => by simpa [scalarError?_eq_some_iff] using hx⟩
  | longInteger =>
    rw [hpass fun x hx => by simpa [scalarError?_eq_some_iff] using hx] at hl
    cases hl
  | bytes =>
    rw [hpass fun x hx => by simpa [scalarError?_eq_some_iff] using hx] at hb
    cases hb
  | tooDeep =>
    rw [hpass fun x hx => by simp [scalarError?_eq_some_iff] at hx] at hb
    cases hb

end DeltaBridge.Json
