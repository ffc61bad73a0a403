import DeltaBridge.Json.Reader
import DeltaBridge.Proofs.Json.Number
import DeltaBridge.Proofs.Value.Members
import DeltaBridge.Proofs.Value.Scalars

/-!
# What is read from JSON

A property that JSON's scalars have, and that lists and objects inherit from what is in them, holds
of every value that is read from a text. So there are no bytes in such a value, its integers are
short enough to be written out, and no object in it has a key twice.

* `readDigits_lt_of_length_le`, `isLong_signed`: the integers that are read are short;
* `Json.Inherited`: a property of JSON's scalars, up to integers that are too long, that containers
  inherit; `Token.Has`, `has_lexFrom`: the pieces have it;
* `Due.Has`, `Frame.Has`: what is kept while reading has it, `has_step`;
* **`has_readTo`**: so has the value;
* `Json.Foreign`, `somewhere_readTo`: no scalar in it passes a test that no scalar of JSON passes;
  `hasBytes_read`, `hasLong_read`;
* `Value.DistinctKeys`, `distinctKeys_read`: its objects have each key once.
-/

namespace DeltaBridge

open Value

namespace Json

/-! ## Integers -/

theorem readDigits_lt_of_length_le {ds : List Nat} {k : Nat} (h : ∀ d ∈ ds, d < 10)
    (hk : ds.length ≤ k) : readDigits ds < Nat.pow 10 k :=
  Nat.lt_of_lt_of_le (readDigits_lt h) (Nat.pow_le_pow_right (by decide) hk)

theorem natAbs_signed (negative : Bool) (ds : List Nat) :
    (signed negative ds).natAbs = readDigits ds := by
  cases negative <;> simp [signed]

/-- An integer that is read is short enough to be written out. -/
theorem isLong_signed {negative : Bool} {ds : List Nat} (h : ∀ d ∈ ds, d < 10)
    (hl : ds.length ≤ digitLimit) : isLong (signed negative ds) = false := by
  rw [isLong, natAbs_signed, decide_eq_false_iff_not, Nat.not_le]
  exact readDigits_lt_of_length_le h hl

/-! ## Inherited properties -/

/-- The scalars that JSON has a notation for have the property, but for integers that are too long,
and a container has it if all that is in it does. -/
structure Inherited (Q : Value → Prop) : Prop where
  null : Q .null
  bool : ∀ b, Q (.bool b)
  int : ∀ n, isLong n = false → Q (.int n)
  float : ∀ x, Q (.float x)
  text : ∀ t, Q (.text t)
  list : ∀ xs : List Value, (∀ x ∈ xs, Q x) → Q (.list xs)
  object : ∀ ps : List (Text × Value), (∀ m ∈ ps, Q m.2) → Q (.object (Members.ofPairs ps))

variable (Q : Value → Prop)

/-- The scalar in the piece has the property. -/
def Token.Has : Token → Prop
  | .scalar v => Q v
  | _ => True

/-- The values in what is due have the property. -/
def Due.Has : Due → Prop
  | .name members | .colon members _ => ∀ m ∈ members, Q m.2
  | .after v => Q v
  | _ => True

/-- The values in the open container have the property. -/
def Frame.Has : Frame → Prop
  | .array items => ∀ v ∈ items, Q v
  | .object members _ => ∀ m ∈ members, Q m.2

/-- The values in what the reader keeps have the property. -/
def Has (s : Due × List Frame) : Prop := s.1.Has Q ∧ ∀ f ∈ s.2, f.Has Q

/-! ## Pieces -/

section Pieces

variable {Q} (hQ : Inherited Q)

include hQ

theorem has_word? {t : Text} {k : Token} {l : Nat} (h : word? t = some (k, l)) : k.Has Q := by
  obtain ⟨w, hw, he⟩ := Option.map_eq_some_iff.1 h
  have hwords : ∀ w ∈ words, w.2.Has Q := by simp [words, Token.Has, hQ.null, hQ.bool]
  have hk : w.2 = k := congrArg Prod.fst he
  rw [← hk]
  exact hwords w (List.mem_of_find?_eq_some hw)

theorem has_literal {t r : Text} {l : Literal} {v : Value}
    (hs : scanNumber t = some (l, r)) (h : l.value = .ok v) : Q v := by
  cases l with
  | integer negative ds =>
    obtain ⟨_, -, hn⟩ := NumberNotation.of_scan hs
    obtain ⟨hl, rfl⟩ := Literal.value_integer_eq_ok.1 h
    exact hQ.int _ (isLong_signed hn.integer_lt hl)
  | decimal n =>
    cases h
    exact hQ.float _

theorem has_piece (position : Nat) (c : CodePoint) (r : Text) : (piece position c r).1.Has Q := by
  unfold piece
  iterate 6
    split
    · trivial
  split
  · split <;> trivial
  split
  · rename_i h
    exact has_word? hQ h
  split
  · trivial
  rename_i hs
  split
  · rename_i h
    exact has_literal hQ hs h
  · trivial

theorem has_lexFrom (position k : Nat) (t : Text) :
    ∀ x ∈ lexFrom position k t, x.token.Has Q := by
  fun_induction lexFrom position k t with
  | case1 => simp
  | case2 position k c r ih => exact ih
  | case3 position c r h ih => exact ih
  | case4 position c r h token l hl ih =>
    rw [List.forall_mem_cons]
    refine ⟨?_, ih⟩
    have := has_piece hQ position c r
    rwa [hl] at this

end Pieces

/-! ## Reading -/

section Steps

variable {Q} {limit : Nat} {dialect : Dialect} {frames : List Frame} {x : Lexeme}
  {s : Due × List Frame}

theorem has_deepen {c : Container} {next : Due × List Frame} (h : Has Q next)
    (hs : deepen limit c frames next = .ok s) : Has Q s := by
  unfold deepen at hs
  split at hs
  · cases hs
    exact h
  · cases hs

theorem has_stepName {members : List (Text × Value)} (hm : ∀ m ∈ members, Q m.2)
    (hf : ∀ f ∈ frames, f.Has Q) (h : stepName members frames x = .ok s) : Has Q s := by
  unfold stepName at h
  split at h
  · cases h
    exact ⟨hm, hf⟩
  · cases h
  · cases h

variable (hQ : Inherited Q)

include hQ

theorem has_stepAfter {v : Value} (hv : Q v) (hf : ∀ f ∈ frames, f.Has Q)
    (h : stepAfter v frames x = .ok s) : Has Q s := by
  unfold stepAfter at h
  split at h
  · cases h
  · rename_i items outer
    have hi := List.forall_mem_cons.1 hf
    have hvs : ∀ w ∈ v :: items, Q w := List.forall_mem_cons.2 ⟨hv, hi.1⟩
    split at h
    · cases h
      exact ⟨trivial, List.forall_mem_cons.2 ⟨hvs, hi.2⟩⟩
    · cases h
      exact ⟨hQ.list _ fun w hw => hvs w (List.mem_reverse.1 hw), hi.2⟩
    · cases h
  · rename_i members key outer
    have hi := List.forall_mem_cons.1 hf
    have hms : ∀ m ∈ (key, v) :: members, Q m.2 := List.forall_mem_cons.2 ⟨hv, hi.1⟩
    split at h
    · cases h
      exact ⟨hms, hi.2⟩
    · cases h
      exact ⟨hQ.object _ fun m hm => hms m (List.mem_reverse.1 hm), hi.2⟩
    · cases h

theorem has_stepValue (hf : ∀ f ∈ frames, f.Has Q) (hx : x.token.Has Q)
    (h : stepValue limit dialect frames x = .ok s) : Has Q s := by
  unfold stepValue at h
  split at h
  · cases h
    exact ⟨hQ.text _, hf⟩
  · rename_i v hv
    cases h
    rw [hv] at hx
    exact ⟨hx, hf⟩
  · split at h
    · cases h
    · cases h
      exact ⟨hQ.float _, hf⟩
  · refine has_deepen ?_ h
    exact ⟨trivial, List.forall_mem_cons.2 ⟨by simp [Frame.Has], hf⟩⟩
  · refine has_deepen ?_ h
    exact ⟨trivial, hf⟩
  · cases h
  · cases h
  · cases h

theorem has_step {due : Due} (h : Has Q (due, frames)) (hx : x.token.Has Q)
    (hs : step limit dialect due frames x = .ok s) : Has Q s := by
  obtain ⟨hd, hf⟩ := h
  cases due with
  | value => exact has_stepValue hQ hf hx hs
  | firstItem =>
    simp only [step] at hs
    split at hs
    · cases hs
      exact ⟨hQ.list [] (by simp), (List.forall_mem_cons.1 hf).2⟩
    · exact has_stepValue hQ hf hx hs
  | firstName =>
    simp only [step] at hs
    split at hs
    · cases hs
      exact ⟨hQ.object [] (by simp), hf⟩
    · exact has_stepName (by simp) hf hs
  | name members => exact has_stepName hd hf hs
  | colon members key =>
    simp only [step] at hs
    split at hs
    · cases hs
      exact ⟨trivial, List.forall_mem_cons.2 ⟨hd, hf⟩⟩
    · cases hs
  | after v => exact has_stepAfter hQ hd hf hs

theorem has_run {stop : Nat} {due : Due} {xs : List Lexeme} {v : Value}
    (h : Has Q (due, frames)) (hx : ∀ x ∈ xs, x.token.Has Q)
    (hr : run limit dialect stop due frames xs = .ok v) : Q v := by
  induction xs generalizing due frames with
  | nil =>
    unfold run finish at hr
    cases due with
    | after w =>
      cases frames with
      | nil =>
        cases hr
        exact h.1
      | cons f fs => cases hr
    | value | firstItem | firstName | name _ | colon _ _ => cases hr
  | cons x xs ih =>
    rw [List.forall_mem_cons] at hx
    unfold run at hr
    cases hs : step limit dialect due frames x with
    | ok s =>
      rw [hs] at hr
      exact ih (has_step hQ h hx.1 hs) hx.2 hr
    | error e =>
      rw [hs] at hr
      cases hr

/-- **Every value that is read has the properties that containers inherit from JSON's scalars.** -/
theorem has_readTo {t : Text} {v : Value} (h : readTo limit dialect t = .ok v) : Q v := by
  unfold readTo at h
  split at h
  · cases h
  · refine has_run hQ ?_ (has_lexFrom hQ 0 0 t) h
    exact ⟨trivial, by simp⟩

end Steps

/-! ## Scalars -/

/-- No scalar that JSON has a notation for passes the test, but for integers that are too long. -/
structure Foreign (p : Value → Bool) : Prop where
  null : p .null = false
  bool : ∀ b, p (.bool b) = false
  int : ∀ n, isLong n = false → p (.int n) = false
  float : ∀ x, p (.float x) = false
  text : ∀ t, p (.text t) = false

theorem Foreign.inherited {p : Value → Bool} (hp : Foreign p) :
    Inherited fun v => v.somewhere p = false where
  null := by simpa [somewhere] using hp.null
  bool b := by simpa [somewhere] using hp.bool b
  int n hn := by simpa [somewhere] using hp.int n hn
  float x := by simpa [somewhere] using hp.float x
  text t := (somewhere_text p t).trans (hp.text t)
  list _ h := (somewhere_list_eq_false p).2 h
  object _ h := (somewhere_object_eq_false p).2
    (Members.mem_ofPairs (P := fun v : Value => v.somewhere p = false) h)

/-- No scalar in a value that is read passes a test that JSON has no notation for. -/
theorem somewhere_readTo {p : Value → Bool} (hp : Foreign p) {limit : Nat} {dialect : Dialect}
    {t : Text} {v : Value} (h : readTo limit dialect t = .ok v) : v.somewhere p = false :=
  has_readTo hp.inherited h

/-- A value that is read has no bytes. -/
theorem hasBytes_read {dialect : Dialect} {t : Text} {v : Value} (h : read dialect t = .ok v) :
    v.hasBytes = false :=
  somewhere_readTo ⟨rfl, fun _ => rfl, fun _ _ => rfl, fun _ => rfl, fun _ => rfl⟩ h

/-- The integers of a value that is read are short enough to be written out. -/
theorem hasLong_read {dialect : Dialect} {t : Text} {v : Value} (h : read dialect t = .ok v) :
    v.hasLong = false := by
  rw [hasLong_eq]
  refine somewhere_readTo ?_ h
  exact ⟨rfl, fun _ => rfl, fun _ h => h, fun _ => rfl, fun _ => rfl⟩

/-! ## Keys -/

/-- A value that is read has each key once in each of its objects. -/
theorem distinctKeys_read {dialect : Dialect} {t : Text} {v : Value} (h : read dialect t = .ok v) :
    v.DistinctKeys := by
  refine has_readTo ?_ h
  exact
    { null := .null
      bool := .bool
      int := fun n _ => .int n
      float := .float
      text := .text
      list := fun _ => .list
      object := fun ps hps => .object (Members.nodup_keys_ofPairs ps)
        (Members.mem_ofPairs (P := Value.DistinctKeys) hps) }

end Json

end DeltaBridge
