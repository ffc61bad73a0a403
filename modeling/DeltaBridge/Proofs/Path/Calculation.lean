import DeltaBridge.Path.Search

/-!
# Where arithmetic stops

Integers are combined as integers and doubles as doubles. An integer that meets a double becomes a
double, and some integers are beyond the doubles: there, and nowhere else, arithmetic stops.

* `Calculation.Oversized`: such a pair of values;
* **`Calculation.apply_eq_error_iff`**: the operation on a pair;
* `Calculation.onPairs_eq_error_iff`: the operation on several pairs.
-/

namespace DeltaBridge

namespace Calculation

/-- An integer beyond the doubles is to be combined with a double. -/
def Oversized : Value → Value → Prop
  | .int n, .float _ | .float _, .int n => (Float.ofInt n).isFinite = false
  | _, _ => False

theorem isFinite_ofBool (b : Bool) : (Float.ofInt (if b then 1 else 0)).isFinite = true := by
  cases b <;> decide +kernel

theorem float?_bool (b : Bool) : ∃ x, float? (.bool b) = .ok (some x) :=
  ⟨_, if_pos (isFinite_ofBool b)⟩

theorem float?_eq_error_iff {v : Value} {e : SearchError} :
    float? v = .error e ↔
      e = .integerTooLarge ∧ ∃ n, v = .int n ∧ (Float.ofInt n).isFinite = false := by
  cases v with
  | int n =>
    have hn : float? (.int n) =
        if (Float.ofInt n).isFinite then .ok (some (Float.ofInt n))
        else .error .integerTooLarge := rfl
    rw [hn]
    cases hf : (Float.ofInt n).isFinite with
    | true =>
      refine iff_of_false (by simp) ?_
      rintro ⟨_, m, hm, hn⟩
      cases hm
      rw [hf] at hn
      cases hn
    | false => exact ⟨fun h => ⟨(Except.error.inj h).symm, n, rfl, hf⟩, fun h => by rw [h.1]; rfl⟩
  | bool b =>
    obtain ⟨x, hx⟩ := float?_bool b
    rw [hx]
    simp
  | null | float _ | text _ | bytes _ | list _ | object _ => simp [float?, integer?]

theorem integer?_eq_none_of_number {v : Value} (h : isNumber v = true) (hv : integer? v = none) :
    ∃ x, v = .float x := by
  cases v with
  | float x => exact ⟨x, rfl⟩
  | int _ | bool _ => cases hv
  | null | text _ | bytes _ | list _ | object _ => cases h

theorem apply_of_float (op : Calculation) {v w : Value} (hv : isNumber v = true)
    (hw : isNumber w = true) (h : integer? v = none ∨ integer? w = none) :
    op.apply v w = (do
      let a ← float? v
      let b ← float? w
      return a.bind fun x => b.map fun y => .float (op.onFloats x y)) := by
  rcases h with h | h
  · obtain ⟨x, rfl⟩ := integer?_eq_none_of_number hv h
    cases w with
    | bool _ | int _ | float _ => cases op <;> rfl
    | null | text _ | bytes _ | list _ | object _ => cases hw
  · obtain ⟨x, rfl⟩ := integer?_eq_none_of_number hw h
    cases v with
    | bool _ | int _ | float _ => cases op <;> rfl
    | null | text _ | bytes _ | list _ | object _ => cases hv

theorem isNumber_of_apply {op : Calculation} {v w : Value} {e : SearchError}
    (h : op.apply v w = .error e) :
    isNumber v = true ∧ isNumber w = true ∧ (integer? v = none ∨ integer? w = none) := by
  unfold apply at h
  split at h
  · cases h
  · cases h
  · split at h
    · cases h
    · rename_i hi
      split at h
      iterate 4 cases h
      split at h
      · rename_i hn
        rw [Bool.and_eq_true] at hn
        refine ⟨hn.1, hn.2, Classical.byContradiction fun hne => ?_⟩
        obtain ⟨hv, hw⟩ := not_or.1 hne
        obtain ⟨m, hm⟩ := Option.ne_none_iff_exists'.1 hv
        obtain ⟨k, hk⟩ := Option.ne_none_iff_exists'.1 hw
        exact hi m k hm hk
      · cases h

/-- **Arithmetic stops only where an integer beyond the doubles meets a double.** -/
theorem apply_eq_error_iff {op : Calculation} {v w : Value} {e : SearchError} :
    op.apply v w = .error e ↔ e = .integerTooLarge ∧ Oversized v w := by
  constructor
  · intro h
    obtain ⟨hv, hw, hi⟩ := isNumber_of_apply h
    rw [apply_of_float op hv hw hi] at h
    cases hfv : float? v with
    | error e' =>
      rw [hfv] at h
      obtain ⟨rfl, n, rfl, hn⟩ := float?_eq_error_iff.1 hfv
      obtain ⟨x, rfl⟩ := integer?_eq_none_of_number hw (hi.resolve_left (by simp [integer?]))
      cases h
      exact ⟨rfl, hn⟩
    | ok a =>
      cases hfw : float? w with
      | error e' =>
        rw [hfv, hfw] at h
        obtain ⟨rfl, n, rfl, hn⟩ := float?_eq_error_iff.1 hfw
        obtain ⟨x, rfl⟩ := integer?_eq_none_of_number hv (hi.resolve_right (by simp [integer?]))
        cases h
        exact ⟨rfl, hn⟩
      | ok b =>
        rw [hfv, hfw] at h
        cases h
  · rintro ⟨rfl, h⟩
    unfold Oversized at h
    split at h
    · rename_i n x
      rw [apply_of_float op rfl rfl (.inr rfl), float?_eq_error_iff.2 ⟨rfl, n, rfl, h⟩]
      rfl
    · rename_i x n
      rw [apply_of_float op rfl rfl (.inl rfl), float?_eq_error_iff.2 ⟨rfl, n, rfl, h⟩]
      rfl
    · exact h.elim

/-- Of several pairs, the first that cannot be combined stops it, after pairs that can. -/
theorem onPairs_eq_error_iff {op : Calculation} {ps : List (Value × Value)} {e : SearchError} :
    op.onPairs ps = .error e ↔ ∃ before v w after, ps = before ++ (v, w) :: after ∧
      (∀ q ∈ before, ∃ x, op.apply q.1 q.2 = .ok (some x)) ∧ op.apply v w = .error e := by
  induction ps with
  | nil => simp [onPairs]
  | cons q ps ih =>
    obtain ⟨v, w⟩ := q
    constructor
    · intro h
      unfold onPairs at h
      split at h
      · rename_i e' he
        cases h
        exact ⟨[], v, w, ps, rfl, by simp, he⟩
      · cases h
      · rename_i x hx
        have hps : op.onPairs ps = .error e := by
          cases hr : op.onPairs ps with
          | error e' => rw [hr] at h; cases h; rfl
          | ok r => rw [hr] at h; cases h
        obtain ⟨before, v', w', after, rfl, hb, he⟩ := ih.1 hps
        exact ⟨(v, w) :: before, v', w', after, rfl, List.forall_mem_cons.2 ⟨⟨x, hx⟩, hb⟩, he⟩
    · rintro ⟨before, v', w', after, hps, hb, he⟩
      unfold onPairs
      cases before with
      | nil =>
        obtain ⟨rfl, rfl⟩ : v = v' ∧ w = w' := by simpa using congrArg List.head? hps
        rw [he]
      | cons q before =>
        obtain ⟨rfl, rfl⟩ := List.cons.inj hps
        obtain ⟨⟨x, hx⟩, hb⟩ := List.forall_mem_cons.1 hb
        rw [hx]
        simp only
        rw [ih.2 ⟨before, v', w', after, rfl, hb, he⟩]
        rfl

end Calculation

end DeltaBridge
