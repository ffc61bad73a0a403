import DeltaBridge.Path.Parser
import DeltaBridge.Proofs.Value.Scalars

/-!
# The literals of paths

A path that is written as a text computes only with numbers and texts: none of its operands is a
literal with bytes.

* `Path.isPlain`, `Operand.isPlain`: the literals that results are computed from;
* **`Path.isPlain_parse`**: those of a path that was parsed.
-/

namespace DeltaBridge

open Value

mutual

/-- No result that the path computes has a literal with bytes as an operand. -/
def Path.isPlain : Path → Bool
  | .child p q | .descend p q | .union p q | .intersect p q | .having p q | .lacking p q =>
    p.isPlain && q.isPlain
  | .compute _ a b => a.isPlain && b.isPlain
  | _ => true

/-- The operand is no literal with bytes, nor computed from one. -/
def Operand.isPlain : Operand → Bool
  | .literal v => !v.hasBytes
  | .path p => p.isPlain

end

namespace Path

theorem isPlain_ofPath {p : Path} (h : p.isPlain = true) : (Operand.ofPath p).isPlain = true := by
  unfold Operand.ofPath
  split
  · rfl
  · exact h

theorem isPlain_apply {op : BinaryOp} {p q : Path} (hp : p.isPlain = true) (hq : q.isPlain = true) :
    (op.apply p q).isPlain = true := by
  cases op <;> simp [BinaryOp.apply, isPlain, hp, hq]

theorem isPlain_close {k : Nat} {pending : List (Path × BinaryOp)} {p : Path}
    (h : ∀ x ∈ pending, x.1.isPlain = true) (hp : p.isPlain = true) :
    (∀ x ∈ (close k pending p).1, x.1.isPlain = true) ∧ (close k pending p).2.isPlain = true := by
  fun_induction close k pending p with
  | case1 p => exact ⟨h, hp⟩
  | case2 l op pending p hk ih =>
    rw [List.forall_mem_cons] at h
    exact ih h.2 (isPlain_apply h.1 hp)
  | case3 l op pending p hk => exact ⟨h, hp⟩

theorem isPlain_closeAll {pending : List (Path × BinaryOp)} {p : Path}
    (h : ∀ x ∈ pending, x.1.isPlain = true) (hp : p.isPlain = true) :
    (closeAll pending p).isPlain = true := (isPlain_close h hp).2

theorem refuse_ne_ok {α : Type} {ts : List Token} {s : α × List Token} : refuse ts ≠ .ok s := by
  intro h
  cases h

theorem isPlain_sliceStep {ts : List Token} {s : Path × List Token} (h : sliceStep ts = .ok s) :
    s.1.isPlain = true := by
  unfold sliceStep at h
  dsimp only at h
  split at h
  · split at h
    · cases h
      rfl
    · split at h
      · cases h
        rfl
      · exact absurd h refuse_ne_ok
    · exact absurd h refuse_ne_ok
  · exact absurd h refuse_ne_ok

theorem isPlain_bracketStep {ts : List Token} {s : Path × List Token} (h : bracketStep ts = .ok s) :
    s.1.isPlain = true := by
  unfold bracketStep at h
  split at h
  · cases h
    rfl
  · split at h
    · cases h
      rfl
    · exact absurd h refuse_ne_ok
  · split at h
    · cases h
      rfl
    · exact absurd h refuse_ne_ok
  · split at h
    · cases h
      rfl
    · exact isPlain_sliceStep h
  · exact isPlain_sliceStep h

theorem hasBytes_value? {kind : NumberKind} {t : Token} {v : Value} (h : kind.value? t = some v) :
    v.hasBytes = false := by
  unfold NumberKind.value? at h
  split at h
  · cases h
    rfl
  · cases h
    rfl
  · cases h
    rfl
  · cases h
    rfl
  · cases h

theorem hasBytes_lastNumber? {kind : NumberKind} {ts : List Token} {s : Value × List Token}
    (h : lastNumber? kind ts = some s) : s.1.hasBytes = false := by
  unfold lastNumber? at h
  split at h
  · split at h
    · cases h
    · obtain ⟨v, hv, rfl⟩ := Option.map_eq_some_iff.1 h
      exact hasBytes_value? hv
  · cases h

theorem isPlain_operatorStep? {t : Text} {p : Path} (h : operatorStep? t = some p) :
    p.isPlain = true := by
  unfold operatorStep? at h
  split at h
  · cases h
    rfl
  split at h
  · cases h
    rfl
  split at h
  · cases h
    rfl
  split at h
  · cases h
    rfl
  · cases h

/-- What the parsers that make paths return with the given bound. -/
structure PlainAt (k : Nat) : Prop where
  link : ∀ ts s, link k ts = .ok s → s.1.isPlain = true
  operation : ∀ kind a ts s, a.isPlain = true → operation k kind a ts = .ok s → s.1.isPlain = true
  chain : ∀ pending p ts s, (∀ x ∈ pending, x.1.isPlain = true) → p.isPlain = true →
    chain k pending p ts = .ok s → s.1.isPlain = true
  expression : ∀ ts s, expression k ts = .ok s → s.1.isPlain = true

namespace PlainAt

variable {k : Nat} (ih : PlainAt k)
include ih

theorem succ_operation {kind : NumberKind} {a : Operand} {ts : List Token} {s : Path × List Token}
    (ha : a.isPlain = true) (h : Path.operation (k + 1) kind a ts = .ok s) :
    s.1.isPlain = true := by
  unfold Path.operation at h
  split at h
  · split at h
    · split at h
      · rename_i hv
        cases h
        have := hasBytes_lastNumber? hv
        simp [isPlain, Operand.isPlain, ha, this]
      · split at h
        · rename_i hq
          cases h
          have := isPlain_ofPath (ih.expression _ _ hq)
          simp [isPlain, ha, this]
        · cases h
    · exact absurd h refuse_ne_ok
  · exact absurd h refuse_ne_ok

theorem succ_link {ts : List Token} {s : Path × List Token} (h : Path.link (k + 1) ts = .ok s) :
    s.1.isPlain = true := by
  unfold Path.link at h
  split at h
  · cases h
    rfl
  · cases h
    rfl
  · cases h
    rfl
  · cases h
    rfl
  · cases h
    rfl
  · split at h
    · exact ih.operation _ _ _ _ rfl h
    · cases h
      rfl
  · exact ih.operation _ _ _ _ rfl h
  · split at h
    · rename_i hp
      cases h
      exact isPlain_operatorStep? hp
    · exact absurd h refuse_ne_ok
  · exact isPlain_bracketStep h
  · split at h
    · rename_i hp
      cases h
      have := ih.expression _ _ hp
      exact this
    · exact absurd h refuse_ne_ok
    · cases h
  · exact absurd h refuse_ne_ok

theorem succ_chain {pending : List (Path × BinaryOp)} {p : Path} {ts : List Token}
    {s : Path × List Token} (hpend : ∀ x ∈ pending, x.1.isPlain = true) (hp : p.isPlain = true)
    (h : Path.chain (k + 1) pending p ts = .ok s) : s.1.isPlain = true := by
  have hclosed := isPlain_closeAll hpend hp
  have hnone : ∀ x ∈ ([] : List (Path × BinaryOp)), x.1.isPlain = true := by simp
  unfold Path.chain at h
  split at h
  · split at h
    · exact ih.chain _ _ _ _ hnone (by simp [isPlain, hclosed]) h
    · cases h
  · split at h
    · exact ih.chain _ _ _ _ hnone (by simp [isPlain, hclosed]) h
    · cases h
  · split at h
    · rename_i hq
      have := isPlain_bracketStep hq
      exact ih.chain _ _ _ _ hnone (by simp [isPlain, hclosed, this]) h
    · cases h
  · split at h
    · rename_i op _
      obtain ⟨h₁, h₂⟩ := isPlain_close (k := op.strength) hpend hp
      dsimp only at h
      split at h
      · rename_i hq
        exact ih.chain _ _ _ _ (List.forall_mem_cons.2 ⟨h₂, h₁⟩) (ih.link _ _ hq) h
      · cases h
    · split at h
      · split at h
        · rename_i hq
          exact ih.chain _ _ _ _ hnone (ih.operation _ _ _ _ (isPlain_ofPath hclosed) hq) h
        · cases h
      · cases h
        exact hclosed
  · cases h
    exact hclosed

theorem succ_expression {ts : List Token} {s : Path × List Token}
    (h : Path.expression (k + 1) ts = .ok s) :
    s.1.isPlain = true := by
  unfold Path.expression at h
  split at h
  · rename_i hp
    exact ih.chain _ _ _ _ (by simp) (ih.link _ _ hp) h
  · cases h

end PlainAt

theorem plainAt (k : Nat) : PlainAt k := by
  induction k with
  | zero =>
    exact ⟨fun _ _ h => absurd h refuse_ne_ok, fun _ _ _ _ _ h => absurd h refuse_ne_ok,
      fun _ _ _ _ _ _ h => absurd h refuse_ne_ok, fun _ _ h => absurd h refuse_ne_ok⟩
  | succ k ih =>
    exact ⟨fun _ _ => ih.succ_link, fun _ _ _ _ => ih.succ_operation, fun _ _ _ _ => ih.succ_chain,
      fun _ _ => ih.succ_expression⟩

/-- **A path that was parsed computes with plain literals only.** -/
theorem isPlain_parse {t : Text} {p : Path} (h : parse t = .ok p) : p.isPlain = true := by
  unfold parse at h
  split at h
  · cases h
  · unfold ofTokens at h
    split at h
    · cases h
      rename_i he
      exact (plainAt _).expression _ _ he
    · cases h
    · cases h

end Path

end DeltaBridge
