import DeltaBridge.Proofs.Json.Parsing

/-!
# Texts beyond the limits

A reader goes to a limited depth and reads integers of limited length. What it gives up for that are
the texts in which it comes to a place that is too deep or to an integer that is too long.
Everything else that it does not read is malformed, or holds a number without a notation in JSON.

* `Json.Longer`: the texts in which a reader comes to an integer that is too long;
* **`Json.isLimit_readTo_iff`**: the texts that are given up for a limit;
  `Json.deeper_or_longer_iff_of_isText`: those of the grammar among them.
-/

namespace DeltaBridge.Json

/-- A value is due, and the piece is an integer that is too long. -/
def IsLong (s : Due × List Frame) (x : Lexeme) : Prop :=
  s.1.AwaitsValue ∧ ∃ n, x.token = .broken (.longInteger n)

/-- The text has an integer that is too long where a value is due, and can be read up to there. -/
def Longer (dialect : Dialect) (t : Text) : Prop :=
  t.head? ≠ some 0xFEFF ∧ ComesTo dialect (.value, []) (lex t) IsLong

/-! ## Single steps -/

section Steps

variable {dialect : Dialect} {x : Lexeme} {e : Error} {frames : List Frame} {v : Value}
  {members : List (Text × Value)}

theorem not_isLimit_stepName (h : stepName members frames x = .error e) : ¬e.IsLimit := by
  unfold stepName at h
  split at h
  · cases h
  · cases h
    exact id
  · cases h
    exact id

theorem not_isLimit_stepAfter (h : stepAfter v frames x = .error e) : ¬e.IsLimit := by
  unfold stepAfter at h
  split at h
  · cases h
    exact id
  all_goals split at h <;> cases h
  all_goals exact id

theorem exists_long_of_stepValue (hx : ∀ c, x.token ≠ .broken (.tooDeep c))
    (h : stepValue (frames.length + 1) dialect frames x = .error e) (he : e.IsLimit) :
    ∃ n, x.token = .broken (.longInteger n) := by
  unfold stepValue at h
  split at h
  case h_6 e' ht =>
    cases h
    cases e with
    | longInteger n => exact ⟨n, ht⟩
    | tooDeep c => exact absurd ht (hx c)
    | malformed _ | constant _ => exact he.elim
  case h_3 =>
    split at h <;> cases h
    exact he.elim
  case h_4 | h_5 =>
    rw [deepen_of_lt (Nat.lt_succ_self _)] at h
    cases h
  all_goals cases h <;> exact he.elim

theorem isLimit_stepFreely_iff (dialect : Dialect) (s : Due × List Frame)
    (hx : ∀ c, x.token ≠ .broken (.tooDeep c)) :
    (∃ e, stepFreely dialect s x = .error e ∧ e.IsLimit) ↔ IsLong s x := by
  constructor
  · rintro ⟨e, h, he⟩
    obtain ⟨due, frames⟩ := s
    cases due with
    | value => exact ⟨trivial, exists_long_of_stepValue hx h he⟩
    | firstItem =>
      simp only [stepFreely, step] at h
      split at h
      · cases h
      · exact ⟨trivial, exists_long_of_stepValue hx h he⟩
    | firstName =>
      simp only [stepFreely, step] at h
      split at h
      · cases h
      · exact absurd he (not_isLimit_stepName h)
    | name members => exact absurd he (not_isLimit_stepName h)
    | colon members key =>
      simp only [stepFreely, step] at h
      split at h <;> cases h
      exact he.elim
    | after v => exact absurd he (not_isLimit_stepAfter h)
  · rintro ⟨hd, n, hn⟩
    refine ⟨.longInteger n, ?_, trivial⟩
    rw [stepFreely, step_of_awaitsValue hd (by simp [hn]), stepValue, hn]

end Steps

/-! ## Whole texts -/

section Texts

variable {limit : Nat} {dialect : Dialect} {t : Text} {x : Tree}

theorem not_isLimit_finish {stop : Nat} {due : Due} {frames : List Frame} {e : Error}
    (h : finish stop due frames = .error e) : ¬e.IsLimit := by
  cases due with
  | after v => cases frames <;> cases h; exact id
  | _ => cases h; exact id

/-- A reader gives up exactly if it comes to a place that is too deep, or to an integer that is too
long. -/
theorem isLimit_run_iff {stop : Nat} {s : Due × List Frame} {xs : List Lexeme}
    (hx : ∀ c, ∀ x ∈ xs, x.token ≠ .broken (.tooDeep c)) :
    (∃ e, run limit dialect stop s.1 s.2 xs = .error e ∧ e.IsLimit) ↔
      OpensWithin limit dialect s xs ∨ ComesTo dialect s xs IsLong := by
  induction xs generalizing s with
  | nil =>
    refine iff_of_false ?_ (not_or.2 ⟨not_comesTo_nil, not_comesTo_nil⟩)
    rintro ⟨e, h, he⟩
    exact not_isLimit_finish h he
  | cons x xs ih =>
    rw [opensWithin_cons, comesTo_cons]
    by_cases h : Opens s x ∧ limit ≤ s.2.length
    · obtain ⟨c, hc⟩ : ∃ c, step limit dialect s.1 s.2 x = .error (.tooDeep c) :=
        step_of_opens h.1 h.2
      exact iff_of_true ⟨.tooDeep c, by rw [run, hc], trivial⟩ (.inl (.inl h))
    · rw [or_iff_right h, run, step_of_not_opens h]
      have hlong := isLimit_stepFreely_iff dialect s fun c => hx c x List.mem_cons_self
      cases hs : stepFreely dialect s x with
      | ok s' =>
        rw [hs] at hlong
        have hnot : ¬IsLong s x := fun hl => by
          obtain ⟨e, he, -⟩ := hlong.2 hl
          cases he
        rw [or_iff_right hnot]
        simpa using ih fun c y hy => hx c y (List.mem_cons_of_mem x hy)
      | error e =>
        rw [hs] at hlong
        simpa using hlong

/-- **A text is given up for a limit exactly if it is deeper than the reader goes, or has an integer
that is longer.** -/
theorem isLimit_readTo_iff :
    (∃ e, readTo limit dialect t = .error e ∧ e.IsLimit) ↔
      Deeper limit dialect t ∨ Longer dialect t := by
  unfold readTo Deeper Longer
  split
  · rename_i h
    refine iff_of_false ?_ (by simp [h])
    rintro ⟨e, he, hl⟩
    cases he
    exact hl
  · rename_i h
    rw [and_iff_right h, and_iff_right h]
    exact isLimit_run_iff (s := (.value, [])) fun c => lexFrom_ne_tooDeep c 0 0 t

/-- A text of the grammar is given up for a limit exactly if its tree is not within the limits. -/
theorem deeper_or_longer_iff_of_isText (h : IsText x t) :
    Deeper limit .lenient t ∨ Longer .lenient t ↔ ¬x.Fits limit .lenient := by
  rw [← isLimit_readTo_iff]
  rcases readTo_of_isText limit .lenient h with ⟨hf, hok⟩ | ⟨hf, e, he, hl | ⟨hd, -⟩⟩
  · refine iff_of_false ?_ (not_not.2 hf)
    rintro ⟨e, he, -⟩
    cases hok.symm.trans he
  · exact iff_of_true ⟨e, he, hl⟩ hf
  · cases hd

end Texts

end DeltaBridge.Json
