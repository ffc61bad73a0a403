import DeltaBridge.Text.Case

/-!
# Letters in either case

On the letters of ASCII the case mappings of Unicode are the usual ones. From beyond ASCII a few
characters are raised to letters of ASCII, but none of them is itself the upper case of anything.

* `lower_of_ascii`, `lower_ne_nil`: the lower case of a text;
* `raisedRanges`: the characters that are raised to others, of ASCII alone;
* **`upper_upper_eq_iff`**: a text of ASCII is the upper case of an upper case only if it is the
  upper case itself;
* `Text.SameLetters`: texts that differ in the case of letters, `sameLetters_of_ascii`.
-/

namespace DeltaBridge

/-! ## The mappings on ASCII -/

section Ascii

variable {table : List CaseShift} {c : Nat}

theorem shiftCase_of_lt {n : Nat} (h : ∀ s ∈ table, n ≤ s.first) (hc : c < n) :
    shiftCase table c = c := by
  have hnone : table.find? (·.covers c) = none := by
    refine List.find?_eq_none.2 fun s hs => ?_
    have hfirst := h s hs
    simp only [CaseShift.covers, Bool.and_eq_true, decide_eq_true_eq, not_and]
    omega
  rw [shiftCase, hnone]

theorem shiftCase_cons {s : CaseShift} (hstep : s.step = 1) (h : ∀ s ∈ table, 0x80 ≤ s.first)
    (hc : c < 0x80) :
    shiftCase (s :: table) c =
      if s.first ≤ c ∧ c ≤ s.last then (c + s.offset).toNat else c := by
  by_cases hs : s.first ≤ c ∧ c ≤ s.last
  · have hcover : s.covers c = true := by simp [CaseShift.covers, hs, hstep, Nat.mod_one]
    rw [if_pos hs, shiftCase, List.find?_cons_of_pos (p := fun r => CaseShift.covers r c) hcover]
  · have hcover : ¬s.covers c = true := by
      simp only [CaseShift.covers, Bool.and_eq_true, decide_eq_true_eq]
      exact fun h' => hs h'.1
    rw [if_neg hs, shiftCase, List.find?_cons_of_neg (p := fun r => CaseShift.covers r c) hcover,
      ← shiftCase]
    exact shiftCase_of_lt h hc

theorem shiftCase_lowerShifts (hc : c < 0x80) : shiftCase lowerShifts c = lowerAscii c := by
  have htail : ∀ s ∈ lowerShifts.tail, 0x80 ≤ s.first := by decide +kernel
  rw [show lowerShifts = ⟨0x41, 0x5A, 1, 32⟩ :: lowerShifts.tail from rfl,
    shiftCase_cons rfl htail hc, lowerAscii]
  rfl

theorem shiftCase_upperShifts (hc : c < 0x80) :
    shiftCase upperShifts c = if 0x61 ≤ c ∧ c ≤ 0x7A then c - 0x20 else c := by
  have htail : ∀ s ∈ upperShifts.tail, 0x80 ≤ s.first := by decide +kernel
  rw [show upperShifts = ⟨0x61, 0x7A, 1, -32⟩ :: upperShifts.tail from rfl,
    shiftCase_cons rfl htail hc]
  split
  · exact Int.toNat_sub c 32
  · rfl

theorem upperOf_of_ascii (hc : c < 0x80) :
    upperOf c = [if 0x61 ≤ c ∧ c ≤ 0x7A then c - 0x20 else c] := by
  have hkeys : ∀ e ∈ upperExpansions, 0x80 ≤ e.1 := by decide +kernel
  have hnone : upperExpansions.lookup c = none := by
    refine List.lookup_eq_none_iff.2 fun e he => ?_
    have hkey := hkeys e he
    have hne : c ≠ e.1 := by omega
    exact bne_iff_ne.2 hne
  rw [upperOf, hnone, shiftCase_upperShifts hc]

theorem upperOf_lowerAscii (c : Nat) : upperOf (lowerAscii c) = upperOf c := by
  by_cases h : 0x41 ≤ c ∧ c ≤ 0x5A
  · have hsmall : 0x61 ≤ c + 0x20 ∧ c + 0x20 ≤ 0x7A := by omega
    have hcapital : ¬(0x61 ≤ c ∧ c ≤ 0x7A) := by omega
    have hc : c + 0x20 < 0x80 ∧ c < 0x80 := by omega
    rw [lowerAscii, if_pos h, upperOf_of_ascii hc.1, upperOf_of_ascii hc.2, if_pos hsmall,
      if_neg hcapital, Nat.add_sub_cancel]
  · rw [lowerAscii, if_neg h]

end Ascii

/-! ## Lower case -/

namespace Text

variable {t : Text}

theorem lowerBetween_ne_nil (before : Text) (c : CodePoint) (after : Text) :
    lowerBetween before c after ≠ [] := by
  unfold lowerBetween
  split
  · split <;> simp
  · split <;> simp

/-- No character gets lost in lower case. -/
theorem lower_ne_nil (h : t ≠ []) : t.lower ≠ [] := by
  obtain ⟨c, t, rfl⟩ := List.exists_cons_of_ne_nil h
  simp [lower, lowerAfter, lowerBetween_ne_nil]

theorem lowerBetween_of_ascii {c : Nat} (hc : c < 0x80) (before after : Text) :
    lowerBetween before c after = [lowerAscii c] := by
  have hsigma : c ≠ capitalSigma := by show c ≠ 0x3A3; omega
  have hdotted : c ≠ 0x130 := by omega
  rw [lowerBetween, if_neg hsigma, if_neg hdotted, shiftCase_lowerShifts hc]

theorem lowerAfter_of_ascii (h : ∀ c ∈ t, c < 0x80) (before : Text) :
    lowerAfter before t = t.map lowerAscii := by
  induction t generalizing before with
  | nil => rfl
  | cons c t ih =>
    obtain ⟨hc, ht⟩ := List.forall_mem_cons.1 h
    rw [lowerAfter, lowerBetween_of_ascii hc, ih ht, List.map_cons, List.singleton_append]

/-- **The lower case of ASCII is that of its letters.** -/
theorem lower_of_ascii (h : ∀ c ∈ t, c < 0x80) : t.lower = t.map lowerAscii :=
  lowerAfter_of_ascii h []

end Text

/-! ## Upper case -/

/-- The characters that are raised to others, of ASCII alone: its small letters, the sharp and the
long s, the dotless i, and some ligatures. -/
def raisedRanges : List (Nat × Nat) :=
  [(0x61, 0x7A), (0xDF, 0xDF), (0x131, 0x131), (0x17F, 0x17F), (0xFB00, 0xFB06)]

section Raised

variable {c d : Nat}

theorem inRanges_raised_iff : inRanges raisedRanges d = true ↔
    ∃ r ∈ raisedRanges, r.1 ≤ d ∧ d ≤ r.2 := by
  simp [inRanges]

theorem exists_shift {table : List CaseShift} (h : shiftCase table c ≠ c) :
    ∃ s ∈ table, s.first ≤ c ∧ c ≤ s.last ∧ shiftCase table c = (c + s.offset).toNat := by
  unfold shiftCase at h ⊢
  split at h
  · next s hs =>
    have hcover := List.find?_some hs
    simp only [CaseShift.covers, Bool.and_eq_true, decide_eq_true_eq] at hcover
    exact ⟨s, List.mem_of_find?_eq_some hs, hcover.1.1, hcover.1.2, rfl⟩
  · exact absurd rfl h

theorem upperOf_cases (c : Nat) :
    (∃ e ∈ upperExpansions, e.1 = c ∧ upperOf c = e.2) ∨ upperOf c = [shiftCase upperShifts c] := by
  unfold upperOf
  split
  · next t ht =>
    obtain ⟨before, after, he, -⟩ := List.lookup_eq_some_iff.1 ht
    exact .inl ⟨(c, t), by rw [he]; simp, rfl, rfl⟩
  · exact .inr rfl

/-- Only the characters of these ranges are raised to others, of ASCII alone. -/
theorem eq_or_raised (h : ∀ x ∈ upperOf d, x < 0x80) :
    upperOf d = [d] ∨ inRanges raisedRanges d = true := by
  have hshifts : ∀ s ∈ upperShifts, 0x80 ≤ (s.first : Int) + s.offset ∨
      ∃ r ∈ raisedRanges, r.1 ≤ s.first ∧ s.last ≤ r.2 := by decide +kernel
  have hkeys : ∀ e ∈ upperExpansions, (∀ x ∈ e.2, x < 0x80) → inRanges raisedRanges e.1 = true := by
    decide +kernel
  rcases upperOf_cases d with ⟨e, he, rfl, hup⟩ | hup
  · exact .inr (hkeys e he (hup ▸ h))
  · by_cases hd : shiftCase upperShifts d = d
    · exact .inl (by rw [hup, hd])
    · obtain ⟨s, hs, hfirst, hlast, heq⟩ := exists_shift hd
      have hlt : ((d : Int) + s.offset).toNat < 0x80 :=
        heq ▸ h _ (by rw [hup]; exact List.mem_singleton_self _)
      rcases hshifts s hs with hge | ⟨r, hr, hr₁, hr₂⟩
      · omega
      · exact .inr (inRanges_raised_iff.2 ⟨r, hr, Nat.le_trans hr₁ hfirst, Nat.le_trans hlast hr₂⟩)

theorem not_raised_of_mem_upperOf (hd : d ∈ upperOf c) :
    upperOf d = [d] ∨ inRanges raisedRanges d = false := by
  have hshifts : ∀ s ∈ upperShifts, ∀ r ∈ raisedRanges,
      ((s.last : Int) + s.offset).toNat < r.1 ∨ r.2 < ((s.first : Int) + s.offset).toNat := by
    decide +kernel
  have htexts : ∀ e ∈ upperExpansions, ∀ x ∈ e.2, inRanges raisedRanges x = false := by
    decide +kernel
  rcases upperOf_cases c with ⟨e, he, rfl, hup⟩ | hup
  · exact .inr (htexts e he d (hup ▸ hd))
  · rw [hup, List.mem_singleton] at hd
    by_cases hc : shiftCase upperShifts c = c
    · exact .inl (by rw [hd, hc, hup, hc])
    · obtain ⟨s, hs, hfirst, hlast, heq⟩ := exists_shift hc
      have hmoved : d = ((c : Int) + s.offset).toNat := hd.trans heq
      refine .inr (Bool.eq_false_iff.2 fun h => ?_)
      obtain ⟨r, hr, hr₁, hr₂⟩ := inRanges_raised_iff.1 h
      rcases hshifts s hs r hr with hlt | hlt <;> omega

theorem upperOf_of_mem_upperOf (hd : d ∈ upperOf c) (h : ∀ x ∈ upperOf d, x < 0x80) :
    upperOf d = [d] := by
  rcases not_raised_of_mem_upperOf hd with hd | hd
  · exact hd
  · exact (eq_or_raised h).resolve_right (by simp [hd])

end Raised

namespace Text

variable {t u : Text}

theorem upper_eq_self (h : ∀ d ∈ t, upperOf d = [d]) : t.upper = t := by
  induction t with
  | nil => rfl
  | cons d t ih =>
    obtain ⟨hd, ht⟩ := List.forall_mem_cons.1 h
    rw [upper, List.flatMap_cons, hd, ← upper, ih ht, List.singleton_append]

/-- **A text of ASCII is the upper case of an upper case only if it is the upper case itself.** -/
theorem upper_upper_eq_iff (hu : ∀ c ∈ u, c < 0x80) : t.upper.upper = u ↔ t.upper = u := by
  have hself : (∀ c ∈ t.upper.upper, c < 0x80) → t.upper.upper = t.upper := fun h =>
    upper_eq_self fun d hd => by
      obtain ⟨c, -, hc⟩ := List.mem_flatMap.1 hd
      exact upperOf_of_mem_upperOf hc fun x hx => h x (List.mem_flatMap.2 ⟨d, hd, hx⟩)
  constructor
  · rintro rfl
    exact (hself hu).symm
  · rintro rfl
    refine upper_eq_self fun d hd => ?_
    obtain ⟨c, -, hc⟩ := List.mem_flatMap.1 hd
    rcases not_raised_of_mem_upperOf hc with h | h
    · exact h
    · have hsmall : ¬(0x61 ≤ d ∧ d ≤ 0x7A) := fun hr => by
        rw [inRanges_raised_iff.2 ⟨(0x61, 0x7A), List.mem_cons_self, hr⟩] at h
        cases h
      rw [upperOf_of_ascii (hu d hd), if_neg hsmall]

/-- The texts differ in the case of their letters at most. -/
def SameLetters (t u : Text) : Prop := t.upper = u.upper

theorem sameLetters_of_ascii (h : t.map lowerAscii = u.map lowerAscii) : SameLetters t u := by
  have hlower (v : Text) : upper (v.map lowerAscii) = v.upper := by
    rw [upper, List.flatMap_map]
    simp only [upperOf_lowerAscii]
    rfl
  rw [SameLetters, ← hlower t, h, hlower u]

end Text

end DeltaBridge
