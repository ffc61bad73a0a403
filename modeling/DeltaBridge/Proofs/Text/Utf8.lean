import DeltaBridge.Text.Utf8

/-!
# Texts in bytes

The bytes of a text are read as the text, strictly or with replacements: no fault is found in them.
That needs characters that have bytes, so no lone surrogates. Other bytes than those of a text are
not read strictly.

* `Utf8.IsScalar`, `Utf8.IsEncodable`: characters and texts that have bytes;
* `Utf8.next_encodeChar`: the bytes of a character are read as the character;
* **`Utf8.decode_encode`**, **`Utf8.decodeLossy_encode`**: those of a text are read as the text;
* `Utf8.next_spec`, **`Utf8.decode_eq_ok_iff`**: what is read strictly are the bytes of a text.
-/

namespace DeltaBridge.Utf8

/-- A code point that is no surrogate. -/
def IsScalar (c : Nat) : Prop := c < 0x110000 ∧ ¬ (0xD800 ≤ c ∧ c ≤ 0xDFFF)

/-- The text has no surrogates. -/
def IsEncodable (t : Text) : Prop := ∀ c ∈ t, IsScalar c

theorem isScalar_of_ascii {c : Nat} (h : c < 0x80) : IsScalar c := ⟨by omega, by omega⟩

theorem isEncodable_of_ascii {t : Text} (h : ∀ c ∈ t, c < 0x80) : IsEncodable t :=
  fun c hc => isScalar_of_ascii (h c hc)

/-! ## Single characters -/

section Characters

variable {c : Nat} {r : Bytes}

theorem tails_zero {acc low high : Nat} (h : acc = c) : tails acc 0 low high r = .ok c := by
  unfold tails
  rw [h]

theorem tails_cons {acc n low high b : Nat} (hl : low ≤ b) (hh : b ≤ high)
    (h : tails (acc * 64 + (b - 0x80)) n 0x80 0xBF r = .ok c) :
    tails acc (n + 1) low high (b :: r) = .ok c := by
  rw [tails, if_pos ⟨hl, hh⟩, h]

theorem tails_bits {acc n x : Nat} (h : tails (acc * 64 + x % 64) n 0x80 0xBF r = .ok c) :
    tails acc (n + 1) 0x80 0xBF ((0x80 + x % 64) :: r) = .ok c := by
  refine tails_cons (by omega) (by omega) ?_
  rwa [Nat.add_sub_cancel_left]

theorem next_of_lead {b bits n low high : Nat} (hb : ¬ b < 0x80)
    (hl : lead? b = some ⟨bits, n, low, high⟩) (h : tails bits n low high r = .ok c) :
    next b r = .ok (c, n) := by
  rw [next, if_neg hb, hl]
  simp only [h, Except.map]

theorem lead?_two (hl : 0x80 ≤ c) (hh : c < 0x800) :
    lead? (0xC0 + c / 64) = some ⟨c / 64, 1, 0x80, 0xBF⟩ := by
  rw [lead?, if_pos ⟨by omega, by omega⟩, Nat.add_sub_cancel_left]

/-- The second byte of three is in the range of the first one: the sequence is no longer than it
has to be, and the character is no surrogate. -/
theorem exists_lead?_three (hl : 0x800 ≤ c) (hh : c < 0x10000) (hs : IsScalar c) :
    ∃ low high, lead? (0xE0 + c / 4096) = some ⟨c / 4096, 2, low, high⟩ ∧
      low ≤ 0x80 + c / 64 % 64 ∧ 0x80 + c / 64 % 64 ≤ high := by
  obtain ⟨_, hs⟩ := hs
  unfold lead?
  rw [if_neg (by omega)]
  by_cases h0 : c / 4096 = 0
  · rw [if_pos (by omega), h0]
    exact ⟨0xA0, 0xBF, rfl, by omega, by omega⟩
  rw [if_neg (by omega)]
  by_cases h13 : c / 4096 = 13
  · rw [if_pos (by omega), h13]
    exact ⟨0x80, 0x9F, rfl, by omega, by omega⟩
  rw [if_neg (by omega), if_pos (by omega), Nat.add_sub_cancel_left]
  exact ⟨0x80, 0xBF, rfl, by omega, by omega⟩

/-- So it is with the second byte of four: the character is a code point. -/
theorem exists_lead?_four (hl : 0x10000 ≤ c) (hh : c < 0x110000) :
    ∃ low high, lead? (0xF0 + c / 262144) = some ⟨c / 262144, 3, low, high⟩ ∧
      low ≤ 0x80 + c / 4096 % 64 ∧ 0x80 + c / 4096 % 64 ≤ high := by
  unfold lead?
  rw [if_neg (by omega), if_neg (by omega), if_neg (by omega), if_neg (by omega)]
  by_cases h0 : c / 262144 = 0
  · rw [if_pos (by omega), h0]
    exact ⟨0x90, 0xBF, rfl, by omega, by omega⟩
  rw [if_neg (by omega)]
  by_cases h4 : c / 262144 = 4
  · rw [if_neg (by omega), if_pos (by omega), h4]
    exact ⟨0x80, 0x8F, rfl, by omega, by omega⟩
  rw [if_pos (by omega), Nat.add_sub_cancel_left]
  exact ⟨0x80, 0xBF, rfl, by omega, by omega⟩

/-- The bytes of a character are read as the character. -/
theorem next_encodeChar (hc : IsScalar c) (r : Bytes) :
    ∃ b bs, encodeChar c = b :: bs ∧ next b (bs ++ r) = .ok (c, bs.length) := by
  unfold encodeChar
  by_cases h₁ : c < 0x80
  · rw [if_pos h₁]
    exact ⟨c, [], rfl, if_pos h₁⟩
  rw [if_neg h₁]
  by_cases h₂ : c < 0x800
  · rw [if_pos h₂]
    refine ⟨_, _, rfl, next_of_lead (by omega) (lead?_two (by omega) h₂) (tails_bits (tails_zero ?_))⟩
    omega
  rw [if_neg h₂]
  by_cases h₃ : c < 0x10000
  · rw [if_pos h₃]
    obtain ⟨low, high, hlead, hl, hh⟩ := exists_lead?_three (by omega) h₃ hc
    refine ⟨_, _, rfl, next_of_lead (by omega) hlead (tails_cons hl hh
      (tails_bits (tails_zero ?_)))⟩
    omega
  · rw [if_neg h₃]
    obtain ⟨low, high, hlead, hl, hh⟩ := exists_lead?_four (by omega) hc.1
    refine ⟨_, _, rfl, next_of_lead (by omega) hlead
      (tails_cons hl hh (tails_bits (tails_bits (tails_zero ?_))))⟩
    omega

end Characters

/-! ## Texts -/

theorem decodeFrom_skip (p : Nat) (bs r : Bytes) :
    decodeFrom p bs.length (bs ++ r) = decodeFrom (p + bs.length) 0 r := by
  induction bs generalizing p with
  | nil => rfl
  | cons b bs ih =>
    rw [List.length_cons, List.cons_append, decodeFrom, ih]
    congr 1
    omega

theorem decodeFrom_encode {t : Text} (ht : IsEncodable t) (p : Nat) :
    decodeFrom p 0 (encode t) = .ok t := by
  induction t generalizing p with
  | nil => rfl
  | cons c t ih =>
    obtain ⟨hc, ht⟩ := List.forall_mem_cons.1 ht
    obtain ⟨b, bs, hb, hnext⟩ := next_encodeChar hc (encode t)
    show decodeFrom p 0 (encodeChar c ++ encode t) = _
    rw [hb, List.cons_append, decodeFrom, hnext]
    simp only
    rw [decodeFrom_skip, ih ht]
    rfl

/-- **The bytes of a text are read as the text.** -/
theorem decode_encode {t : Text} (ht : IsEncodable t) : decode (encode t) = .ok t :=
  decodeFrom_encode ht 0

theorem decodeLossyFrom_skip (bs r : Bytes) :
    decodeLossyFrom bs.length (bs ++ r) = decodeLossyFrom 0 r := by
  induction bs with
  | nil => rfl
  | cons b bs ih => rw [List.length_cons, List.cons_append, decodeLossyFrom, ih]

/-- **They are read so with replacements, too**: there is nothing to replace. -/
theorem decodeLossy_encode {t : Text} (ht : IsEncodable t) : decodeLossy (encode t) = t := by
  unfold decodeLossy
  induction t with
  | nil => rfl
  | cons c t ih =>
    obtain ⟨hc, ht⟩ := List.forall_mem_cons.1 ht
    obtain ⟨b, bs, hb, hnext⟩ := next_encodeChar hc (encode t)
    show decodeLossyFrom 0 (encodeChar c ++ encode t) = _
    rw [hb, List.cons_append, decodeLossyFrom, hnext]
    simp only
    rw [decodeLossyFrom_skip, ih ht]

/-! ## Bytes that are read -/

section Reading

variable {b c : Nat} {r : Bytes}

theorem tails_succ {acc n low high : Nat} (h : tails acc (n + 1) low high r = .ok c) :
    ∃ d r', r = d :: r' ∧ low ≤ d ∧ d ≤ high ∧
      tails (acc * 64 + (d - 0x80)) n 0x80 0xBF r' = .ok c := by
  cases r with
  | nil => cases h
  | cons d r =>
    rw [tails] at h
    split at h
    · rename_i hd
      refine ⟨d, r, rfl, hd.1, hd.2, ?_⟩
      split at h
      · rename_i x hx
        rw [hx]
        exact h
      · cases h
    · cases h

theorem encodeChar_two {x y : Nat} (hc : c = x * 64 + y) (hy : y < 64) (hl : 0x80 ≤ c)
    (hh : c < 0x800) : encodeChar c = [0xC0 + x, 0x80 + y] := by
  have h₁ : ¬c < 0x80 := by omega
  rw [encodeChar, if_neg h₁, if_pos hh]
  simp only [List.cons.injEq, and_true]
  omega

theorem encodeChar_three {x y z : Nat} (hc : c = (x * 64 + y) * 64 + z) (hy : y < 64) (hz : z < 64)
    (hl : 0x800 ≤ c) (hh : c < 0x10000) : encodeChar c = [0xE0 + x, 0x80 + y, 0x80 + z] := by
  have h₁ : ¬c < 0x80 := by omega
  have h₂ : ¬c < 0x800 := by omega
  rw [encodeChar, if_neg h₁, if_neg h₂, if_pos hh]
  simp only [List.cons.injEq, and_true]
  omega

theorem encodeChar_four {w x y z : Nat} (hc : c = ((w * 64 + x) * 64 + y) * 64 + z) (hx : x < 64)
    (hy : y < 64) (hz : z < 64) (hl : 0x10000 ≤ c) :
    encodeChar c = [0xF0 + w, 0x80 + x, 0x80 + y, 0x80 + z] := by
  have h₁ : ¬c < 0x80 := by omega
  have h₂ : ¬c < 0x800 := by omega
  have h₃ : ¬c < 0x10000 := by omega
  rw [encodeChar, if_neg h₁, if_neg h₂, if_neg h₃]
  simp only [List.cons.injEq, and_true]
  omega

/-- The bytes start with those of a character, which has as many as that after its first one. -/
def Starts (b : Nat) (r : Bytes) (c n : Nat) : Prop :=
  IsScalar c ∧ ∃ bs r', r = bs ++ r' ∧ bs.length = n ∧ encodeChar c = b :: bs

theorem eq_of_tails_zero {acc low high : Nat} (h : tails acc 0 low high r = .ok c) : c = acc := by
  rw [tails] at h
  exact (Except.ok.inj h).symm

theorem starts_two {x : Nat} (hx : 2 ≤ x ∧ x < 32) (h : tails x 1 0x80 0xBF r = .ok c) :
    Starts (0xC0 + x) r c 1 := by
  obtain ⟨d, r', rfl, hl, hh, h⟩ := tails_succ h
  have hc := eq_of_tails_zero h
  have henc := encodeChar_two hc (by omega) (by omega) (by omega)
  rw [Nat.add_sub_cancel' hl] at henc
  exact ⟨⟨by omega, by omega⟩, [d], r', rfl, rfl, henc⟩

theorem starts_three {x low high : Nat} (hx : x < 16) (hlow : 0x80 ≤ low) (hhigh : high ≤ 0xBF)
    (h0 : x = 0 → 0xA0 ≤ low) (h13 : x = 13 → high ≤ 0x9F)
    (h : tails x 2 low high r = .ok c) : Starts (0xE0 + x) r c 2 := by
  obtain ⟨d, r, rfl, hl, hh, h⟩ := tails_succ h
  obtain ⟨e, r', rfl, hl', hh', h⟩ := tails_succ h
  have hc := eq_of_tails_zero h
  have henc := encodeChar_three hc (by omega) (by omega) (by omega) (by omega)
  rw [Nat.add_sub_cancel' hl', Nat.add_sub_cancel' (Nat.le_trans hlow hl)] at henc
  exact ⟨⟨by omega, by omega⟩, [d, e], r', rfl, rfl, henc⟩

theorem starts_four {x low high : Nat} (hx : x ≤ 4) (hlow : 0x80 ≤ low) (hhigh : high ≤ 0xBF)
    (h0 : x = 0 → 0x90 ≤ low) (h4 : x = 4 → high ≤ 0x8F)
    (h : tails x 3 low high r = .ok c) : Starts (0xF0 + x) r c 3 := by
  obtain ⟨d, r, rfl, hl, hh, h⟩ := tails_succ h
  obtain ⟨e, r, rfl, hl', hh', h⟩ := tails_succ h
  obtain ⟨f, r', rfl, hl'', hh'', h⟩ := tails_succ h
  have hc := eq_of_tails_zero h
  have henc := encodeChar_four hc (by omega) (by omega) (by omega) (by omega)
  rw [Nat.add_sub_cancel' hl'', Nat.add_sub_cancel' hl',
    Nat.add_sub_cancel' (Nat.le_trans hlow hl)] at henc
  exact ⟨⟨by omega, by omega⟩, [d, e, f], r', rfl, rfl, henc⟩

theorem starts_of_lead {l : Lead} (hl : lead? b = some l)
    (h : tails l.bits l.tails l.low l.high r = .ok c) : Starts b r c l.tails := by
  unfold lead? at hl
  split at hl
  · obtain ⟨x, rfl⟩ := Nat.exists_eq_add_of_le (show 0xC0 ≤ b by omega)
    rw [Nat.add_sub_cancel_left] at hl
    cases hl
    exact starts_two (by omega) h
  split at hl
  · subst b
    cases hl
    exact starts_three (x := 0) (by decide) (by decide) (by decide) (by simp) (by simp) h
  split at hl
  · subst b
    cases hl
    exact starts_three (x := 13) (by decide) (by decide) (by decide) (by simp) (by simp) h
  split at hl
  · obtain ⟨x, rfl⟩ := Nat.exists_eq_add_of_le (show 0xE0 ≤ b by omega)
    rw [Nat.add_sub_cancel_left] at hl
    cases hl
    exact starts_three (by omega) (Nat.le_refl _) (Nat.le_refl _) (by omega) (by omega) h
  split at hl
  · subst b
    cases hl
    exact starts_four (x := 0) (by decide) (by decide) (by decide) (by simp) (by simp) h
  split at hl
  · obtain ⟨x, rfl⟩ := Nat.exists_eq_add_of_le (show 0xF0 ≤ b by omega)
    rw [Nat.add_sub_cancel_left] at hl
    cases hl
    exact starts_four (by omega) (Nat.le_refl _) (Nat.le_refl _) (by omega) (by omega) h
  split at hl
  · subst b
    cases hl
    exact starts_four (x := 4) (by decide) (by decide) (by decide) (by simp) (by simp) h
  · cases hl

/-- What is read as a character are its bytes. -/
theorem next_spec {n : Nat} (h : next b r = .ok (c, n)) : Starts b r c n := by
  unfold next at h
  split at h
  · rename_i hb
    cases h
    exact ⟨isScalar_of_ascii hb, [], r, rfl, rfl, if_pos hb⟩
  · split at h
    · cases h
    · rename_i l hl
      cases ht : tails l.bits l.tails l.low l.high r with
      | error e =>
        rw [ht] at h
        cases h
      | ok x =>
        rw [ht] at h
        cases h
        exact starts_of_lead hl ht

theorem decodeFrom_spec {p k : Nat} {bs : Bytes} {t : Text} (h : decodeFrom p k bs = .ok t) :
    IsEncodable t ∧ encode t = bs.drop k := by
  induction bs generalizing p k t with
  | nil =>
    cases h
    exact ⟨by simp [IsEncodable], by simp [encode]⟩
  | cons b bs ih =>
    cases k with
    | succ k => exact ih h
    | zero =>
      rw [decodeFrom] at h
      split at h
      · rename_i c n hn
        cases hrest : decodeFrom (p + 1) n bs with
        | error e =>
          rw [hrest] at h
          cases h
        | ok u =>
          rw [hrest] at h
          cases h
          obtain ⟨hu, hdrop⟩ := ih hrest
          obtain ⟨hc, ds, r, rfl, rfl, hchar⟩ := next_spec hn
          rw [List.drop_left] at hdrop
          refine ⟨List.forall_mem_cons.2 ⟨hc, hu⟩, ?_⟩
          show encodeChar c ++ encode u = _
          rw [hchar, hdrop]
          rfl
      · cases h

/-- **What is read strictly are the bytes of a text.** -/
theorem decode_eq_ok_iff {bs : Bytes} {t : Text} :
    decode bs = .ok t ↔ IsEncodable t ∧ encode t = bs := by
  constructor
  · exact decodeFrom_spec
  · rintro ⟨ht, rfl⟩
    exact decode_encode ht

theorem exists_decode_eq_error_iff {bs : Bytes} :
    (∃ e, decode bs = .error e) ↔ ∀ t, IsEncodable t → encode t ≠ bs := by
  cases h : decode bs with
  | ok t =>
    obtain ⟨ht, henc⟩ := decode_eq_ok_iff.1 h
    exact iff_of_false (by simp) fun hall => hall t ht henc
  | error e =>
    refine iff_of_true ⟨e, rfl⟩ fun t ht henc => ?_
    cases h.symm.trans (decode_eq_ok_iff.2 ⟨ht, henc⟩)

end Reading

end DeltaBridge.Utf8
