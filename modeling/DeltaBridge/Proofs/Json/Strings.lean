import DeltaBridge.Json.Writer

/-!
# Strings that are written are read back

Every character of a text is written as itself or as an escape, and a reader finds it again. Only a
high surrogate before a low one is not found: the escapes of the two are those of one character.

* `IsSound`: texts of code points without such pairs, `isSound_of_ascii`;
* `code?_hex`, `escape_codeEscape`: code escapes;
* `lowEscape?_eq_none`: what is written does not start with the escape of a low surrogate, unless
  the text starts with one;
* **`scanString_writeChar`**, `scanString_text`: a character and a text are read back.
-/

namespace DeltaBridge

open Ascii

namespace Json

/-- The characters of the text can be told from what is written of them: they are code points, and
no high surrogate stands before a low one. -/
inductive IsSound : Text → Prop where
  | nil : IsSound []
  | cons {c : CodePoint} {t : Text} (lt : c < 0x110000)
    (single : isHighSurrogate c = true → ∀ d ∈ t.head?, isLowSurrogate d = false)
    (rest : IsSound t) : IsSound (c :: t)

theorem isHighSurrogate_of_ascii {c : Nat} (h : c < 0x80) : isHighSurrogate c = false := by
  have : ¬ 0xD800 ≤ c := by omega
  simp [isHighSurrogate, this]

theorem isSound_of_ascii {t : Text} (h : ∀ c ∈ t, c < 0x80) : IsSound t := by
  induction t with
  | nil => exact .nil
  | cons c t ih =>
    rw [List.forall_mem_cons] at h
    refine .cons (Nat.lt_trans h.1 (by decide)) (fun hs => ?_) (ih h.2)
    rw [isHighSurrogate_of_ascii h.1] at hs
    cases hs

/-! ## Code escapes -/

theorem hex_four (c : Nat) : hex 4 c =
    [hexDigit (c / 16 / 16 / 16 % 16), hexDigit (c / 16 / 16 % 16), hexDigit (c / 16 % 16),
      hexDigit (c % 16)] := rfl

theorem code?_hex {c : Nat} (hc : c < 0x10000) (r : Text) : code? (hex 4 c ++ r) = some c := by
  have hd (n : Nat) : hexValue? (hexDigit (n % 16)) = some (n % 16) :=
    hexValue?_hexDigit _ (Nat.mod_lt n (by decide))
  rw [hex_four]
  simp only [List.cons_append, List.nil_append, code?, hd, Option.bind_eq_bind, Option.bind_some,
    Option.pure_def, Option.some.injEq]
  omega

theorem drop_hex (c : Nat) (r : Text) : (hex 4 c ++ r).drop 4 = r := rfl

theorem codeEscape?_hex {c : Nat} (hc : c < 0x10000) {r : Text} (hr : r ≠ []) :
    codeEscape? (hex 4 c ++ r) = some c := by
  rw [codeEscape?, drop_hex, if_neg (by simpa using hr), code?_hex hc]

theorem codeEscape_append_ne_nil (c : Nat) (r : Text) : codeEscape c ++ r ≠ [] :=
  List.cons_ne_nil _ _

theorem escape_codeEscape {c : Nat} (hc : c < 0x10000) {r : Text} (hr : r ≠ [])
    (h : isHighSurrogate c = true → lowEscape? r = none) :
    escape (0x75 :: (hex 4 c ++ r)) = .ok (c, 5) := by
  rw [escape, codeEscape?_hex hc hr]
  simp only [drop_hex]
  cases hs : isHighSurrogate c with
  | false => rfl
  | true => rw [if_pos rfl, h hs]

theorem lowEscape?_codeEscape {c : Nat} (hc : c < 0x10000) {r : Text} (hr : r ≠ []) :
    lowEscape? (codeEscape c ++ r) = if isLowSurrogate c then some c else none := by
  show lowEscape? (backslash :: 0x75 :: (hex 4 c ++ r)) = _
  rw [lowEscape?, codeEscape?_hex hc hr]

theorem escape_pair {c : Nat} (hl : 0x10000 ≤ c) (hh : c < 0x110000) {r : Text} (hr : r ≠ []) :
    escape (0x75 :: (hex 4 (0xD800 + (c - 0x10000) / 0x400) ++
      (codeEscape (0xDC00 + (c - 0x10000) % 0x400) ++ r))) = .ok (c, 11) := by
  obtain ⟨high, hhigh⟩ : ∃ n, n = 0xD800 + (c - 0x10000) / 0x400 := ⟨_, rfl⟩
  obtain ⟨low, hlow⟩ : ∃ n, n = 0xDC00 + (c - 0x10000) % 0x400 := ⟨_, rfl⟩
  rw [← hhigh, ← hlow]
  have hs : isHighSurrogate high = true := by
    have : 0xD800 ≤ high ∧ high ≤ 0xDBFF := by omega
    simpa [isHighSurrogate] using this
  have hls : isLowSurrogate low = true := by
    have : 0xDC00 ≤ low ∧ low ≤ 0xDFFF := by omega
    simpa [isLowSurrogate] using this
  have hjoin : joinSurrogates high low = c := by
    have h : (0x10000 : Nat) + (high - 0xD800) * 0x400 + (low - 0xDC00) = c := by omega
    exact h
  have hh : high < 0x10000 := by omega
  have hl : low < 0x10000 := by omega
  rw [escape, codeEscape?_hex hh (codeEscape_append_ne_nil low r)]
  simp only [drop_hex, hs, if_true, lowEscape?_codeEscape hl hr, hls, hjoin]

/-! ## Characters -/

section Scanning

variable (start : Nat)

theorem scanString_skip (p : Nat) (u r : Text) :
    scanString start p u.length (u ++ r) = scanString start (p + u.length) 0 r := by
  induction u generalizing p with
  | nil => rfl
  | cons c u ih =>
    rw [List.length_cons, List.cons_append, scanString, ih]
    congr 1
    omega

theorem scanString_escape {x : CodePoint} {u r : Text} (p : Nat)
    (h : escape (u ++ r) = .ok (x, u.length)) :
    scanString start p 0 (backslash :: u ++ r) =
      (scanString start (p + (backslash :: u).length) 0 r).map fun s => (x :: s.1, s.2) := by
  rw [List.cons_append, scanString, if_neg (by decide), if_pos rfl, h]
  simp only [scanString_skip]
  congr 2
  rw [List.length_cons]
  omega

/-- **A character that is written is read back.** -/
theorem scanString_writeChar {c : Nat} (hc : c < 0x110000) {r : Text} (hr : r ≠ [])
    (h : isHighSurrogate c = true → lowEscape? r = none) (p : Nat) :
    scanString start p 0 (writeChar c ++ r) =
      (scanString start (p + (writeChar c).length) 0 r).map fun s => (c :: s.1, s.2) := by
  unfold writeChar
  split
  · rename_i hq
    rcases hq with rfl | rfl <;> exact scanString_escape start p rfl
  rename_i hq
  -- the escapes of one letter
  iterate 5
    split
    · subst c
      exact scanString_escape start p rfl
  split
  · -- the character stands for itself
    rename_i hc
    rw [not_or] at hq
    rw [List.singleton_append, scanString, if_neg hq.1, if_neg hq.2, if_neg (Nat.not_lt.2 hc.1)]
    rfl
  split
  · rename_i hc
    exact scanString_escape (u := 0x75 :: hex 4 c) start p (escape_codeEscape hc hr h)
  · rename_i hl
    refine scanString_escape (u := 0x75 :: (hex 4 _ ++ codeEscape _)) start p ?_
    rw [List.cons_append, List.append_assoc]
    exact escape_pair (Nat.not_lt.1 hl) hc hr

/-! ## Texts -/

theorem lowEscape?_writeChar {c : Nat} (hlow : isLowSurrogate c = false) {r : Text} (hr : r ≠ [])
    (hc : c < 0x110000) : lowEscape? (writeChar c ++ r) = none := by
  unfold writeChar
  split
  · rename_i hq
    rcases hq with rfl | rfl <;> rfl
  rename_i hq
  iterate 5
    split
    · rfl
  split
  · rw [not_or] at hq
    rw [List.singleton_append]
    unfold lowEscape?
    split
    · rename_i heq
      exact absurd (List.cons.inj heq).1 hq.2
    · rfl
  split
  · rename_i hc
    rw [lowEscape?_codeEscape hc hr, hlow]
    rfl
  · obtain ⟨high, hhigh⟩ : ∃ n, n = 0xD800 + (c - 0x10000) / 0x400 := ⟨_, rfl⟩
    have hnot : isLowSurrogate high = false := by
      have : ¬ (0xDC00 ≤ high ∧ high ≤ 0xDFFF) := by omega
      simpa [isLowSurrogate] using this
    rw [← hhigh, List.append_assoc,
      lowEscape?_codeEscape (by omega : high < 0x10000) (codeEscape_append_ne_nil _ r), hnot]
    rfl

/-- What is written of a text does not start with the escape of a low surrogate, unless the text
starts with one. -/
theorem lowEscape?_eq_none {t : Text} (ht : IsSound t)
    (h : ∀ d ∈ t.head?, isLowSurrogate d = false) (r : Text) :
    lowEscape? (t.flatMap writeChar ++ quote :: r) = none := by
  cases ht with
  | nil => rfl
  | cons hc hs ht =>
    rw [List.flatMap_cons, List.append_assoc]
    exact lowEscape?_writeChar (h _ rfl) (by simp) hc

/-- **A text that is written is read back**, up to the quote after it. -/
theorem scanString_text {t : Text} (ht : IsSound t) (p : Nat) (r : Text) :
    scanString start p 0 (t.flatMap writeChar ++ quote :: r) =
      .ok (t, p + (t.flatMap writeChar).length + 1) := by
  induction ht generalizing p with
  | nil => rfl
  | cons hc hs ht ih =>
    rename_i c t
    rw [List.flatMap_cons, List.append_assoc, scanString_writeChar start hc (by simp)
      (fun h => lowEscape?_eq_none ht (hs h) r), ih, List.length_append, Nat.add_assoc p]
    rfl

end Scanning

end Json

end DeltaBridge
