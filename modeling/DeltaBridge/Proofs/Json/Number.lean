import DeltaBridge.Json.Lexeme
import DeltaBridge.Proofs.Decimal.Notation

/-!
# The notation of numbers in JSON

A number is its sign, digits without a zero that is not needed, a point with more digits and an
exponent, of which the sign and the last two may be missing. A reader that comes to such a text
takes it all, if what follows cannot go on with it, and finds the parts. The text is one in plain
decimal notation too, for the same number.

* `EndsNumber`: what may follow a number; `IsWhole`, `signText`, `fractionText`,
  `ExponentSpelling`: the parts;
* `Json.NumberNotation`, `Json.Literal.ofParts`: the numbers, and what is read of them;
* **`Json.NumberNotation.scan`**: the parts are found again; `Json.NumberNotation.of_scan`: nothing
  but numbers is found;
* `Json.NumberNotation.plainDecimal`: plain decimal notation; `Json.NumberNotation.ascii`: no
  character of a number is blank.
-/

namespace DeltaBridge

open Ascii Json

/-! ## Parts -/

/-- No number goes on in the text. -/
def EndsNumber (t : Text) : Prop := ∀ c ∈ t.head?, isDigit c = false ∧ c ≠ dot ∧ c ≠ 0x65 ∧ c ≠ 0x45

/-- The digits can stand before a point: at least one, and no zero that is not needed. -/
structure IsWhole (ds : List Nat) : Prop where
  lt : ∀ d ∈ ds, d < 10
  ne_nil : ds ≠ []
  head : ds = [0] ∨ ds.head? ≠ some 0

/-- A minus sign if the number is negative. -/
def signText (negative : Bool) : Text := if negative then [minus] else []

/-- The digits after a point, if there are any. -/
def fractionText (ds : List Nat) : Text := if ds.isEmpty then [] else dot :: ds.map digitChar

/-- An exponent if there is one: a letter, a sign if there is one, and at least one digit. -/
inductive ExponentSpelling : Text → Option Int → Prop
  | none : ExponentSpelling [] none
  | letter {c : CodePoint} {s : Text} {negative : Bool} {ds : List Nat}
    (hc : c = 0x65 ∨ c = 0x45) (hs : SignNotation s negative) (hd : ∀ d ∈ ds, d < 10)
    (hne : ds ≠ []) :
    ExponentSpelling (c :: (s ++ ds.map digitChar)) (some (signed negative ds))

section Parts

variable {ds : List Nat} {x r : Text} {e : Option Int}

theorem isDigit_digitChar : ∀ d < 10, isDigit (digitChar d) = true := by decide

theorem digitChar_of_isDigit {c : Nat} (h : isDigit c = true) :
    digitChar (c - 0x30) = c ∧ c - 0x30 < 10 := by
  have hc : 0x30 ≤ c ∧ c ≤ 0x39 := by simpa [isDigit] using h
  exact ⟨Nat.add_sub_cancel' hc.1, by omega⟩

theorem spanAsciiDigits_digits (hd : ∀ d ∈ ds, d < 10) (hr : ∀ c ∈ r.head?, isDigit c = false) :
    spanAsciiDigits (ds.map digitChar ++ r) = (ds, r) := by
  induction ds with
  | nil =>
    cases r with
    | nil => rfl
    | cons c r =>
      show spanAsciiDigits (c :: r) = ([], c :: r)
      rw [spanAsciiDigits, hr c rfl]
      rfl
  | cons d ds ih =>
    rw [List.forall_mem_cons] at hd
    rw [List.map_cons, List.cons_append, spanAsciiDigits, if_pos (isDigit_digitChar d hd.1),
      ih hd.2]
    simp [digitChar]

theorem spanWhole_digits (hw : IsWhole ds) (hr : ∀ c ∈ r.head?, isDigit c = false) :
    spanWhole (ds.map digitChar ++ r) = (ds, r) := by
  rcases hw.head with rfl | hne
  · rfl
  obtain ⟨d, ds, rfl⟩ := List.exists_cons_of_ne_nil hw.ne_nil
  have hd : digitChar d ≠ 0x30 := by
    intro h
    have h : (0x30 : Nat) + d = 0x30 := h
    exact hne (by rw [show d = 0 by omega]; rfl)
  have hspan := spanAsciiDigits_digits hw.lt hr
  rw [List.map_cons, List.cons_append] at hspan ⊢
  unfold spanWhole
  split
  · rename_i heq
    exact absurd (List.cons.inj heq).1 hd
  · exact hspan

theorem spanFraction_fractionText (hd : ∀ d ∈ ds, d < 10)
    (hr : ∀ c ∈ r.head?, isDigit c = false ∧ c ≠ dot) :
    spanFraction (fractionText ds ++ r) = (ds, r) := by
  cases ds with
  | nil =>
    cases r with
    | nil => rfl
    | cons c r =>
      have hc := (hr c rfl).2
      show spanFraction (c :: r) = ([], c :: r)
      unfold spanFraction
      split
      · rename_i heq
        exact absurd (List.cons.inj heq).1 hc
      · rfl
  | cons d ds =>
    have hspan := spanAsciiDigits_digits hd fun c hc => (hr c hc).1
    show spanFraction (dot :: ((d :: ds).map digitChar ++ r)) = _
    simp only [spanFraction, hspan]

theorem spanExponent_append (hx : ExponentSpelling x e) (hr : EndsNumber r) :
    spanExponent (x ++ r) = (e, r) := by
  cases hx with
  | none =>
    cases r with
    | nil => rfl
    | cons c r =>
      obtain ⟨-, -, h₁, h₂⟩ := hr c rfl
      show spanExponent (c :: r) = (none, c :: r)
      rw [spanExponent, if_neg (by simp [h₁, h₂])]
  | letter hc hs hd hne =>
    have hspan := spanAsciiDigits_digits hd fun c hc => (hr c hc).1
    have hsign := head?_ne_sign (areDigits_map_digitChar hd) hne r
    obtain ⟨d, ds, rfl⟩ := List.exists_cons_of_ne_nil hne
    rw [List.cons_append, spanExponent, if_pos hc, List.append_assoc, spanSign_append hs hsign]
    simp only [hspan]

theorem head?_exponent (hx : ExponentSpelling x e) (hr : EndsNumber r) :
    ∀ c ∈ (x ++ r).head?, isDigit c = false ∧ c ≠ dot := by
  intro c hc
  cases hx with
  | none => exact ⟨(hr c hc).1, (hr c hc).2.1⟩
  | letter hl =>
    cases hc
    rcases hl with rfl | rfl <;> decide

theorem head?_fractionText (hr : ∀ c ∈ r.head?, isDigit c = false) :
    ∀ c ∈ (fractionText ds ++ r).head?, isDigit c = false := by
  cases ds with
  | nil => exact hr
  | cons d ds =>
    intro c hc
    cases hc
    rfl

theorem spanMinus_signText (negative : Bool) (hw : IsWhole ds) :
    spanMinus (signText negative ++ (ds.map digitChar ++ r)) =
      (negative, ds.map digitChar ++ r) := by
  cases negative with
  | true => rfl
  | false =>
    obtain ⟨d, ds, rfl⟩ := List.exists_cons_of_ne_nil hw.ne_nil
    have hd := isDigit_digitChar d (hw.lt d List.mem_cons_self)
    show spanMinus (digitChar d :: (ds.map digitChar ++ r)) = _
    unfold spanMinus
    split
    · rename_i heq
      rw [(List.cons.inj heq).1] at hd
      cases hd
    · rfl

theorem spanAsciiDigits_spec {t : Text} (h : spanAsciiDigits t = (ds, r)) :
    t = ds.map digitChar ++ r ∧ ∀ d ∈ ds, d < 10 := by
  induction t generalizing ds with
  | nil =>
    cases h
    exact ⟨rfl, by simp⟩
  | cons c t ih =>
    rw [spanAsciiDigits] at h
    split at h
    · rename_i hc
      obtain ⟨ds', r', hs⟩ : ∃ ds' r', spanAsciiDigits t = (ds', r') := ⟨_, _, rfl⟩
      rw [hs] at h
      cases h
      obtain ⟨rfl, hlt⟩ := ih hs
      obtain ⟨hchar, hten⟩ := digitChar_of_isDigit hc
      refine ⟨by rw [List.map_cons, hchar, List.cons_append], ?_⟩
      exact List.forall_mem_cons.2 ⟨hten, hlt⟩
    · cases h
      exact ⟨rfl, by simp⟩

theorem spanWhole_spec {t : Text} (h : spanWhole t = (ds, r)) (hne : ds ≠ []) :
    t = ds.map digitChar ++ r ∧ IsWhole ds := by
  unfold spanWhole at h
  split at h
  · cases h
    exact ⟨rfl, by simp, hne, .inl rfl⟩
  · rename_i hzero
    obtain ⟨rfl, hlt⟩ := spanAsciiDigits_spec h
    refine ⟨rfl, hlt, hne, .inr fun h0 => ?_⟩
    obtain ⟨ds', rfl⟩ := List.head?_eq_some_iff.1 h0
    exact hzero _ rfl

theorem spanFraction_spec {t : Text} (h : spanFraction t = (ds, r)) :
    t = fractionText ds ++ r ∧ ∀ d ∈ ds, d < 10 := by
  unfold spanFraction at h
  split at h
  · split at h
    · cases h
      exact ⟨rfl, by simp⟩
    · rename_i hnone
      have hne : ds ≠ [] := by
        rintro rfl
        exact hnone r h
      obtain ⟨rfl, hlt⟩ := spanAsciiDigits_spec h
      obtain ⟨d, ds, rfl⟩ := List.exists_cons_of_ne_nil hne
      exact ⟨rfl, hlt⟩
  · cases h
    exact ⟨rfl, by simp⟩

theorem spanExponent_spec {t : Text} (h : spanExponent t = (e, r)) :
    ∃ x, t = x ++ r ∧ ExponentSpelling x e := by
  unfold spanExponent at h
  split at h
  case h_2 =>
    cases h
    exact ⟨[], rfl, .none⟩
  rename_i c u
  split at h
  case isFalse =>
    cases h
    exact ⟨[], rfl, .none⟩
  rename_i hc
  obtain ⟨negative, v, hs⟩ : ∃ negative v, spanSign u = (negative, v) := ⟨_, _, rfl⟩
  obtain ⟨ds, w, hd⟩ : ∃ ds w, spanAsciiDigits v = (ds, w) := ⟨_, _, rfl⟩
  obtain ⟨s, rfl, hsign⟩ := spanSign_spec hs
  obtain ⟨rfl, hlt⟩ := spanAsciiDigits_spec hd
  simp only [hs, hd] at h
  cases ds with
  | nil =>
    cases h
    exact ⟨[], rfl, .none⟩
  | cons d ds =>
    cases h
    exact ⟨_, by rw [List.cons_append, List.append_assoc], .letter hc hsign hlt (by simp)⟩

theorem spanMinus_spec {t : Text} {negative : Bool} (h : spanMinus t = (negative, r)) :
    t = signText negative ++ r := by
  unfold spanMinus at h
  split at h <;> cases h <;> rfl

theorem signNotation_signText (negative : Bool) : SignNotation (signText negative) negative := by
  cases negative with
  | false => exact .none
  | true => exact .minus

theorem mantissaNotation_digits {fs : List Nat} (hw : IsWhole ds) (hf : ∀ d ∈ fs, d < 10) :
    MantissaNotation (ds.map digitChar ++ fractionText fs) ds fs := by
  have hds := areDigits_map_digitChar hw.lt
  cases fs with
  | nil =>
    rw [show fractionText [] = [] from rfl, List.append_nil]
    exact .whole hds hw.ne_nil
  | cons f fs => exact .pointed hds hw.ne_nil (areDigits_map_digitChar hf)

theorem ExponentSpelling.plain (hx : ExponentSpelling x e) : ExponentNotation x (e.getD 0) := by
  cases hx with
  | none => exact .none
  | letter hc hs hd hne => exact .letter hc hs (areDigits_map_digitChar hd) hne

theorem digits_ascii (hd : ∀ d ∈ ds, d < 10) :
    ∀ c ∈ ds.map digitChar, isBlank c = false ∧ c < 0x80 := by
  have hdigit : ∀ d < 10, isBlank (digitChar d) = false ∧ digitChar d < 0x80 := by decide
  intro c hc
  obtain ⟨d, hmem, rfl⟩ := List.mem_map.1 hc
  exact hdigit d (hd d hmem)

theorem sign_ascii {s : Text} {negative : Bool} (hs : SignNotation s negative) :
    ∀ c ∈ s, isBlank c = false ∧ c < 0x80 := by
  cases hs <;> decide

end Parts

/-! ## Numbers -/

namespace Json

/-- The number with the given parts: an integer if it has neither a fraction nor an exponent. -/
def Literal.ofParts (negative : Bool) (whole fraction : List Nat) (exponent : Option Int) :
    Literal :=
  if fraction.isEmpty && exponent.isNone then .integer negative whole
  else .decimal ⟨negative, whole, fraction, exponent.getD 0⟩

/-- A number as a decimal one. -/
def Literal.numeral : Literal → Numeral
  | .integer negative ds => ⟨negative, ds, [], 0⟩
  | .decimal n => n

/-- An integer is not too long to be read. -/
def Literal.IsShort : Literal → Prop
  | .integer _ ds => ds.length ≤ digitLimit
  | .decimal _ => True

/-- The text is a number, as JSON has it. -/
inductive NumberNotation : Text → Literal → Prop
  | parts {negative : Bool} {whole fraction : List Nat} {x : Text} {e : Option Int}
    (hw : IsWhole whole) (hf : ∀ d ∈ fraction, d < 10) (hx : ExponentSpelling x e) :
    NumberNotation (signText negative ++ (whole.map digitChar ++ (fractionText fraction ++ x)))
      (.ofParts negative whole fraction e)

theorem Literal.numeral_ofParts (negative : Bool) (whole fraction : List Nat)
    (exponent : Option Int) : (ofParts negative whole fraction exponent).numeral =
      ⟨negative, whole, fraction, exponent.getD 0⟩ := by
  unfold ofParts
  split
  · rename_i h
    rw [Bool.and_eq_true, List.isEmpty_iff, Option.isNone_iff_eq_none] at h
    obtain ⟨rfl, rfl⟩ := h
    rfl
  · rfl

theorem Literal.value_integer_eq_ok {negative : Bool} {ds : List Nat} {v : Value} :
    (integer negative ds).value = .ok v ↔
      ds.length ≤ digitLimit ∧ v = .int (signed negative ds) := by
  unfold value
  dsimp only
  split
  · rename_i h
    exact ⟨fun hv => ⟨h, (Except.ok.inj hv).symm⟩, fun hv => by rw [hv.2]⟩
  · rename_i h
    exact ⟨(nomatch ·), fun hv => absurd hv.1 h⟩

theorem Literal.IsShort.exists_value {l : Literal} (h : l.IsShort) : ∃ v, l.value = .ok v := by
  cases l with
  | integer negative ds => exact ⟨_, value_integer_eq_ok.2 ⟨h, rfl⟩⟩
  | decimal n => exact ⟨_, rfl⟩

namespace NumberNotation

variable {t r : Text} {l : Literal}

/-- **The parts of a number are found again.** -/
theorem scan (h : NumberNotation t l) (hr : EndsNumber r) : scanNumber (t ++ r) = some (l, r) := by
  cases h with
  | @parts negative whole fraction x e hw hf hx =>
    have hafter := head?_exponent hx hr
    have hpoint : ∀ c ∈ (fractionText fraction ++ (x ++ r)).head?, isDigit c = false :=
      head?_fractionText fun c hc => (hafter c hc).1
    have hm : spanMinus (signText negative ++
        (whole.map digitChar ++ (fractionText fraction ++ x)) ++ r) =
        (negative, whole.map digitChar ++ (fractionText fraction ++ (x ++ r))) := by
      simp only [List.append_assoc]
      exact spanMinus_signText negative hw
    have h₁ := spanWhole_digits hw hpoint
    have h₂ := spanFraction_fractionText hf hafter
    have h₃ := spanExponent_append hx hr
    unfold scanNumber Literal.ofParts
    simp only [hm, h₁]
    obtain ⟨d, ds, rfl⟩ := List.exists_cons_of_ne_nil hw.ne_nil
    simp only [h₂, h₃]
    split <;> rfl

/-- What is found at the start of a text is a number. -/
theorem of_scan (h : scanNumber t = some (l, r)) : ∃ u, t = u ++ r ∧ NumberNotation u l := by
  unfold scanNumber at h
  obtain ⟨negative, u, hm⟩ : ∃ negative u, spanMinus t = (negative, u) := ⟨_, _, rfl⟩
  obtain ⟨whole, v, h₁⟩ : ∃ whole v, spanWhole u = (whole, v) := ⟨_, _, rfl⟩
  obtain ⟨fraction, w, h₂⟩ : ∃ fraction w, spanFraction v = (fraction, w) := ⟨_, _, rfl⟩
  obtain ⟨e, r', h₃⟩ : ∃ e r', spanExponent w = (e, r') := ⟨_, _, rfl⟩
  simp only [hm, h₁] at h
  cases whole with
  | nil => cases h
  | cons d ds =>
    simp only [h₂, h₃] at h
    have h : some (Literal.ofParts negative (d :: ds) fraction e, r') = some (l, r) := by
      rw [← h, Literal.ofParts]
      split <;> rfl
    cases h
    obtain rfl := spanMinus_spec hm
    obtain ⟨rfl, hw⟩ := spanWhole_spec h₁ (by simp)
    obtain ⟨rfl, hf⟩ := spanFraction_spec h₂
    obtain ⟨x, rfl, hx⟩ := spanExponent_spec h₃
    exact ⟨_, by simp only [List.append_assoc], .parts hw hf hx⟩

theorem integer_lt {negative : Bool} {ds : List Nat} (h : NumberNotation t (.integer negative ds)) :
    ∀ d ∈ ds, d < 10 := by
  generalize hl : Literal.integer negative ds = l at h
  cases h with
  | parts hw =>
    unfold Literal.ofParts at hl
    split at hl
    · cases hl
      exact hw.lt
    · cases hl

theorem plainDecimal (h : NumberNotation t l) : PlainDecimal t l.numeral := by
  cases h with
  | @parts negative whole fraction x e hw hf hx =>
    have hparts := PlainDecimal.parts (signNotation_signText negative)
      (mantissaNotation_digits hw hf) hx.plain
    rwa [Literal.numeral_ofParts, ← List.append_assoc (whole.map digitChar)]

theorem exists_cons (h : NumberNotation t l) :
    ∃ c u, t = c :: u ∧ (isDigit c = true ∨ c = minus ∧ ∃ d v, u = d :: v ∧ isDigit d = true) := by
  cases h with
  | @parts negative whole fraction x e hw hf hx =>
    obtain ⟨d, ds, rfl⟩ := List.exists_cons_of_ne_nil hw.ne_nil
    have hd := isDigit_digitChar d (hw.lt d List.mem_cons_self)
    cases negative with
    | false => exact ⟨_, _, rfl, .inl hd⟩
    | true => exact ⟨_, _, rfl, .inr ⟨rfl, _, _, rfl, hd⟩⟩

/-- A number is made of ASCII characters that are not blank. -/
theorem ascii (h : NumberNotation t l) : ∀ c ∈ t, isBlank c = false ∧ c < 0x80 := by
  cases h with
  | @parts negative whole fraction x e hw hf hx =>
    intro c hc
    rcases List.mem_append.1 hc with hc | hc
    · exact sign_ascii (signNotation_signText negative) c hc
    rcases List.mem_append.1 hc with hc | hc
    · exact digits_ascii hw.lt c hc
    rcases List.mem_append.1 hc with hc | hc
    · cases fraction with
      | nil => cases hc
      | cons d ds =>
        rcases List.mem_cons.1 hc with rfl | hc
        · decide
        · exact digits_ascii hf c hc
    · cases hx with
      | none => cases hc
      | letter hl hs hd =>
        rcases List.mem_cons.1 hc with rfl | hc
        · rcases hl with rfl | rfl <;> decide
        rcases List.mem_append.1 hc with hc | hc
        · exact sign_ascii hs c hc
        · exact digits_ascii hd c hc

theorem trimmed (h : NumberNotation t l) : t.Trimmed :=
  ⟨fun c hc => (h.ascii c (List.mem_of_mem_head? hc)).1,
    fun c hc => (h.ascii c (List.mem_of_mem_getLast? hc)).1⟩

theorem ne_nil (h : NumberNotation t l) : t ≠ [] := by
  obtain ⟨c, u, rfl, -⟩ := h.exists_cons
  exact List.cons_ne_nil c u

end NumberNotation

end Json

end DeltaBridge
