import DeltaBridge.Decimal.Numeral

/-!
# Plain decimal notation

The grammar of the texts that denote numbers: a sign if there is one, digits with a point among,
before or after them, and an exponent if there is one. A text has one reading at most, so the parser
finds a number exactly in the texts of the grammar, and the number that is written there.

* `AreDigits`, `spanDigits_append`, `spanDigits_spec`: digits of any script, and the longest row of
  them;
* `SignNotation`, `MantissaNotation`, `ExponentNotation`: the parts of a text;
  `exponent?_eq_some_iff`;
* `PlainDecimal`, **`Numeral.ofText?_eq_some_iff`**: the grammar, and what the parser finds.
-/

namespace DeltaBridge

open Ascii

/-! ## Digits -/

/-- The characters are decimal digits with these values. -/
def AreDigits (u : Text) (ds : List Nat) : Prop := u.map digitValue? = ds.map some

section Digits

variable {u r t : Text} {ds : List Nat} {c : CodePoint}

theorem areDigits_cons {d : Nat} : AreDigits (c :: u) (d :: ds) ↔
    digitValue? c = some d ∧ AreDigits u ds := by
  unfold AreDigits
  rw [List.map_cons, List.map_cons, List.cons.injEq]

theorem AreDigits.lt (h : AreDigits u ds) : ∀ d ∈ ds, d < 10 := by
  intro d hd
  have hd : some d ∈ u.map digitValue? := h ▸ List.mem_map_of_mem hd
  obtain ⟨c, _, hc⟩ := List.mem_map.1 hd
  exact digitValue?_lt hc

theorem areDigits_map_digitChar (h : ∀ d ∈ ds, d < 10) : AreDigits (ds.map digitChar) ds := by
  unfold AreDigits
  rw [List.map_map]
  exact List.map_congr_left fun d hd => digitValue?_ascii d (h d hd)

/-- A text of digits ends where no digit follows. -/
theorem spanDigits_append (h : AreDigits u ds) (hr : ∀ c ∈ r.head?, digitValue? c = none) :
    spanDigits (u ++ r) = (ds, r) := by
  induction u generalizing ds with
  | nil =>
    obtain rfl : ds = [] := by simpa [AreDigits] using h.symm
    cases r with
    | nil => rfl
    | cons c r =>
      show spanDigits (c :: r) = _
      rw [spanDigits, hr c rfl]
  | cons c u ih =>
    cases ds with
    | nil => simp [AreDigits] at h
    | cons d ds =>
      obtain ⟨hc, hu⟩ := areDigits_cons.1 h
      rw [List.cons_append, spanDigits, hc, ih hu]

theorem spanDigits_spec (h : spanDigits t = (ds, r)) :
    ∃ u, t = u ++ r ∧ AreDigits u ds ∧ ∀ c ∈ r.head?, digitValue? c = none := by
  induction t generalizing ds with
  | nil =>
    cases h
    exact ⟨[], rfl, rfl, by simp⟩
  | cons c t ih =>
    rw [spanDigits] at h
    split at h
    · rename_i d hd
      obtain ⟨ds', r', hs⟩ : ∃ ds' r', spanDigits t = (ds', r') := ⟨_, _, rfl⟩
      rw [hs] at h
      cases h
      obtain ⟨u, rfl, hu, hr⟩ := ih hs
      exact ⟨c :: u, rfl, areDigits_cons.2 ⟨hd, hu⟩, hr⟩
    · rename_i hc
      cases h
      exact ⟨[], rfl, rfl, by simpa using hc⟩

end Digits

/-! ## The parts of a text -/

/-- A sign if there is one, and whether it is a minus sign. -/
inductive SignNotation : Text → Bool → Prop
  | none : SignNotation [] false
  | plus : SignNotation [plus] false
  | minus : SignNotation [minus] true

/-- Digits with a point and digits after it if there are any, or a point before at least one
digit. -/
inductive MantissaNotation : Text → List Nat → List Nat → Prop
  | whole {u : Text} {ds : List Nat} (hu : AreDigits u ds) (hne : ds ≠ []) :
    MantissaNotation u ds []
  | pointed {u v : Text} {ds fs : List Nat} (hu : AreDigits u ds) (hne : ds ≠ [])
    (hv : AreDigits v fs) : MantissaNotation (u ++ dot :: v) ds fs
  | fraction {v : Text} {fs : List Nat} (hv : AreDigits v fs) (hne : fs ≠ []) :
    MantissaNotation (dot :: v) [] fs

/-- An exponent if there is one: a letter, a sign if there is one, and at least one digit. -/
inductive ExponentNotation : Text → Int → Prop
  | none : ExponentNotation [] 0
  | letter {c : CodePoint} {s u : Text} {negative : Bool} {ds : List Nat}
    (hc : c = 0x65 ∨ c = 0x45) (hs : SignNotation s negative) (hu : AreDigits u ds)
    (hne : ds ≠ []) : ExponentNotation (c :: (s ++ u)) (signed negative ds)

/-- The text is a number in plain decimal notation. -/
inductive PlainDecimal : Text → Numeral → Prop
  | parts {s m x : Text} {negative : Bool} {ds fs : List Nat} {e : Int}
    (sign : SignNotation s negative) (mantissa : MantissaNotation m ds fs)
    (exponent : ExponentNotation x e) : PlainDecimal (s ++ (m ++ x)) ⟨negative, ds, fs, e⟩

/-! ## Signs -/

section Signs

variable {s t u : Text} {negative : Bool}

theorem spanSign_append (hs : SignNotation s negative)
    (hu : ∀ c ∈ u.head?, c ≠ minus ∧ c ≠ plus) : spanSign (s ++ u) = (negative, u) := by
  cases hs with
  | plus => rfl
  | minus => rfl
  | none =>
    show spanSign u = _
    unfold spanSign
    split
    · exact absurd rfl (hu _ rfl).1
    · exact absurd rfl (hu _ rfl).2
    · rfl

theorem spanSign_spec (h : spanSign t = (negative, u)) :
    ∃ s, t = s ++ u ∧ SignNotation s negative := by
  unfold spanSign at h
  split at h
  · cases h
    exact ⟨[minus], rfl, .minus⟩
  · cases h
    exact ⟨[plus], rfl, .plus⟩
  · cases h
    exact ⟨[], rfl, .none⟩

theorem head?_ne_sign {ds : List Nat} (hu : AreDigits u ds) (hne : ds ≠ []) (r : Text) :
    ∀ c ∈ (u ++ r).head?, c ≠ minus ∧ c ≠ plus := by
  cases u with
  | nil =>
    obtain rfl : ds = [] := by simpa [AreDigits] using hu.symm
    exact absurd rfl hne
  | cons c u =>
    cases ds with
    | nil => exact absurd rfl hne
    | cons d ds =>
      have hc := (areDigits_cons.1 hu).1
      intro x hx
      cases hx
      have hminus : digitValue? minus = none := by decide
      have hplus : digitValue? plus = none := by decide
      constructor
      · rintro rfl
        rw [hminus] at hc
        cases hc
      · rintro rfl
        rw [hplus] at hc
        cases hc

end Signs

/-! ## Exponents -/

section Exponents

variable {x t : Text} {e : Int}

theorem exponent?_eq_some_iff : exponent? x = some e ↔ ExponentNotation x e := by
  constructor
  · intro h
    unfold exponent? at h
    split at h
    · cases h
      exact .none
    rename_i c t
    split at h
    case isFalse => cases h
    rename_i hc
    obtain ⟨negative, u, hs⟩ : ∃ negative u, spanSign t = (negative, u) := ⟨_, _, rfl⟩
    obtain ⟨ds, r, hd⟩ : ∃ ds r, spanDigits u = (ds, r) := ⟨_, _, rfl⟩
    obtain ⟨s, rfl, hsign⟩ := spanSign_spec hs
    obtain ⟨v, rfl, hv, -⟩ := spanDigits_spec hd
    simp only [hs, hd] at h
    cases ds with
    | nil => cases h
    | cons d ds =>
      cases r with
      | cons => cases h
      | nil =>
        cases h
        rw [List.append_nil]
        exact .letter hc hsign hv (by simp)
  · intro h
    cases h with
    | none => rfl
    | @letter c s u negative ds hc hs hu hne =>
      have hsign := head?_ne_sign hu hne []
      have hspan := spanDigits_append (r := []) hu (by simp)
      rw [List.append_nil] at hsign hspan
      obtain ⟨d, ds, rfl⟩ := List.exists_cons_of_ne_nil hne
      rw [exponent?, if_pos hc, spanSign_append hs hsign]
      simp only [hspan]

theorem head?_of_exponent (h : ExponentNotation x e) :
    ∀ c ∈ x.head?, digitValue? c = none ∧ c ≠ dot := by
  intro c hc
  cases h with
  | none => cases hc
  | letter hl =>
    cases hc
    rcases hl with rfl | rfl <;> decide

end Exponents

/-! ## Numbers -/

section Numbers

variable {t : Text} {n : Numeral}

theorem PlainDecimal.ofText? (h : PlainDecimal t n) : Numeral.ofText? t = some n := by
  obtain ⟨hs, hm, he⟩ := h
  rename_i s m x negative ds fs e
  have hx := exponent?_eq_some_iff.2 he
  have hend : ∀ c ∈ x.head?, digitValue? c = none := fun c hc => (head?_of_exponent he c hc).1
  cases hm with
  | whole hu hne =>
    unfold Numeral.ofText?
    rw [spanSign_append hs (head?_ne_sign hu hne x)]
    simp only [spanDigits_append hu hend]
    split
    · exact absurd rfl (head?_of_exponent he _ rfl).2
    · rw [if_neg (by simp [hne]), hx, Option.map_some]
  | @pointed u v _ _ hu hne hv =>
    rw [List.append_assoc, List.cons_append]
    unfold Numeral.ofText?
    rw [spanSign_append hs (head?_ne_sign hu hne _)]
    have hpoint : ∀ c ∈ (dot :: (v ++ x)).head?, digitValue? c = none := by
      intro c hc
      cases hc
      decide
    simp only [spanDigits_append hu hpoint, spanDigits_append hv hend, hx, Option.map_some]
    rw [if_neg (by simp [hne])]
  | @fraction v _ hv hne =>
    unfold Numeral.ofText?
    have hsign : ∀ c ∈ (dot :: v ++ x).head?, c ≠ minus ∧ c ≠ plus := by
      intro c hc
      cases hc
      decide
    rw [spanSign_append hs hsign]
    have hpoint : spanDigits (dot :: v ++ x) = ([], dot :: (v ++ x)) := rfl
    simp only [hpoint, spanDigits_append hv hend, hx, Option.map_some]
    rw [if_neg (by simp [hne])]

/-- **A number is found exactly in a text in plain decimal notation**, and it is the one that is
written there. -/
theorem Numeral.ofText?_eq_some_iff : Numeral.ofText? t = some n ↔ PlainDecimal t n := by
  constructor
  · intro h
    unfold Numeral.ofText? at h
    obtain ⟨negative, w, hs⟩ : ∃ negative w, spanSign t = (negative, w) := ⟨_, _, rfl⟩
    obtain ⟨ds, r, hd⟩ : ∃ ds r, spanDigits w = (ds, r) := ⟨_, _, rfl⟩
    simp only [hs, hd] at h
    obtain ⟨s, rfl, hsign⟩ := spanSign_spec hs
    obtain ⟨u, rfl, hu, -⟩ := spanDigits_spec hd
    -- with a point or without one
    split at h
    · rename_i v
      obtain ⟨fs, x, hf⟩ : ∃ fs x, spanDigits v = (fs, x) := ⟨_, _, rfl⟩
      obtain ⟨v, rfl, hv, -⟩ := spanDigits_spec hf
      simp only [hf] at h
      split at h
      · cases h
      rename_i hne
      obtain ⟨e, he, rfl⟩ := Option.map_eq_some_iff.1 h
      have hexp := exponent?_eq_some_iff.1 he
      by_cases hds : ds = []
      · subst hds
        obtain rfl : u = [] := by simpa [AreDigits] using hu
        have hfs : fs ≠ [] := by simpa using hne
        show PlainDecimal (s ++ (dot :: v ++ x)) _
        exact .parts hsign (.fraction hv hfs) hexp
      · have hparts := PlainDecimal.parts hsign (.pointed hu hds hv) hexp
        rwa [List.append_assoc] at hparts
    · split at h
      · cases h
      rename_i hne
      obtain ⟨e, he, rfl⟩ := Option.map_eq_some_iff.1 h
      have hds : ds ≠ [] := by simpa using hne
      exact .parts hsign (.whole hu hds) (exponent?_eq_some_iff.1 he)
  · exact PlainDecimal.ofText?

end Numbers

end DeltaBridge
