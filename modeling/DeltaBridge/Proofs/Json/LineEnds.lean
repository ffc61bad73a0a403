import DeltaBridge.Bridge.Definitions
import DeltaBridge.Proofs.Json.Lexing

/-!
# Line ends in a JSON text

A text with joined line ends describes what the text itself describes: no symbol of JSON goes over
the end of a line, and around the symbols a carriage return is as good as a line feed.

* `joinLineEnds_append`, `exists_of_joinLineEnds_eq_append`: texts that are put together;
* `Json.SymbolNotation.unbroken`: symbols without line ends;
* **`Json.isText_joinLineEnds_iff`**: the trees of a text with joined line ends.
-/

namespace DeltaBridge

open Ascii

/-! ## Texts with joined line ends -/

/-- Neither half of a line end is in the text. -/
def Unbroken (t : Text) : Prop := ∀ c ∈ t, c ≠ carriageReturn ∧ c ≠ lineFeed

instance (t : Text) : Decidable (Unbroken t) :=
  inferInstanceAs (Decidable (∀ c ∈ t, c ≠ carriageReturn ∧ c ≠ lineFeed))

section Joining

variable {t u v w : Text} {c : CodePoint}

theorem unbroken_cons :
    Unbroken (c :: t) ↔ (c ≠ carriageReturn ∧ c ≠ lineFeed) ∧ Unbroken t := List.forall_mem_cons

theorem unbroken_append : Unbroken (t ++ u) ↔ Unbroken t ∧ Unbroken u := List.forall_mem_append

theorem joinLineEnds_cons (h : c = carriageReturn → t.head? ≠ some lineFeed) :
    joinLineEnds (c :: t) = (if c = carriageReturn then lineFeed else c) :: joinLineEnds t := by
  rw [joinLineEnds]
  rintro r rfl rfl
  exact h rfl rfl

theorem Unbroken.joinLineEnds_append (hu : Unbroken u) (t : Text) :
    joinLineEnds (u ++ t) = u ++ joinLineEnds t := by
  induction u with
  | nil => rfl
  | cons c u ih =>
    obtain ⟨hc, hu⟩ := unbroken_cons.1 hu
    rw [List.cons_append, joinLineEnds_cons (absurd · hc.1), if_neg hc.1, ih hu, List.cons_append]

/-- No line end goes over a place that no line feed follows. -/
theorem joinLineEnds_append (hv : v.head? ≠ some lineFeed) :
    joinLineEnds (w ++ v) = joinLineEnds w ++ joinLineEnds v := by
  fun_induction joinLineEnds w with
  | case1 => rfl
  | case2 w ih => exact congrArg (lineFeed :: ·) ih
  | case3 c w h ih =>
    rw [List.cons_append, joinLineEnds_cons, ih, List.cons_append]
    rintro rfl
    cases w with
    | nil => exact hv
    | cons d w =>
      intro hd
      exact h w rfl (by rw [Option.some.inj hd])

/-- What is put together with joined line ends is put together without. -/
theorem exists_of_joinLineEnds_eq_append (h : joinLineEnds t = w ++ v) :
    ∃ w' v', t = w' ++ v' ∧ joinLineEnds w' = w ∧ joinLineEnds v' = v := by
  induction t using joinLineEnds.induct generalizing w with
  | case1 =>
    obtain ⟨rfl, rfl⟩ := List.append_eq_nil_iff.1 h.symm
    exact ⟨[], [], rfl, rfl, rfl⟩
  | case2 t ih =>
    cases w with
    | nil => exact ⟨[], _, rfl, rfl, h⟩
    | cons d w =>
      obtain ⟨rfl, hw⟩ := List.cons.inj h
      obtain ⟨w', v', rfl, rfl, hv⟩ := ih hw
      exact ⟨carriageReturn :: lineFeed :: w', v', rfl, rfl, hv⟩
  | case3 c t hct ih =>
    have hhead : c = carriageReturn → t.head? ≠ some lineFeed := fun hc ht => by
      obtain ⟨r, rfl⟩ := List.head?_eq_some_iff.1 ht
      exact hct r hc rfl
    cases w with
    | nil => exact ⟨[], _, rfl, rfl, h⟩
    | cons d w =>
      rw [joinLineEnds_cons hhead] at h
      obtain ⟨rfl, hw⟩ := List.cons.inj h
      obtain ⟨w', v', rfl, rfl, hv⟩ := ih hw
      refine ⟨c :: w', v', rfl, joinLineEnds_cons fun hc hw' => hhead hc ?_, hv⟩
      rw [List.head?_append, hw', Option.some_or]

theorem joinLineEnds_eq_of_unbroken (h : Unbroken (joinLineEnds t)) : joinLineEnds t = t := by
  fun_induction joinLineEnds t with
  | case1 => rfl
  | case2 t ih => exact absurd rfl (unbroken_cons.1 h).1.2
  | case3 c t _ ih =>
    obtain ⟨hc, ht⟩ := unbroken_cons.1 h
    by_cases hcr : c = carriageReturn
    · exact absurd (if_pos hcr) hc.2
    · rw [if_neg hcr, ih ht]

theorem mem_or_mem_joinLineEnds (h : c ∈ t) : c = carriageReturn ∨ c ∈ joinLineEnds t := by
  fun_induction joinLineEnds t with
  | case1 => cases h
  | case2 t ih =>
    simp only [List.mem_cons] at h ⊢
    tauto
  | case3 d t _ ih =>
    rcases List.mem_cons.1 h with rfl | h
    · by_cases hc : c = carriageReturn
      · exact .inl hc
      · exact .inr (by rw [if_neg hc]; exact List.mem_cons_self)
    · exact (ih h).imp_right (List.mem_cons_of_mem _)

theorem mem_of_mem_joinLineEnds (h : c ∈ joinLineEnds t) : c = lineFeed ∨ c ∈ t := by
  fun_induction joinLineEnds t with
  | case1 => cases h
  | case2 t ih =>
    simp only [List.mem_cons] at h ⊢
    tauto
  | case3 d t _ ih =>
    rcases List.mem_cons.1 h with h | h
    · split at h
      · exact .inl h
      · exact .inr (h ▸ List.mem_cons_self)
    · exact (ih h).imp_right (List.mem_cons_of_mem _)

end Joining

/-! ## Symbols -/

namespace Json

section Symbols

variable {t u s w : Text} {k : Symbol} {ks : List Symbol} {l : Leaf} {x : Tree}

theorem CharsNotation.unbroken (h : CharsNotation t s) : Unbroken t := by
  have hcode {u : Text} {c : Nat} (hu : CodeNotation u c) : Unbroken u := fun d hd =>
    ⟨fun h => hu.not_mem rfl (h ▸ hd), fun h => hu.not_mem rfl (h ▸ hd)⟩
  have hletter : ∀ p ∈ letterEscapes, p.1 ≠ carriageReturn ∧ p.1 ≠ lineFeed := by decide
  have hbackslash : backslash ≠ carriageReturn ∧ backslash ≠ lineFeed := by decide
  have hu : 0x75 ≠ carriageReturn ∧ 0x75 ≠ lineFeed := by decide
  induction h with
  | nil => exact fun _ h => by cases h
  | plain _ _ control _ ih =>
    refine unbroken_cons.2 ⟨⟨?_, ?_⟩, ih⟩ <;> rintro rfl <;> exact absurd control (by decide)
  | letter escape _ ih => exact unbroken_cons.2 ⟨hbackslash, unbroken_cons.2 ⟨hletter _ escape, ih⟩⟩
  | code code _ _ ih =>
    simp only [unbroken_cons, unbroken_append]
    exact ⟨hbackslash, hu, hcode code, ih⟩
  | pair first second _ _ _ ih =>
    simp only [unbroken_cons, unbroken_append]
    exact ⟨hbackslash, hu, hcode first, hbackslash, hu, hcode second, ih⟩

theorem LeafNotation.unbroken (h : LeafNotation t l) : Unbroken t := by
  cases h with
  | null => decide
  | bool b => cases b <;> decide
  | number h =>
    intro c hc
    have hb := (h.ascii c hc).1
    constructor <;> rintro rfl <;> cases hb
  | constant c => cases c <;> decide
  | text h =>
    have hquote : Unbroken [quote] := by decide
    exact unbroken_append.2 ⟨hquote, unbroken_append.2 ⟨h.unbroken, hquote⟩⟩

/-- No symbol goes over the end of a line. -/
theorem SymbolNotation.unbroken (h : SymbolNotation t k) : Unbroken t := by
  cases h with
  | leaf h => exact h.unbroken
  | openArray | closeArray | openObject | closeObject | comma | colon => decide

theorem SymbolNotation.head?_ne (h : SymbolNotation t k) (r : Text) :
    (t ++ r).head? ≠ some lineFeed := by
  have hnil : EndsNumber [] := fun _ hc => by cases hc
  obtain ⟨c, u, rfl, -⟩ := h.exists_piece (.inr hnil)
  intro hc
  exact (h.unbroken c List.mem_cons_self).2 (Option.some.inj hc)

theorem space_joinLineEnds_iff :
    (∀ c ∈ joinLineEnds w, isSpace c = true) ↔ ∀ c ∈ w, isSpace c = true := by
  constructor
  · intro h c hc
    rcases mem_or_mem_joinLineEnds hc with rfl | hc
    · rfl
    · exact h c hc
  · intro h c hc
    rcases mem_of_mem_joinLineEnds hc with rfl | hc
    · rfl
    · exact h c hc

theorem Spaced.joined (h : Spaced ks t) : Spaced ks (joinLineEnds t) := by
  induction h with
  | nil space => exact .nil (space_joinLineEnds_iff.2 space)
  | cons space symbol rest ih =>
    rw [joinLineEnds_append (symbol.head?_ne _), symbol.unbroken.joinLineEnds_append]
    exact .cons (space_joinLineEnds_iff.2 space) symbol ih

theorem Spaced.of_joined (h : Spaced ks (joinLineEnds t)) : Spaced ks t := by
  generalize ht : joinLineEnds t = t' at h
  induction h generalizing t with
  | nil space =>
    subst ht
    exact .nil (space_joinLineEnds_iff.1 space)
  | cons space symbol rest ih =>
    obtain ⟨w, v, rfl, rfl, hv⟩ := exists_of_joinLineEnds_eq_append ht
    obtain ⟨u, t, rfl, rfl, hrest⟩ := exists_of_joinLineEnds_eq_append hv
    rw [joinLineEnds_eq_of_unbroken symbol.unbroken] at symbol
    exact .cons (space_joinLineEnds_iff.1 space) symbol (ih hrest)

/-- **A text with joined line ends describes what the text itself does.** -/
theorem isText_joinLineEnds_iff : IsText x (joinLineEnds t) ↔ IsText x t :=
  ⟨Spaced.of_joined, Spaced.joined⟩

end Symbols

end Json

end DeltaBridge
