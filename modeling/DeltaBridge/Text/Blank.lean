import DeltaBridge.Text.Basic

/-!
# Blanks

The characters that count as white space at the ends of a text: the space separators of Unicode,
the line and paragraph separators, and the control characters that separate lines or fields.

* `isBlank`: the class;
* `Text.strip`: a text without the blanks at its ends, `strip_strip` and `strip_eq_self_iff`.
-/

namespace DeltaBridge

/-- White space as it is trimmed from the ends of a text. -/
def isBlank (c : CodePoint) : Bool :=
  (0x09 ≤ c && c ≤ 0x0D) || (0x1C ≤ c && c ≤ 0x20) || c == 0x85 || c == 0xA0 || c == 0x1680 ||
    (0x2000 ≤ c && c ≤ 0x200A) || c == 0x2028 || c == 0x2029 || c == 0x202F || c == 0x205F ||
    c == 0x3000

namespace Text

/-- The text without blanks at its end. -/
def stripEnd (t : Text) : Text := (t.reverse.dropWhile isBlank).reverse

/-- The text without blanks at either end. -/
def strip (t : Text) : Text := stripEnd (t.dropWhile isBlank)

@[simp] theorem strip_nil : strip [] = [] := rfl

/-- Neither end of the text is a blank. -/
def Trimmed (t : Text) : Prop := (∀ c ∈ t.head?, isBlank c = false) ∧ ∀ c ∈ t.getLast?, isBlank c = false

instance (t : Text) : Decidable (Trimmed t) := by unfold Trimmed; infer_instance

theorem dropWhile_eq_self_of_head? {t : Text} (h : ∀ c ∈ t.head?, isBlank c = false) :
    t.dropWhile isBlank = t := by
  cases t with
  | nil => rfl
  | cons a t => simp [h a (by simp)]

theorem head?_dropWhile_isBlank (t : Text) : ∀ c ∈ (t.dropWhile isBlank).head?, isBlank c = false := by
  intro c hc
  have := List.head?_dropWhile_not isBlank t
  cases h : (t.dropWhile isBlank).head? with
  | none => simp [h] at hc
  | some a =>
    rw [h] at this hc
    simp only [Option.mem_some_iff] at hc
    subst hc
    simpa using this

theorem strip_eq_self {t : Text} (h : Trimmed t) : strip t = t := by
  unfold strip stripEnd
  rw [dropWhile_eq_self_of_head? h.1, dropWhile_eq_self_of_head?, List.reverse_reverse]
  intro c hc
  exact h.2 c (by simpa using hc)

theorem trimmed_strip (t : Text) : Trimmed (strip t) := by
  unfold strip stripEnd
  have hl := head?_dropWhile_isBlank t
  generalize t.dropWhile isBlank = u at hl
  refine ⟨?_, fun c hc => ?_⟩
  · intro c hc
    obtain ⟨p, hp⟩ : ∃ p, u = (u.reverse.dropWhile isBlank).reverse ++ p :=
      ⟨(u.reverse.takeWhile isBlank).reverse, by
        rw [← List.reverse_append, List.takeWhile_append_dropWhile, List.reverse_reverse]⟩
    apply hl c
    rw [hp]
    cases hs : (u.reverse.dropWhile isBlank).reverse with
    | nil => rw [hs] at hc; simp at hc
    | cons a s => rw [hs] at hc; simpa using hc
  · rw [List.getLast?_reverse] at hc
    exact head?_dropWhile_isBlank _ c hc

/-- A text is its own trimmed form exactly if neither end is a blank. -/
theorem strip_eq_self_iff {t : Text} : strip t = t ↔ Trimmed t :=
  ⟨fun h => h ▸ trimmed_strip t, strip_eq_self⟩

theorem strip_strip (t : Text) : strip (strip t) = strip t := strip_eq_self (trimmed_strip t)

end Text

end DeltaBridge
