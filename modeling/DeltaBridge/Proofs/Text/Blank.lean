import DeltaBridge.Text.Blank

/-!
# Blanks around texts

Blanks around a text that has none at its ends are trimmed, and nothing else.

* `Text.dropWhile_isBlank_append`: blanks before a text;
* **`Text.strip_pad`**: blanks on both sides.
-/

namespace DeltaBridge.Text

variable {before t after : Text}

theorem dropWhile_isBlank_append (hb : ∀ c ∈ before, isBlank c = true) (t : Text) :
    (before ++ t).dropWhile isBlank = t.dropWhile isBlank := by
  induction before with
  | nil => rfl
  | cons c before ih =>
    obtain ⟨hc, hb⟩ := List.forall_mem_cons.1 hb
    rw [List.cons_append, List.dropWhile_cons_of_pos hc, ih hb]

/-- **Blanks around a text are trimmed.** -/
theorem strip_pad (hb : ∀ c ∈ before, isBlank c = true) (ha : ∀ c ∈ after, isBlank c = true)
    (ht : Trimmed t) (hne : t ≠ []) : (before ++ (t ++ after)).strip = t := by
  have hfront : (t ++ after).dropWhile isBlank = t ++ after := by
    obtain ⟨x, u, rfl⟩ := List.exists_cons_of_ne_nil hne
    exact dropWhile_eq_self_of_head? ht.1
  have hback : (t.reverse).dropWhile isBlank = t.reverse := by
    refine dropWhile_eq_self_of_head? fun c hc => ht.2 c ?_
    rwa [List.head?_reverse] at hc
  have hafter : ∀ c ∈ after.reverse, isBlank c = true := fun c hc => ha c (List.mem_reverse.1 hc)
  rw [strip, dropWhile_isBlank_append hb, hfront, stripEnd, List.reverse_append,
    dropWhile_isBlank_append hafter, hback, List.reverse_reverse]

end DeltaBridge.Text
