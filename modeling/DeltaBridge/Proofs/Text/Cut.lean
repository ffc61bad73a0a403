import DeltaBridge.Text.Cut

/-!
# Where texts are cut

A text that has a character is what stands before its first occurrence and what follows that, and also
what stands before its last occurrence and what follows that.

* `Text.cutAt_of_not_mem`, `Text.cutAt_append`, **`Text.cutAt_cases`**: a text cut at the first one;
* `Text.afterLast_eq`: what follows the last one, as what stands before the first one in reverse;
  `Text.afterLast_of_not_mem`, `Text.afterLast_append`, **`Text.afterLast_cases`**;
* `Text.partsAt_of_not_mem`, `Text.partsAt_cons`, `Text.exists_mem_partsAt`: the parts between all of
  them.
-/

namespace DeltaBridge.Text

variable {c : CodePoint} {t u : Text}

/-! ## The first occurrence -/

theorem cutAt_of_not_mem (h : c ∉ t) : cutAt c t = (t, none) := by
  induction t with
  | nil => rfl
  | cons x t ih =>
    have hx : x ≠ c := fun he => h (he ▸ List.mem_cons_self)
    rw [cutAt, if_neg hx, ih fun ht => h (List.mem_cons_of_mem _ ht)]

theorem cutAt_append (h : c ∉ t) (u : Text) : cutAt c (t ++ c :: u) = (t, some u) := by
  induction t with
  | nil => exact if_pos rfl
  | cons x t ih =>
    have hx : x ≠ c := fun he => h (he ▸ List.mem_cons_self)
    rw [List.cons_append, cutAt, if_neg hx, ih fun ht => h (List.mem_cons_of_mem _ ht)]

/-- A text is cut at the first occurrence of a character, if there is one. -/
theorem cutAt_cases (c : CodePoint) (t : Text) :
    (c ∉ t ∧ cutAt c t = (t, none)) ∨
      ∃ a b, t = a ++ c :: b ∧ c ∉ a ∧ cutAt c t = (a, some b) := by
  by_cases h : c ∈ t
  · obtain ⟨a, b, rfl, ha⟩ := List.eq_append_cons_of_mem h
    exact .inr ⟨a, b, rfl, ha, cutAt_append ha b⟩
  · exact .inl ⟨h, cutAt_of_not_mem h⟩

/-! ## The last occurrence -/

theorem fst_cutAt (c : CodePoint) (t : Text) : (cutAt c t).1 = t.takeWhile (· ≠ c) := by
  induction t with
  | nil => rfl
  | cons x t ih =>
    by_cases hx : x = c
    · simp [cutAt, hx]
    · simp [cutAt, hx, ih]

theorem afterLast_eq (c : CodePoint) (t : Text) :
    afterLast c t = (cutAt c t.reverse).1.reverse := by rw [fst_cutAt, afterLast]

theorem afterLast_of_not_mem (h : c ∉ t) : afterLast c t = t := by
  rw [afterLast_eq, cutAt_of_not_mem (by rwa [List.mem_reverse]), List.reverse_reverse]

theorem reverse_append_cons (t u : Text) : (t ++ c :: u).reverse = u.reverse ++ c :: t.reverse := by
  simp

theorem afterLast_append (t : Text) (h : c ∉ u) : afterLast c (t ++ c :: u) = u := by
  rw [afterLast_eq, reverse_append_cons, cutAt_append (by rwa [List.mem_reverse]),
    List.reverse_reverse]

/-- What follows the last occurrence of a character, if there is one. -/
theorem afterLast_cases (c : CodePoint) (t : Text) :
    (c ∉ t ∧ afterLast c t = t) ∨ ∃ a b, t = a ++ c :: b ∧ c ∉ b ∧ afterLast c t = b := by
  by_cases h : c ∈ t
  · obtain ⟨b, a, hr, hb⟩ := List.eq_append_cons_of_mem (List.mem_reverse.2 h)
    obtain rfl : t = a.reverse ++ c :: b.reverse := by
      rw [← reverse_append_cons, ← hr, List.reverse_reverse]
    have hb : c ∉ b.reverse := by rwa [List.mem_reverse]
    exact .inr ⟨a.reverse, b.reverse, rfl, hb, afterLast_append _ hb⟩
  · exact .inl ⟨h, afterLast_of_not_mem h⟩

/-! ## All occurrences -/

theorem partsAt_cons (c x : CodePoint) (t : Text) : ∃ p ps, partsAt c t = p :: ps ∧
    partsAt c (x :: t) = if x = c then [] :: p :: ps else (x :: p) :: ps := by
  obtain ⟨p, ps, h⟩ := List.exists_cons_of_ne_nil (partsAt_ne_nil c t)
  exact ⟨p, ps, h, by rw [partsAt, h]⟩

theorem partsAt_of_not_mem (h : c ∉ t) : partsAt c t = [t] := by
  induction t with
  | nil => rfl
  | cons x t ih =>
    have hx : x ≠ c := fun he => h (he ▸ List.mem_cons_self)
    rw [partsAt, ih fun ht => h (List.mem_cons_of_mem _ ht)]
    exact if_neg hx

/-- Any other character of a text is in one of its parts. -/
theorem exists_mem_partsAt {x : CodePoint} (h : x ∈ t) (hx : x ≠ c) : ∃ p ∈ partsAt c t, x ∈ p := by
  induction t with
  | nil => cases h
  | cons y t ih =>
    obtain ⟨p, ps, hp, hcons⟩ := partsAt_cons c y t
    rw [hcons]
    rcases List.mem_cons.1 h with rfl | h
    · rw [if_neg hx]
      exact ⟨x :: p, List.mem_cons_self, List.mem_cons_self⟩
    · obtain ⟨q, hq, hxq⟩ := ih h
      rw [hp] at hq
      split
      · exact ⟨q, List.mem_cons_of_mem _ hq, hxq⟩
      · rcases List.mem_cons.1 hq with rfl | hq
        · exact ⟨y :: q, List.mem_cons_self, List.mem_cons_of_mem _ hxq⟩
        · exact ⟨q, List.mem_cons_of_mem _ hq, hxq⟩

end DeltaBridge.Text
