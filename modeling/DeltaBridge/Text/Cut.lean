import DeltaBridge.Text.Basic

/-!
# Cutting texts

A text cut at a character: at its first occurrence, at its last one, or at all of them.

* `Text.cutAt`, `Text.afterLast`;
* `Text.partsAt`; `joinWith_partsAt`: the parts with the character between them are the text.
-/

namespace DeltaBridge.Text

/-- The text up to a character, and what follows it; `none` if the character does not occur. -/
def cutAt (c : CodePoint) : Text → Text × Option Text
  | [] => ([], none)
  | x :: t => if x = c then ([], some t) else let (a, b) := cutAt c t; (x :: a, b)

/-- What follows the last occurrence of a character; the whole text if it does not occur. -/
def afterLast (c : CodePoint) (t : Text) : Text := (t.reverse.takeWhile (· ≠ c)).reverse

/-- The parts of a text between the occurrences of a character. -/
def partsAt (c : CodePoint) : Text → List Text
  | [] => [[]]
  | x :: t =>
    match partsAt c t with
    | [] => [[x]]
    | p :: ps => if x = c then [] :: p :: ps else (x :: p) :: ps

theorem partsAt_ne_nil (c : CodePoint) (t : Text) : partsAt c t ≠ [] := by
  cases t with
  | nil => simp [partsAt]
  | cons x t =>
    rw [partsAt]
    split
    · simp
    · split <;> simp

theorem joinWith_partsAt (c : CodePoint) (t : Text) : joinWith [c] (partsAt c t) = t := by
  induction t with
  | nil => rfl
  | cons x t ih =>
    rw [partsAt]
    split
    · next h => exact absurd h (partsAt_ne_nil c t)
    · next p ps h =>
      rw [h] at ih
      split
      · next hx => rw [joinWith_cons_cons, ih, hx]; rfl
      · cases ps with
        | nil => rw [← ih]; rfl
        | cons q ps => rw [← ih]; rfl

end DeltaBridge.Text
