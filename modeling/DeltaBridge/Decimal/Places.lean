import DeltaBridge.Decimal.Binary

/-!
# Rounding to decimal places

A double rounded to a number of decimal places: its exact value goes to the nearest multiple of the
place, a tie to the even one, and that multiple to the nearest double.

* `divideToEven`: the nearest integer to a quotient, `divideToEven_le`;
* `roundPlaces?`: the rounding, `none` if its result is beyond the doubles.
-/

namespace DeltaBridge

/-- The integer nearest to `n / d`; of two equally near ones the even one. -/
def divideToEven (n d : Nat) : Nat :=
  let q := n / d
  let r := 2 * (n % d)
  if r < d ∨ (r = d ∧ q % 2 = 0) then q else q + 1

theorem divideToEven_le (n d : Nat) : divideToEven n d ≤ n / d + 1 := by
  unfold divideToEven
  dsimp only
  split <;> omega

@[simp] theorem divideToEven_one (n : Nat) : divideToEven n 1 = n := by
  unfold divideToEven
  simp [Nat.mod_one]

/-- The multiple of `10 ^ (-places)` nearest to `m * 2 ^ q`, as a number of those units. -/
def unitsAt (m : Nat) (q places : Int) : Nat :=
  divideToEven (m * Nat.pow 2 q.toNat * Nat.pow 10 places.toNat)
    (Nat.pow 2 (-q).toNat * Nat.pow 10 (-places).toNat)

/-- A number of units of `10 ^ (-places)` as a double. -/
def ofUnits (negative : Bool) (units : Nat) (places : Int) : Float :=
  let x := Float.ofScientific units (0 < places) places.natAbs
  if negative then -x else x

/-- More places than this leave every double as it is. -/
def mostPlaces : Int := 323

/-- Fewer places than this make every double a zero. -/
def fewestPlaces : Int := -308

/-- The double rounded to a number of decimal places; `none` if the result is too large. Infinities
and NaN stay, and the sign of a zero is kept. -/
def roundPlaces? (x : Float) (places : Int) : Option Float :=
  match Binary.ofFloat x with
  | .finite negative m q =>
    if mostPlaces < places then some x
    else if places < fewestPlaces then some (ofUnits negative 0 0)
    else
      let y := ofUnits negative (unitsAt m q places) places
      if y.isFinite then some y else none
  | _ => some x

end DeltaBridge
