import DeltaBridge.Decimal.Binary
import DeltaBridge.Decimal.Digits

/-!
# The shortest decimal of a double

Among the decimals that read back as a given double, the ones with the fewest digits, and of those
the one nearest to it; an exact tie goes to the even last digit. The search goes over the grids of
one digit, two digits, and so on: if a point of a grid reads back, so does one of the two points
around the number.

* `Span.ofBinary`: the reals that round to a double;
* `Span.nearestOn`: the point of a decimal grid to take, if one reads back;
* `shortest`: the decimal.
-/

namespace DeltaBridge

/-- The decimal number `digits * 10 ^ exponent`. -/
structure Scientific where
  digits : Nat
  exponent : Int
  deriving DecidableEq, Repr

/-- A positive number with the ends of the interval of the reals that round to it, all three over
one denominator. -/
structure Span where
  low : Nat
  value : Nat
  high : Nat
  denominator : Nat
  /-- The ends themselves round to the number. -/
  closed : Bool
  deriving DecidableEq, Repr

namespace Span

/-- The interval around `m * 2 ^ q`. Its ends lie half a unit away; below a power of two, where the
next double is only half as far, a quarter. They belong to it if `m` is even. -/
def ofBinary (m : Nat) (q : Int) : Span :=
  let quarter := if m = Nat.pow 2 52 ∧ q ≠ Binary.leastExponent then 1 else 2
  let unit := Nat.pow 2 (q - 2).toNat
  ⟨(4 * m - quarter) * unit, 4 * m * unit, (4 * m + 2) * unit, Nat.pow 2 (2 - q).toNat, m % 2 == 0⟩

/-- The factors `(a, b)` with which `d * 10 ^ k` and `n / denominator` compare as `d * a` and `n * b`. -/
def factors (s : Span) (k : Int) : Nat × Nat := (Nat.pow 10 k.toNat * s.denominator, Nat.pow 10 (-k).toNat)

/-- The number `d * 10 ^ k` lies in the interval. -/
def contains (s : Span) (k : Int) (d : Nat) : Bool :=
  let (a, b) := s.factors k
  if s.closed then s.low * b ≤ d * a && d * a ≤ s.high * b else s.low * b < d * a && d * a < s.high * b

/-- Of the two multiples of `10 ^ k` around the number, the one in the interval; of two the nearer,
and the even one if they are equally near. -/
def nearestOn (s : Span) (k : Int) : Option Nat :=
  let (a, b) := s.factors k
  let d := s.value * b / a
  let below := s.value * b - d * a
  let above := (d + 1) * a - s.value * b
  match s.contains k d, s.contains k (d + 1) with
  | false, false => none
  | true, false => some d
  | false, true => some (d + 1)
  | true, true => some (if below < above ∨ (below = above ∧ d % 2 = 0) then d else d + 1)

/-- The exponent of the leading decimal digit of the number. -/
def magnitude (s : Span) : Int :=
  if s.denominator ≤ s.value then ((natDigits (s.value / s.denominator)).length : Int) - 1
  else -((natDigits ((s.denominator - 1) / s.value)).length : Int)

/-- The decimal with the fewest digits in the interval, the nearest of those. -/
def shortest (s : Span) : Scientific :=
  let grids := (List.range 17).map fun (n : Nat) => s.magnitude - n
  match grids.findSome? fun k => (s.nearestOn k).map fun d => Scientific.mk d k with
  | some d => d
  | none => ⟨0, 0⟩

end Span

end DeltaBridge
