import DeltaBridge.Value.Basic

/-!
# Comparing values

Numbers are compared by what they denote, whatever their notation; texts by code points. Values of
different kinds are never equal, and only two numbers or two texts are ordered.

* `Magnitude.compare`, `Value.number?`: the number that a value is; `none` for a NaN;
* `Value.same`: equality; `Value.before`: order; `Relation.holds`: the six comparisons.
-/

namespace DeltaBridge

/-- A number among the values: the integer `mantissa` times `2 ^ exponent`, or beyond all of those. -/
inductive Magnitude where
  | below
  | finite (mantissa : Int) (exponent : Int)
  | above
  deriving DecidableEq, Repr

/-- The order of two numbers. -/
def Magnitude.compare : Magnitude → Magnitude → Ordering
  | below, below => .eq
  | below, _ => .lt
  | _, below => .gt
  | above, above => .eq
  | above, _ => .gt
  | _, above => .lt
  | finite m p, finite n q =>
    let r := min p q
    Ord.compare (m * Int.pow 2 (p - r).toNat) (n * Int.pow 2 (q - r).toNat)

namespace Value

/-- The number that a value is, unless it is a NaN or no number. -/
def number? : Value → Option Magnitude
  | int n => some (.finite n 0)
  | float x =>
    match Binary.ofFloat x with
    | .nan => none
    | .infinite negative => some (if negative then .below else .above)
    | .finite negative m q => some (.finite (if negative then -m else m) q)
  | _ => none

mutual

/-- The two values are equal: of one kind, and the same there. -/
def same : Value → Value → Bool
  | null, null => true
  | bool a, bool b => a == b
  | text s, text t => s == t
  | bytes s, bytes t => s == t
  | list xs, list ys => sameItems xs ys
  | object ms, object ns => ms.length == ns.length && sameMembers ms ns
  | int a, int b => a == b
  | v, w =>
    match v.number?, w.number? with
    | some a, some b => a.compare b == .eq
    | _, _ => false

/-- The two lists have equal items in the same order. -/
def sameItems : List Value → List Value → Bool
  | [], [] => true
  | x :: xs, y :: ys => same x y && sameItems xs ys
  | _, _ => false

/-- Each member has an equal one among the others. -/
def sameMembers : List (Text × Value) → List (Text × Value) → Bool
  | [], _ => true
  | (k, v) :: ms, ns =>
    (match Members.get? k ns with
    | some w => same v w
    | none => false) && sameMembers ms ns

end

/-- The first of two numbers, or of two texts, comes strictly before the second. -/
def before : Value → Value → Bool
  | text s, text t => decide (s < t)
  | v, w =>
    match v.number?, w.number? with
    | some a, some b => a.compare b == .lt
    | _, _ => false

end Value

/-- The comparisons of a condition. -/
inductive Relation where
  | equal
  | unequal
  | less
  | lessOrEqual
  | greater
  | greaterOrEqual
  deriving DecidableEq, Repr

namespace Relation

/-- The comparison of two values. Values that are not ordered are only equal or not. -/
def holds (r : Relation) (v w : Value) : Bool :=
  match r with
  | equal => v.same w
  | unequal => !v.same w
  | less => v.before w
  | lessOrEqual => v.before w || v.same w
  | greater => w.before v
  | greaterOrEqual => w.before v || v.same w

/-- The comparison of two missing values, which are equal. -/
def holdsOfNothing : Relation → Bool
  | equal | lessOrEqual | greaterOrEqual => true
  | unequal | less | greater => false

end Relation

end DeltaBridge
