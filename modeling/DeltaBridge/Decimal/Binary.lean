/-!
# Doubles as binary numbers

The exact value of a double, as an integer times a power of two.

* `Binary.ofFloat`: the view; `Binary.leastExponent`: the exponent of the subnormal numbers.
-/

namespace DeltaBridge

/-- What a double stands for. -/
inductive Binary where
  | nan
  | infinite (negative : Bool)
  /-- The number `mantissa * 2 ^ exponent`, negated if `negative`; a zero keeps its sign. -/
  | finite (negative : Bool) (mantissa : Nat) (exponent : Int)
  deriving DecidableEq, Repr

namespace Binary

/-- The exponent of the least positive double. -/
def leastExponent : Int := -1074

/-- The sign is that of a negative number. -/
def isNegative : Float.Model.UnpackedFloat.Sign → Bool
  | .negative => true
  | .positive => false

/-- The exact value of a double. -/
def ofFloat (x : Float) : Binary :=
  match x.toModel.unpack with
  | .notANumber => nan
  | .infinity s => infinite (isNegative s)
  | .zero s => finite (isNegative s) 0 leastExponent
  | .finite s m e _ => finite (isNegative s) m e

end Binary

end DeltaBridge
