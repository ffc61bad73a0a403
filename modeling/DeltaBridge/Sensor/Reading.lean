import DeltaBridge.Text.Utf8
import DeltaBridge.Value.Basic

/-!
# Readings

The number in an extracted value. Truth values count as one and zero, texts and bytes are numbers if
they are in plain decimal notation; whatever is not finite is no number.

* `Reading`, `Reading.ofFloat`, `Reading.notNumber`;
* `Reading.ofText`, `Reading.ofValue`: the number in a text and in any value.
-/

namespace DeltaBridge

/-- A number read from a value, or the absence of one. -/
structure Reading where
  value : Float
  isNumber : Bool
  deriving DecidableEq

namespace Reading

/-- No number. -/
def notNumber : Reading := ⟨0.0 / 0.0, false⟩

/-- A number, if it is finite. -/
def ofFloat (x : Float) : Reading := if x.isFinite then ⟨x, true⟩ else notNumber

/-- The number that a text denotes in plain decimal notation, blanks around it aside. -/
def ofText (t : Text) : Reading :=
  match Numeral.ofText? t.strip with
  | some n => ofFloat n.toFloat
  | none => notNumber

/-- The number in a value. -/
def ofValue : Value → Reading
  | .bool b => ⟨if b then 1.0 else 0.0, true⟩
  | .int n => ofFloat (Float.ofInt n)
  | .float x => ofFloat x
  | .bytes b => ofText (Utf8.decodeLossy b)
  | .text t => ofText t
  | _ => notNumber

end Reading

end DeltaBridge
