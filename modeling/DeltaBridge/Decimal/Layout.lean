import DeltaBridge.Decimal.Shortest

/-!
# How floating point numbers are written

A double is written with the digits of its shortest decimal. Its format is a value of `Layout`:
where positional notation gives way to an exponent, and how many digits an exponent has at least.

* `Layout.write`: the text of a number; `floatText`: in the format of this library.
-/

namespace DeltaBridge

open Ascii

/-- The choices of a format for floating point numbers. -/
structure Layout where
  /-- The least exponent of a number written positionally. -/
  positionalFrom : Int
  /-- The least exponent above those. -/
  positionalBelow : Int
  /-- The least number of digits in an exponent. -/
  exponentWidth : Nat
  deriving DecidableEq, Repr

namespace Layout

/-- The digits without zeros at the end; a zero keeps one digit. -/
def significant (n : Nat) : List Nat :=
  match ((natDigits n).reverse.dropWhile (· == 0)).reverse with
  | [] => [0]
  | ds => ds

/-- The digits `ds` with the point after `whole` of them, at least one digit on each side. -/
def positional (ds : List Nat) (whole : Nat) : Text :=
  let left := ds.take whole ++ List.replicate (whole - ds.length) 0
  let right := ds.drop whole
  left.map digitChar ++ dot :: (if right.isEmpty then [0] else right).map digitChar

/-- The exponent after its letter, with its sign. -/
def exponentPart (f : Layout) (e : Int) : Text :=
  let ds := natDigits e.natAbs
  0x65 :: (if e < 0 then minus else plus) ::
    (List.replicate (f.exponentWidth - ds.length) 0 ++ ds).map digitChar

/-- The positive decimal `d` in the format. -/
def writeScientific (f : Layout) (d : Scientific) : Text :=
  let ds := significant d.digits
  let e : Int := d.exponent + (natDigits d.digits).length - 1
  if f.positionalFrom ≤ e ∧ e < f.positionalBelow then
    if e < 0 then positional (List.replicate (-e).toNat 0 ++ ds) 1 else positional ds (e.toNat + 1)
  else match ds with
    | [d] => digitChar d :: f.exponentPart e
    | ds => ds.take 1 |>.map digitChar |>.append (dot :: (ds.drop 1).map digitChar) |>.append (f.exponentPart e)

/-- The text of a double. -/
def write (f : Layout) (x : Float) : Text :=
  match Binary.ofFloat x with
  | .nan => "nan"
  | .infinite negative => if negative then "-inf" else "inf"
  | .finite negative m q =>
    let t := if m = 0 then f.writeScientific ⟨0, 0⟩ else f.writeScientific (Span.ofBinary m q).shortest
    if negative then minus :: t else t

end Layout

/-- Numbers from 0.0001 up to, but not including, 10 to the power 16 are written positionally, and
exponents have two digits at least. -/
def plainLayout : Layout := ⟨-4, 16, 2⟩

/-- The text of a double in the format of this library. -/
def floatText (x : Float) : Text := plainLayout.write x

end DeltaBridge
