import DeltaBridge.Decimal.Digits
import DeltaBridge.Text.Blank

/-!
# Numerals

Texts that denote numbers, with the decimal digits of any script.

* `Numeral`: a decimal number as it is written; `Numeral.toFloat`: the double nearest to it;
* `Numeral.ofText?`: plain decimal notation, without names for infinity and without separators;
* `integer?`: integers, where single underscores may stand between digits.
-/

namespace DeltaBridge

open Ascii

/-- The longest integer that is read or written as a text, in digits. -/
def digitLimit : Nat := 4300

/-- A decimal number as it is written: sign, digits before and after the point, exponent. -/
structure Numeral where
  negative : Bool
  whole : List Nat
  fraction : List Nat
  exponent : Int
  deriving DecidableEq, Repr

namespace Numeral

/-- The double nearest to the number; an infinity if it is too large. -/
def toFloat (n : Numeral) : Float :=
  let e : Int := n.exponent - n.fraction.length
  let x := Float.ofScientific (readDigits (n.whole ++ n.fraction)) (e < 0) e.natAbs
  if n.negative then -x else x

end Numeral

/-- The values of the digits at the start of a text, and what follows them. -/
def spanDigits : Text → List Nat × Text
  | [] => ([], [])
  | c :: t =>
    match digitValue? c with
    | some d => let (ds, r) := spanDigits t; (d :: ds, r)
    | none => ([], c :: t)

/-- A sign at the start of a text, and what follows it; no sign is a plus sign. -/
def spanSign : Text → Bool × Text
  | minus :: t => (true, t)
  | plus :: t => (false, t)
  | t => (false, t)

/-- The integer with the sign and the digits. -/
def signed (negative : Bool) (ds : List Nat) : Int :=
  if negative then -(readDigits ds : Int) else readDigits ds

/-- The exponent that makes up the whole text, `0` for none: a letter, a sign if there is one, and digits. -/
def exponent? : Text → Option Int
  | [] => some 0
  | c :: t =>
    if c = 0x65 ∨ c = 0x45 then
      let (negative, u) := spanSign t
      match spanDigits u with
      | ([], _) => none
      | (ds, []) => some (signed negative ds)
      | _ => none
    else none

/-- Plain decimal notation: a sign if there is one, digits with a point among, before or after them,
and an exponent if there is one. -/
def Numeral.ofText? (t : Text) : Option Numeral :=
  let (negative, u) := spanSign t
  let (whole, r) := spanDigits u
  let (fraction, r) := match r with
    | dot :: v => spanDigits v
    | _ => ([], r)
  if whole.isEmpty && fraction.isEmpty then none
  else (exponent? r).map fun e => ⟨negative, whole, fraction, e⟩

/-! ## Integers -/

/-- Digits with single underscores between them; `after` says that a digit comes before. -/
def groupedDigits? : (after : Bool) → Text → Option (List Nat)
  | true, [] => some []
  | false, [] => none
  | after, c :: t =>
    if c = underscore then if after then groupedDigits? false t else none
    else match digitValue? c with
      | some d => (groupedDigits? true t).map (d :: ·)
      | none => none

/-- The integer that the whole text denotes, blanks around it aside. -/
def integer? (t : Text) : Option Int :=
  let (negative, u) := spanSign t.strip
  match groupedDigits? false u with
  | some ds => if ds.length ≤ digitLimit then some (signed negative ds) else none
  | none => none

end DeltaBridge
