import DeltaBridge.Decimal.Digits
import DeltaBridge.Text.Cut

/-!
# Numeric hosts

Hosts that are written as numbers instead of names. In a URL the newer ones stand in brackets, so
that their colons are not taken for the start of a port.

* `NumericHost.isVersion4`: four numbers below 256 with full stops between them;
* `NumericHost.isVersion6`: eight groups of hexadecimal digits with colons between them, where one
  gap may stand for groups of zeros;
* `NumericHost.isLaterVersion`: the form kept for versions to come.
-/

namespace DeltaBridge.NumericHost

open Ascii

/-- The text is a number below 256 in its shortest decimal form. -/
def isOctet (t : Text) : Bool :=
  match t with
  | [] => false
  | [c] => isDigit c
  | c :: _ => t.all isDigit && c != 0x30 && t.length ≤ 3 && readDigits (t.map (· - 0x30)) ≤ 255

/-- The text is an address of version 4. -/
def isVersion4 (t : Text) : Bool :=
  let ps := Text.partsAt dot t
  ps.length == 4 && ps.all isOctet

/-- The character is a hexadecimal digit. -/
def isHexDigit (c : CodePoint) : Bool := (hexValue? c).isSome

/-- The text is one group of an address of version 6: one to four hexadecimal digits. -/
def isGroup (t : Text) : Bool := !t.isEmpty && t.all isHexDigit && t.length ≤ 4

/-- How many groups the parts between colons give. An address of version 4 may stand for the last two
groups of the whole. -/
def groupCount? (atEnd : Bool) : List Text → Option Nat
  | [] => some 0
  | p :: ps =>
    if isGroup p then (groupCount? atEnd ps).map (· + 1)
    else if atEnd && ps.isEmpty && isVersion4 p then some 2
    else none

/-- The parts of one side of a gap, which may be empty. -/
def sideParts (t : Text) : List Text := if t.isEmpty then [] else Text.partsAt colon t

/-- What stands before the first two colons in a row and what follows them, if there are such. -/
def cutAtGap? : Text → Option (Text × Text)
  | [] => none
  | c :: t =>
    if c = colon ∧ t.head? = some colon then some ([], t.tail)
    else (cutAtGap? t).map fun s => (c :: s.1, s.2)

/-- The text is an address of version 6 without a zone. A gap stands for at least one group. -/
def isGroups (t : Text) : Bool :=
  match cutAtGap? t with
  | none => groupCount? true (Text.partsAt colon t) == some 8
  | some (a, b) =>
    match groupCount? false (sideParts a), groupCount? true (sideParts b) with
    | some m, some n => m + n ≤ 7
    | _, _ => false

/-- The text is an address of version 6. Its zone follows a percent sign and has none itself. -/
def isVersion6 (t : Text) : Bool :=
  match Text.cutAt percent t with
  | (a, none) => isGroups a
  | (a, some zone) => !zone.isEmpty && !zone.contains percent && isGroups a

/-- The text starts as an address of a later version. -/
def startsLaterVersion (t : Text) : Bool := t.head? == some 0x76

/-- The text is an address of a later version: the letter `v`, hexadecimal digits for the version, a full
stop and something more. -/
def isLaterVersion (t : Text) : Bool :=
  startsLaterVersion t &&
    match Text.cutAt dot t.tail with
    | (version, some r) => !version.isEmpty && version.all isHexDigit && !r.isEmpty
    | (_, none) => false

end DeltaBridge.NumericHost
