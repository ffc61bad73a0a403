import DeltaBridge.Text.CaseTable

/-!
# Lower and upper case

The full case mappings of Unicode. A few characters become several, and a capital sigma at the end
of a word becomes the final form of the small letter.

* `Text.lower`, `Text.upper`: the mappings;
* `lowerAscii`: the mapping on the letters of ASCII alone.
-/

namespace DeltaBridge

/-- The character moved as the first run that covers it says; itself if none does. -/
def shiftCase (table : List CaseShift) (c : CodePoint) : CodePoint :=
  match table.find? (·.covers c) with
  | some s => (c + s.offset).toNat
  | none => c

/-- The character lies in one of the ranges. -/
def inRanges (ranges : List (Nat × Nat)) (c : CodePoint) : Bool :=
  ranges.any fun r => r.1 ≤ c && c ≤ r.2

/-- A character has a case and ends a search for the end of a word. -/
def isCased (c : CodePoint) : Bool := inRanges casedRanges c

/-- A search for the end of a word skips the character. -/
def isCaseIgnorable (c : CodePoint) : Bool := inRanges ignorableRanges c

/-- The first character that such a search does not skip has a case. -/
def meetsCased (t : Text) : Bool := (t.dropWhile isCaseIgnorable).head?.any isCased

/-- The capital sigma. -/
abbrev capitalSigma : CodePoint := 0x3A3

/-- The lower case of `c` between the characters `before` (nearest first) and `after`. -/
def lowerBetween (before : Text) (c : CodePoint) (after : Text) : Text :=
  if c = capitalSigma then
    if meetsCased before && !meetsCased after then [0x3C2] else [0x3C3]
  else if c = 0x130 then [0x69, 0x307]
  else [shiftCase lowerShifts c]

/-- The upper case of a character. -/
def upperOf (c : CodePoint) : Text :=
  match upperExpansions.lookup c with
  | some t => t
  | none => [shiftCase upperShifts c]

namespace Text

/-- The lower case of the second text, which follows the reverse of the first. -/
def lowerAfter : (before t : Text) → Text
  | _, [] => []
  | before, c :: t => lowerBetween before c t ++ lowerAfter (c :: before) t

/-- The text in lower case. -/
def lower (t : Text) : Text := lowerAfter [] t

/-- The text in upper case. -/
def upper (t : Text) : Text := t.flatMap upperOf

end Text

/-- The lower case of an ASCII letter; any other character is left alone. -/
def lowerAscii (c : CodePoint) : CodePoint := if 0x41 ≤ c ∧ c ≤ 0x5A then c + 0x20 else c

end DeltaBridge
