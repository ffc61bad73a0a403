/-!
# Text

A text is a list of code points. Surrogates may stand alone in it, since an escape in a JSON
string can name one without its partner, and `String` has no room for those.

* `Text.ofString`, also a coercion, so that string literals serve as texts;
* `Text.dropLead?`: what follows a known start;
* `Text.joinWith`: texts with a separator between them;
* `Ascii`: the characters that the formats of this library give a meaning to.
-/

namespace DeltaBridge

/-- A Unicode code point, a lone surrogate included. -/
abbrev CodePoint := Nat

/-- A text: its code points in order. -/
abbrev Text := List CodePoint

/-- A string of bytes, each below 256. -/
abbrev Bytes := List Nat

namespace Text

/-- The code points of a string. -/
def ofString (s : String) : Text := s.toList.map Char.toNat

instance : Coe String Text := ⟨ofString⟩

/-- The texts in order, with the separator between each two. -/
def joinWith (sep : Text) : List Text → Text
  | [] => []
  | [t] => t
  | t :: u :: r => t ++ sep ++ joinWith sep (u :: r)

@[simp] theorem joinWith_nil (sep : Text) : joinWith sep [] = [] := rfl

@[simp] theorem joinWith_singleton (sep t : Text) : joinWith sep [t] = t := rfl

theorem joinWith_cons_cons (sep t u : Text) (r : List Text) :
    joinWith sep (t :: u :: r) = t ++ sep ++ joinWith sep (u :: r) := rfl

/-- A text that starts with `lead` has that start taken off. -/
def dropLead? : (lead t : Text) → Option Text
  | [], t => some t
  | _ :: _, [] => none
  | a :: lead, c :: t => if a = c then dropLead? lead t else none

theorem dropLead?_append (lead t : Text) : dropLead? lead (lead ++ t) = some t := by
  induction lead with
  | nil => rfl
  | cons a lead ih => simp [dropLead?, ih]

theorem eq_append_of_dropLead? {lead t r : Text} (h : dropLead? lead t = some r) : t = lead ++ r := by
  induction lead generalizing t with
  | nil => simpa [dropLead?] using h
  | cons a lead ih =>
    cases t with
    | nil => simp [dropLead?] at h
    | cons c t =>
      by_cases hc : a = c
      · subst hc
        simp only [dropLead?, if_true] at h
        rw [ih h, List.cons_append]
      · simp [dropLead?, hc] at h

/-- The text with every occurrence of the code point `c` replaced by the text `u`. -/
def replaceAll (c : CodePoint) (u : Text) (t : Text) : Text := t.flatMap fun x => if x = c then u else [x]

end Text

/-! ## Single characters -/

namespace Ascii

/-- A line feed. -/
@[match_pattern] abbrev lineFeed : CodePoint := 0x0A
/-- A carriage return. -/
@[match_pattern] abbrev carriageReturn : CodePoint := 0x0D
/-- A horizontal tab. -/
@[match_pattern] abbrev tab : CodePoint := 0x09
/-- A space. -/
@[match_pattern] abbrev space : CodePoint := 0x20
/-- An exclamation mark. -/
@[match_pattern] abbrev bang : CodePoint := 0x21
/-- A double quote. -/
@[match_pattern] abbrev quote : CodePoint := 0x22
/-- A number sign. -/
@[match_pattern] abbrev hash : CodePoint := 0x23
/-- A dollar sign. -/
@[match_pattern] abbrev dollar : CodePoint := 0x24
/-- A percent sign. -/
@[match_pattern] abbrev percent : CodePoint := 0x25
/-- An ampersand. -/
@[match_pattern] abbrev ampersand : CodePoint := 0x26
/-- An apostrophe. -/
@[match_pattern] abbrev apostrophe : CodePoint := 0x27
/-- An opening parenthesis. -/
@[match_pattern] abbrev openParen : CodePoint := 0x28
/-- A closing parenthesis. -/
@[match_pattern] abbrev closeParen : CodePoint := 0x29
/-- An asterisk. -/
@[match_pattern] abbrev star : CodePoint := 0x2A
/-- A plus sign. -/
@[match_pattern] abbrev plus : CodePoint := 0x2B
/-- A comma. -/
@[match_pattern] abbrev comma : CodePoint := 0x2C
/-- A minus sign. -/
@[match_pattern] abbrev minus : CodePoint := 0x2D
/-- A full stop. -/
@[match_pattern] abbrev dot : CodePoint := 0x2E
/-- A slash. -/
@[match_pattern] abbrev slash : CodePoint := 0x2F
/-- A colon. -/
@[match_pattern] abbrev colon : CodePoint := 0x3A
/-- A less-than sign. -/
@[match_pattern] abbrev less : CodePoint := 0x3C
/-- An equals sign. -/
@[match_pattern] abbrev equals : CodePoint := 0x3D
/-- A greater-than sign. -/
@[match_pattern] abbrev greater : CodePoint := 0x3E
/-- A question mark. -/
@[match_pattern] abbrev question : CodePoint := 0x3F
/-- A commercial at. -/
@[match_pattern] abbrev atSign : CodePoint := 0x40
/-- An opening bracket. -/
@[match_pattern] abbrev openBracket : CodePoint := 0x5B
/-- A backslash. -/
@[match_pattern] abbrev backslash : CodePoint := 0x5C
/-- A closing bracket. -/
@[match_pattern] abbrev closeBracket : CodePoint := 0x5D
/-- An underscore. -/
@[match_pattern] abbrev underscore : CodePoint := 0x5F
/-- A grave accent. -/
@[match_pattern] abbrev grave : CodePoint := 0x60
/-- An opening brace. -/
@[match_pattern] abbrev openBrace : CodePoint := 0x7B
/-- A vertical bar. -/
@[match_pattern] abbrev bar : CodePoint := 0x7C
/-- A closing brace. -/
@[match_pattern] abbrev closeBrace : CodePoint := 0x7D

/-- The code point is one of `0` to `9`. -/
def isDigit (c : CodePoint) : Bool := 0x30 ≤ c && c ≤ 0x39

/-- The code point is one of `A` to `Z` or `a` to `z`. -/
def isLetter (c : CodePoint) : Bool := (0x41 ≤ c && c ≤ 0x5A) || (0x61 ≤ c && c ≤ 0x7A)

/-- The value of a hexadecimal digit, in either case. -/
def hexValue? (c : CodePoint) : Option Nat :=
  if 0x30 ≤ c ∧ c ≤ 0x39 then some (c - 0x30)
  else if 0x61 ≤ c ∧ c ≤ 0x66 then some (c - 0x57)
  else if 0x41 ≤ c ∧ c ≤ 0x46 then some (c - 0x37)
  else none

/-- The hexadecimal digit of a value below 16, in lower case. -/
def hexDigit (n : Nat) : CodePoint := if n < 10 then 0x30 + n else 0x57 + n

theorem hexValue?_hexDigit : ∀ n < 16, hexValue? (hexDigit n) = some n := by decide

/-- The last `width` hexadecimal digits of `n`, most significant first. -/
def hex : (width n : Nat) → Text
  | 0, _ => []
  | w + 1, n => hex w (n / 16) ++ [hexDigit (n % 16)]

theorem length_hex (w n : Nat) : (hex w n).length = w := by
  induction w generalizing n with
  | zero => rfl
  | succ w ih => simp [hex, ih]

end Ascii

end DeltaBridge
