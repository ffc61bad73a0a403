import DeltaBridge.Text.Printable

/-!
# Quoted texts

How a text or a byte string is shown inside a message: between quotes, with what cannot be shown
as it is escaped. The quotes are apostrophes, unless the text has an apostrophe and no double
quote.

* `Text.quoted`, `quotedBytes`.
-/

namespace DeltaBridge

open Ascii

/-- The quote to put around a text. -/
def quoteFor (t : Text) : CodePoint := if apostrophe ∈ t ∧ quote ∉ t then quote else apostrophe

/-- The escape of a character that has none of its own, by the least of two, four or eight digits. -/
def codeEscape (c : CodePoint) : Text :=
  if c < 0x100 then backslash :: 0x78 :: hex 2 c
  else if c < 0x10000 then backslash :: 0x75 :: hex 4 c
  else backslash :: 0x55 :: hex 8 c

/-- A character between quotes `q`, where the characters of `plain` stand for themselves. -/
def quotedChar (plain : CodePoint → Bool) (q c : CodePoint) : Text :=
  if c = q ∨ c = backslash then [backslash, c]
  else if c = lineFeed then "\\n"
  else if c = carriageReturn then "\\r"
  else if c = tab then "\\t"
  else if plain c then [c]
  else codeEscape c

/-- The text between quotes. -/
def Text.quoted (t : Text) : Text :=
  quoteFor t :: (t.flatMap (quotedChar isPrintable (quoteFor t)) ++ [quoteFor t])

/-- The bytes between quotes, after a `b`; only the visible characters of ASCII stand for themselves. -/
def quotedBytes (b : Bytes) : Text :=
  0x62 :: quoteFor b ::
    (b.flatMap (quotedChar (fun c => 0x20 ≤ c && c ≤ 0x7E) (quoteFor b)) ++ [quoteFor b])

end DeltaBridge
