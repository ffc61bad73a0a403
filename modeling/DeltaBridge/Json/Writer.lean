import DeltaBridge.Json.Lexeme

/-!
# Writing JSON

A value as a JSON text in ASCII, with a space after commas and colons. Some values have none:
infinities and NaN, bytes, integers longer than are ever written out, and what is nested too deep.

* `Json.WriteError`: why there is no text;
* `Json.writeString`; `Json.writeTo`: the text, up to a depth; `Json.write`: up to the usual one.
-/

namespace DeltaBridge.Json

open Ascii

/-- Why a value has no JSON text. -/
inductive WriteError where
  | nonFinite
  | longInteger
  | bytes
  /-- The lists and objects are nested too deep. -/
  | tooDeep
  deriving DecidableEq, Repr

/-- The reason in words. -/
def WriteError.message : WriteError → Text
  | .nonFinite => "Out of range float values are not JSON compliant"
  | .longInteger => longIntegerText
  | .bytes => "Object of type bytes is not JSON serializable"
  | .tooDeep => "maximum recursion depth exceeded while encoding a JSON object"

/-- The code escape of a code below 2 to the power 16. -/
def codeEscape (c : Nat) : Text := backslash :: 0x75 :: hex 4 c

/-- A character inside a string. -/
def writeChar (c : CodePoint) : Text :=
  if c = quote ∨ c = backslash then [backslash, c]
  else if c = lineFeed then "\\n"
  else if c = carriageReturn then "\\r"
  else if c = tab then "\\t"
  else if c = 0x0C then "\\f"
  else if c = 0x08 then "\\b"
  else if 0x20 ≤ c ∧ c < 0x7F then [c]
  else if c < 0x10000 then codeEscape c
  else codeEscape (0xD800 + (c - 0x10000) / 0x400) ++ codeEscape (0xDC00 + (c - 0x10000) % 0x400)

/-- A text as a string. -/
def writeString (t : Text) : Text := quote :: (t.flatMap writeChar ++ [quote])

mutual

/-- The JSON text of a value whose lists and objects are nested up to the given depth. -/
def writeTo (limit : Nat) : Value → Except WriteError Text
  | .null => .ok "null"
  | .bool b => .ok (if b then "true" else "false")
  | .int n => if Value.isLong n then .error .longInteger else .ok (intText n)
  | .float x => if x.isFinite then .ok (floatText x) else .error .nonFinite
  | .text t => .ok (writeString t)
  | .bytes _ => .error .bytes
  | .list xs =>
    if limit = 0 then .error .tooDeep
    else (writeItems (limit - 1) xs).map fun ts => "[" ++ Text.joinWith ", " ts ++ "]"
  | .object ms =>
    if limit = 0 then .error .tooDeep
    else (writeMembers (limit - 1) ms).map fun ts => "\x7b" ++ Text.joinWith ", " ts ++ "\x7d"

/-- The JSON texts of items; the first without one decides. -/
def writeItems (limit : Nat) : List Value → Except WriteError (List Text)
  | [] => .ok []
  | x :: xs =>
    match writeTo limit x with
    | .ok t => (writeItems limit xs).map (t :: ·)
    | .error e => .error e

/-- The JSON texts of members; the first without one decides. -/
def writeMembers (limit : Nat) : List (Text × Value) → Except WriteError (List Text)
  | [] => .ok []
  | (k, v) :: ms =>
    match writeTo limit v with
    | .ok t => (writeMembers limit ms).map ((writeString k ++ ": " ++ t) :: ·)
    | .error e => .error e

end

/-- The JSON text of a value. -/
def write (v : Value) : Except WriteError Text := writeTo depthLimit v

end DeltaBridge.Json
