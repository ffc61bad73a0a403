import DeltaBridge.Value.Basic

/-!
# Lexemes of JSON

A JSON text cut into its smallest meaningful pieces, each with its place. Cutting never fails: what
starts no piece, or goes wrong inside a string or a number, is a piece of its own, and the reader
decides whether a value was due there.

* `Json.Fault`, `Json.Error`, `Json.Error.message`: what can be wrong with a text;
* `Json.scanString`, `Json.scanNumber`: strings and numbers;
* `Json.lex`: the cutting.
-/

namespace DeltaBridge.Json

open Ascii

/-! ## Errors -/

/-- What is wrong with the syntax of a text. -/
inductive Fault where
  | byteOrderMark
  | noValue
  | noName
  | noColon
  | noComma
  | extraData
  | unterminatedString
  | controlCharacter
  | unknownEscape
  | malformedCodeEscape
  deriving DecidableEq, Repr

/-- The fault in words. -/
def Fault.reason : Fault → String
  | .byteOrderMark => "Unexpected UTF-8 BOM (decode using utf-8-sig)"
  | .noValue => "Expecting value"
  | .noName => "Expecting property name enclosed in double quotes"
  | .noColon => "Expecting ':' delimiter"
  | .noComma => "Expecting ',' delimiter"
  | .extraData => "Extra data"
  | .unterminatedString => "Unterminated string starting at"
  | .controlCharacter => "Invalid control character at"
  | .unknownEscape => "Invalid \\escape"
  | .malformedCodeEscape => "Invalid \\uXXXX escape"

/-- A fault at a place of the text, counted in code points from zero. -/
structure Malformed where
  fault : Fault
  position : Nat
  deriving DecidableEq, Repr

/-- The three numbers that JSON has no notation for. -/
inductive Constant where
  | nan
  | infinity
  | negativeInfinity
  deriving DecidableEq, Repr

namespace Constant

/-- How some writers spell the number. -/
def name : Constant → String
  | nan => "NaN"
  | infinity => "Infinity"
  | negativeInfinity => "-Infinity"

/-- The number. -/
def toFloat : Constant → Float
  | nan => 0.0 / 0.0
  | infinity => 1.0 / 0.0
  | negativeInfinity => -1.0 / 0.0

end Constant

/-- The two kinds of values that hold others. -/
inductive Container where
  | array
  | object
  deriving DecidableEq, Repr

/-- Why a text has no value. -/
inductive Error where
  | malformed (m : Malformed)
  /-- A number without a notation in JSON stands where a value is due. -/
  | constant (c : Constant)
  /-- An integer has more digits than are read. -/
  | longInteger (digits : Nat)
  /-- Values are nested deeper than the reader goes. -/
  | tooDeep (c : Container)
  deriving DecidableEq, Repr

/-- Line and column of a place, both from one. -/
def lineAndColumn (t : Text) (position : Nat) : Nat × Nat :=
  let before := t.take position
  (before.count lineFeed + 1, (before.reverse.takeWhile (· ≠ lineFeed)).length + 1)

/-- The error that reading the text `t` ended with, in words. -/
def Error.message (t : Text) : Error → Text
  | .malformed m =>
    let (line, column) := lineAndColumn t m.position
    m.fault.reason ++ ": line " ++ natText line ++ " column " ++ natText column ++ " (char " ++
      natText m.position ++ ")"
  | .constant c => "non-standard JSON constant " ++ c.name
  | .longInteger n => "Exceeds the limit (" ++ natText digitLimit ++
      " digits) for integer string conversion: value has " ++ natText n ++
      " digits; use sys.set_int_max_str_digits() to increase the limit"
  | .tooDeep .array => "maximum recursion depth exceeded while decoding a JSON array from a unicode string"
  | .tooDeep .object => "maximum recursion depth exceeded while decoding a JSON object from a unicode string"

/-! ## Strings -/

/-- The code of the four hexadecimal digits at the start of a text. -/
def code? : Text → Option Nat
  | a :: b :: c :: d :: _ => do
    let a ← hexValue? a
    let b ← hexValue? b
    let c ← hexValue? c
    let d ← hexValue? d
    return ((a * 16 + b) * 16 + c) * 16 + d
  | _ => none

/-- The code of a code escape whose digits start the text; a character must follow the digits. -/
def codeEscape? (t : Text) : Option Nat := if (t.drop 4).isEmpty then none else code? t

/-- The first of a pair of surrogates. -/
def isHighSurrogate (c : CodePoint) : Bool := 0xD800 ≤ c && c ≤ 0xDBFF

/-- The second of a pair of surrogates. -/
def isLowSurrogate (c : CodePoint) : Bool := 0xDC00 ≤ c && c ≤ 0xDFFF

/-- The character of a pair of surrogates. -/
def joinSurrogates (high low : CodePoint) : CodePoint := 0x10000 + (high - 0xD800) * 0x400 + (low - 0xDC00)

/-- The character that an escape of one letter stands for. -/
def letterEscape? (c : CodePoint) : Option CodePoint :=
  if c = quote ∨ c = backslash ∨ c = slash then some c
  else if c = 0x62 then some 0x08
  else if c = 0x66 then some 0x0C
  else if c = 0x6E then some lineFeed
  else if c = 0x72 then some carriageReturn
  else if c = 0x74 then some tab
  else none

/-- The second of a pair of surrogates, if an escape for one starts the text. -/
def lowEscape? : Text → Option CodePoint
  | backslash :: 0x75 :: t =>
    match codeEscape? t with
    | some c => if isLowSurrogate c then some c else none
    | none => none
  | _ => none

/-- The character of the escape whose backslash is followed by `t`, and the length of the escape
after its backslash. Two escapes for a pair of surrogates are one escape for the character. -/
def escape (t : Text) : Except Fault (CodePoint × Nat) :=
  match t with
  | [] => .error .unterminatedString
  | 0x75 :: r =>
    match codeEscape? r with
    | none => .error .malformedCodeEscape
    | some high =>
      match if isHighSurrogate high then lowEscape? (r.drop 4) else none with
      | some low => .ok (joinSurrogates high low, 11)
      | none => .ok (high, 5)
  | c :: _ =>
    match letterEscape? c with
    | some x => .ok (x, 1)
    | none => .error .unknownEscape

/-- Where the fault of an escape is reported, for a string that starts at `start` and a backslash at
`position`. -/
def escapeFault (start position : Nat) : Fault → Malformed
  | .unterminatedString => ⟨.unterminatedString, start⟩
  | .malformedCodeEscape => ⟨.malformedCodeEscape, position + 1⟩
  | f => ⟨f, position⟩

/-- The characters of a string up to its closing quote, and the place after that. The string starts
at `start`, the text at `position`; the first `skip` characters belong to an escape already read. -/
def scanString (start : Nat) : (position skip : Nat) → Text → Except Malformed (Text × Nat)
  | _, _, [] => .error ⟨.unterminatedString, start⟩
  | p, k + 1, _ :: r => scanString start (p + 1) k r
  | p, 0, c :: r =>
    if c = quote then .ok ([], p + 1)
    else if c = backslash then
      match escape r with
      | .error f => .error (escapeFault start p f)
      | .ok (x, n) => (scanString start (p + 1) n r).map fun s => (x :: s.1, s.2)
    else if c < 0x20 then .error ⟨.controlCharacter, p⟩
    else (scanString start (p + 1) 0 r).map fun s => (c :: s.1, s.2)

/-! ## Numbers -/

/-- The values of the ASCII digits at the start of a text, and what follows them. -/
def spanAsciiDigits : Text → List Nat × Text
  | [] => ([], [])
  | c :: t => if isDigit c then let (ds, r) := spanAsciiDigits t; ((c - 0x30) :: ds, r) else ([], c :: t)

/-- The digits of a fraction at the start of a text, and what follows it; nothing if there is none. -/
def spanFraction (t : Text) : List Nat × Text :=
  match t with
  | dot :: r =>
    match spanAsciiDigits r with
    | ([], _) => ([], t)
    | s => s
  | _ => ([], t)

/-- An exponent at the start of a text, and what follows it. -/
def spanExponent (t : Text) : Option Int × Text :=
  match t with
  | c :: r =>
    if c = 0x65 ∨ c = 0x45 then
      let (negative, u) := spanSign r
      match spanAsciiDigits u with
      | ([], _) => (none, t)
      | (ds, rest) => (some (signed negative ds), rest)
    else (none, t)
  | [] => (none, t)

/-- A number as it is written. -/
inductive Literal where
  /-- Digits alone, with their sign. -/
  | integer (negative : Bool) (digits : List Nat)
  /-- Digits with a fraction or an exponent. -/
  | decimal (n : Numeral)
  deriving DecidableEq, Repr

/-- The digits before the point: a zero, or digits that do not start with one. -/
def spanWhole : Text → List Nat × Text
  | 0x30 :: t => ([0], t)
  | t => spanAsciiDigits t

/-- A minus sign at the start of a text, and what follows it. -/
def spanMinus : Text → Bool × Text
  | minus :: t => (true, t)
  | t => (false, t)

/-- The longest number at the start of a text, and what follows it. -/
def scanNumber (t : Text) : Option (Literal × Text) :=
  let (negative, u) := spanMinus t
  match spanWhole u with
  | ([], _) => none
  | (whole, r) =>
    let (fraction, r) := spanFraction r
    let (exponent, r) := spanExponent r
    if fraction.isEmpty && exponent.isNone then some (.integer negative whole, r)
    else some (.decimal ⟨negative, whole, fraction, exponent.getD 0⟩, r)

/-- The value of a number. -/
def Literal.value : Literal → Except Error Value
  | .integer negative ds =>
    if ds.length ≤ digitLimit then .ok (.int (signed negative ds)) else .error (.longInteger ds.length)
  | .decimal n => .ok (.float n.toFloat)

/-! ## Lexemes -/

/-- The smallest meaningful pieces of a JSON text. -/
inductive Token where
  | openArray
  | closeArray
  | openObject
  | closeObject
  | comma
  | colon
  | string (t : Text)
  /-- A value without parts that is not a string. -/
  | scalar (v : Value)
  | constant (c : Constant)
  /-- A string or a number that starts here and goes wrong. -/
  | broken (e : Error)
  /-- A string starts here and goes wrong. -/
  | brokenString (m : Malformed)
  /-- Nothing that starts a piece. -/
  | stray

/-- A piece with the place where it starts. -/
structure Lexeme where
  token : Token
  position : Nat

/-- White space between pieces. -/
def isSpace (c : CodePoint) : Bool := c == space || c == tab || c == lineFeed || c == carriageReturn

/-- The words of JSON and of its extensions, each with its piece. -/
def words : List (Text × Token) :=
  [("null", .scalar .null), ("true", .scalar (.bool true)), ("false", .scalar (.bool false)),
   ("NaN", .constant .nan), ("Infinity", .constant .infinity), ("-Infinity", .constant .negativeInfinity)]

/-- The word that starts a text. -/
def word? (t : Text) : Option (Token × Nat) :=
  (words.find? fun w => w.1.isPrefixOf t).map fun w => (w.2, w.1.length)

/-- The piece that starts with a character, and how many of the characters after it belong to it. -/
def piece (position : Nat) (c : CodePoint) (r : Text) : Token × Nat :=
  if c = openBracket then (.openArray, 0)
  else if c = closeBracket then (.closeArray, 0)
  else if c = openBrace then (.openObject, 0)
  else if c = closeBrace then (.closeObject, 0)
  else if c = Ascii.comma then (.comma, 0)
  else if c = Ascii.colon then (.colon, 0)
  else if c = quote then
    match scanString position (position + 1) 0 r with
    | .ok (t, stop) => (.string t, stop - (position + 1))
    | .error m => (.brokenString m, 0)
  else
    match word? (c :: r) with
    | some (token, n) => (token, n - 1)
    | none =>
      match scanNumber (c :: r) with
      | none => (.stray, 0)
      | some (n, rest) =>
        match n.value with
        | .ok v => (.scalar v, r.length - rest.length)
        | .error e => (.broken e, r.length - rest.length)

/-- The pieces of a text that starts at `position` and whose first `skip` characters belong to an
earlier piece. -/
def lexFrom : (position skip : Nat) → Text → List Lexeme
  | _, _, [] => []
  | p, k + 1, _ :: r => lexFrom (p + 1) k r
  | p, 0, c :: r =>
    if isSpace c then lexFrom (p + 1) 0 r
    else
      let (token, n) := piece p c r
      ⟨token, p⟩ :: lexFrom (p + 1) n r

/-- The pieces of a text. -/
def lex (t : Text) : List Lexeme := lexFrom 0 0 t

end DeltaBridge.Json
