import DeltaBridge.Path.Basic

/-!
# Lexemes of paths

A path expression cut into its pieces: marks, names, numbers, quoted texts and operators in grave
accents. Blanks, tabs and line feeds may stand between them.

* `Path.Token`; `Path.lex?`: the pieces of an expression, if it has only such.
-/

namespace DeltaBridge.Path

open Ascii

/-- The pieces of a path expression. -/
inductive Token where
  | dollar
  | at
  | dot
  | dotDot
  | star
  | plus
  | minus
  | bar
  | barBar
  | ampersand
  | ampersandAmpersand
  | comma
  | colon
  | bang
  | question
  | openBracket
  | closeBracket
  | openParen
  | closeParen
  | relation (r : Relation)
  /-- The word `where`. -/
  | having
  /-- The word `wherenot`. -/
  | lacking
  /-- A name without quotes. -/
  | word (t : Text)
  /-- A name in quotes. -/
  | quoted (t : Text)
  | integer (n : Int)
  | decimal (x : Float)
  /-- What stands between two grave accents. -/
  | operator (t : Text)
  deriving DecidableEq

/-- The piece that a word without quotes makes. Two words are operators and no names. -/
def Token.ofWord (t : Text) : Token :=
  if t = ("where" : Text) then .having
  else if t = ("wherenot" : Text) then .lacking
  else .word t

/-- The character can start a name without quotes. -/
def startsWord (c : CodePoint) : Bool := isLetter c || c == underscore

/-- The character can continue a name without quotes. -/
def continuesWord (c : CodePoint) : Bool :=
  startsWord c || isDigit c || c == atSign || c == Ascii.minus

/-- The text up to the closing mark `q`, where a backslash makes the next character stand for itself,
and the number of characters up to and with that mark. -/
def closing? (q : CodePoint) : Text → Option (Text × Nat)
  | [] => none
  | c :: r =>
    if c = q then some ([], 1)
    else if c = backslash then
      match r with
      | [] => none
      | d :: r => if d = lineFeed then none else (closing? q r).map fun s => (d :: s.1, s.2 + 2)
    else (closing? q r).map fun s => (c :: s.1, s.2 + 1)

/-- An integer with the given digits and its length, unless there are too many. -/
def integerToken? (negative : Bool) (ds : List Nat) : Option (Token × Nat) :=
  if ds.length ≤ digitLimit then some (.integer (signed negative ds), ds.length) else none

/-- The number that starts with the digits of `t`, after a sign, and its length without the sign. -/
def number? (negative : Bool) (t : Text) : Option (Token × Nat) :=
  match spanDigits t with
  | ([], _) => none
  | (ds, r) =>
    match r with
    | Ascii.dot :: r =>
      match spanDigits r with
      | ([], _) => integerToken? negative ds
      | (fs, _) => some (.decimal (Numeral.toFloat ⟨negative, ds, fs, 0⟩), ds.length + 1 + fs.length)
    | _ => integerToken? negative ds

/-- The word that starts with the given characters and goes on in the text, and how much of the text
belongs to it. -/
def word (start r : Text) : Token × Nat :=
  let tail := r.takeWhile continuesWord
  (.ofWord (start ++ tail), tail.length)

/-- The piece that starts with a character, and how many of the characters after it belong to it. -/
def piece? (c : CodePoint) (r : Text) : Option (Token × Nat) :=
  if c = dollar then some (.dollar, 0)
  else if c = atSign then
    match r with
    | d :: r' =>
      if startsWord d then
        let w := word [atSign, d] r'
        some (w.1, w.2 + 1)
      else some (.at, 0)
    | [] => some (.at, 0)
  else if c = Ascii.dot then if r.head? = some Ascii.dot then some (.dotDot, 1) else some (.dot, 0)
  else if c = star then some (.star, 0)
  else if c = Ascii.plus then some (.plus, 0)
  else if c = Ascii.bar then if r.head? = some Ascii.bar then some (.barBar, 1) else some (.bar, 0)
  else if c = Ascii.ampersand then
    if r.head? = some Ascii.ampersand then some (.ampersandAmpersand, 1) else some (.ampersand, 0)
  else if c = Ascii.comma then some (.comma, 0)
  else if c = Ascii.colon then some (.colon, 0)
  else if c = Ascii.question then some (.question, 0)
  else if c = Ascii.openBracket then some (.openBracket, 0)
  else if c = Ascii.closeBracket then some (.closeBracket, 0)
  else if c = Ascii.openParen then some (.openParen, 0)
  else if c = Ascii.closeParen then some (.closeParen, 0)
  else if c = equals then
    if r.head? = some equals then some (.relation .equal, 1) else some (.relation .equal, 0)
  else if c = Ascii.bang then
    if r.head? = some equals then some (.relation .unequal, 1) else some (.bang, 0)
  else if c = less then
    if r.head? = some equals then some (.relation .lessOrEqual, 1) else some (.relation .less, 0)
  else if c = greater then
    if r.head? = some equals then some (.relation .greaterOrEqual, 1) else some (.relation .greater, 0)
  else if c = apostrophe ∨ c = quote then (closing? c r).map fun s => (.quoted s.1, s.2)
  else if c = grave then (closing? c r).map fun s => (.operator s.1, s.2)
  else if c = Ascii.minus then
    match number? true r with
    | some s => some s
    | none => if ((spanDigits r).1).isEmpty then some (.minus, 0) else none
  else if isDecimalDigit c then (number? false (c :: r)).map fun s => (s.1, s.2 - 1)
  else if startsWord c then some (word [c] r)
  else none

/-- The pieces of an expression whose first `skip` characters belong to an earlier piece. -/
def lexFrom? : (skip : Nat) → Text → Option (List Token)
  | _, [] => some []
  | k + 1, _ :: r => lexFrom? k r
  | 0, c :: r =>
    if c = space ∨ c = tab ∨ c = lineFeed then lexFrom? 0 r
    else
      match piece? c r with
      | none => none
      | some (t, n) => (lexFrom? n r).map (t :: ·)

/-- The pieces of an expression. -/
def lex? (t : Text) : Option (List Token) := lexFrom? 0 t

end DeltaBridge.Path
