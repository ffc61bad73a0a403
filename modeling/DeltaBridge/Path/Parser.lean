import DeltaBridge.Path.Lexeme

/-!
# Parsing paths

A path expression is a chain of links. The operators that join the links bind, from the loosest to
the tightest: descent, member step, union, intersection, and the words `where` and `wherenot`; those
of one kind go from left to right. A step in brackets applies to the whole chain before it, and so
does a descent to a filter. Arithmetic binds more loosely than all of these and goes from right to
left, but a number on its right side ends it.

* `Path.BinaryOp`: the operators of chains and how tightly they bind; `Path.close`: closing the
  operators that bind at least as tightly as the next one;
* `Path.singleSteps`, `Path.comparand`: what a path is compared with;
* `Path.lastNumber?`: a number that an operation ends with;
* `Path.ofTokens`, `Path.parse`: the path of an expression, or where it goes wrong.
-/

namespace DeltaBridge.Path

/-- What is wrong with an expression. -/
inductive Refusal where
  /-- It stops too early. -/
  | tooShort
  /-- A piece stands where it cannot. -/
  | misplaced
  /-- Any other reason that a matcher has. -/
  | other (reason : Text)
  deriving DecidableEq, Repr

/-- The refusal in words. -/
def Refusal.message : Refusal → Text
  | .tooShort => "Parse error near the end of string!"
  | .misplaced => "Parse error at a misplaced token"
  | .other reason => reason

/-- The result of parsing the start of an expression, with what follows it. -/
abbrev Parsed (α : Type) := Except Refusal (α × List Token)

/-- The pieces cannot go on like this. -/
def refuse {α : Type} (ts : List Token) : Parsed α := .error (if ts.isEmpty then .tooShort else .misplaced)

/-! ## Chains -/

/-- The operators that join two chains. -/
inductive BinaryOp where
  | descend
  | child
  | union
  | intersect
  | having
  | lacking
  deriving DecidableEq, Repr

namespace BinaryOp

/-- How tightly an operator binds. -/
def strength : BinaryOp → Nat
  | descend => 1
  | child => 2
  | union => 3
  | intersect => 4
  | having => 5
  | lacking => 6

/-- The chain that the operator makes of two. -/
def apply : BinaryOp → Path → Path → Path
  | descend => .descend
  | child => .child
  | union => .union
  | intersect => .intersect
  | having => .having
  | lacking => .lacking

/-- The operator of a piece. -/
def ofToken? : Token → Option BinaryOp
  | .dotDot => some descend
  | .dot => some child
  | .bar => some union
  | .ampersand => some intersect
  | .having => some having
  | .lacking => some lacking
  | _ => none

end BinaryOp

/-- The chain `p` after the operators before it that bind with at least the given strength have been
applied, and the operators that remain, nearest first. -/
def close (strength : Nat) : List (Path × BinaryOp) → Path → List (Path × BinaryOp) × Path
  | [], p => ([], p)
  | (l, op) :: pending, p =>
    if strength ≤ op.strength then close strength pending (op.apply l p) else ((l, op) :: pending, p)

/-- The chain `p` with all operators before it applied. -/
def closeAll (pending : List (Path × BinaryOp)) (p : Path) : Path := (close 0 pending p).2

/-! ## Steps in brackets -/

/-- The names of a list that go on after a name. -/
def moreNames : List Token → List Text × List Token
  | .comma :: .word t :: ts => let (ns, r) := moreNames ts; (t :: ns, r)
  | .comma :: .quoted t :: ts => let (ns, r) := moreNames ts; (t :: ns, r)
  | ts => ([], ts)

/-- The positions of a list that go on after a position. -/
def morePositions : List Token → List Int × List Token
  | .comma :: .integer n :: ts => let (is, r) := morePositions ts; (n :: is, r)
  | ts => ([], ts)

/-- An end of a slice, which may be left out. -/
def sliceEnd : List Token → Option Int × List Token
  | .integer n :: ts => (some n, ts)
  | ts => (none, ts)

/-- A slice in brackets. -/
def sliceStep (ts : List Token) : Parsed Path :=
  let (a, r) := sliceEnd ts
  match r with
  | .colon :: r =>
    let (b, r) := sliceEnd r
    match r with
    | .closeBracket :: r => .ok (.slice a b none, r)
    | .colon :: r =>
      let (s, r) := sliceEnd r
      match r with
      | .closeBracket :: r => .ok (.slice a b s, r)
      | r => refuse r
    | r => refuse r
  | r => refuse r

/-- What stands in brackets, a condition aside. -/
def bracketStep (ts : List Token) : Parsed Path :=
  match ts with
  | .star :: .closeBracket :: r => .ok (.every, r)
  | .word t :: r | .quoted t :: r =>
    match moreNames r with
    | (ns, .closeBracket :: r) => .ok (.names (t :: ns), r)
    | (_, r) => refuse r
  | .integer n :: r =>
    match morePositions r with
    | (is, .closeBracket :: r) => .ok (.positions (n :: is), r)
    | _ => sliceStep ts
  | _ => sliceStep ts

/-- The step of an operator in grave accents. -/
def operatorStep? (t : Text) : Option Path :=
  if t = ("this" : Text) then some .current
  else if t = ("parent" : Text) then some .parent
  else if t = ("len" : Text) then some .size
  else if t = ("keys" : Text) then some .keys
  else none

/-! ## Comparisons -/

/-- The literal on the right of a comparison. A word is a text, but for the three words of JSON. -/
def literal? : Token → Option Value
  | .word t =>
    if t = ("true" : Text) then some (.bool true)
    else if t = ("false" : Text) then some (.bool false)
    else if t = ("null" : Text) then some .null
    else some (.text t)
  | .quoted t => some (.text t)
  | .integer n => some (.int n)
  | .decimal x => some (.float x)
  | _ => none

/-- The path `p` with the steps to single members and elements that follow it. -/
def singleSteps (p : Path) : List Token → Path × List Token
  | .dot :: .word t :: ts | .dot :: .quoted t :: ts
  | .openBracket :: .word t :: .closeBracket :: ts
  | .openBracket :: .quoted t :: .closeBracket :: ts => singleSteps (.child p (.names [t])) ts
  | .openBracket :: .integer n :: .closeBracket :: ts => singleSteps (.child p (.positions [n])) ts
  | ts => (p, ts)

/-- The right side of a comparison: a literal, or a path to a single node. -/
def comparand : List Token → Parsed Operand
  | .dollar :: ts => let (p, r) := singleSteps .root ts; .ok (.path p, r)
  | .at :: ts => let (p, r) := singleSteps .current ts; .ok (.path p, r)
  | t :: ts =>
    match literal? t with
    | some v => .ok (.literal v, ts)
    | none => refuse (t :: ts)
  | [] => refuse []

/-! ## Arithmetic -/

/-- The arithmetic operation of a piece. -/
def calculation? : Token → Option Calculation
  | .plus => some .add
  | .minus => some .subtract
  | .star => some .multiply
  | _ => none

/-- An arithmetic operation follows. -/
def calculationFollows : List Token → Bool
  | t :: _ => (calculation? t).isSome
  | [] => false

/-- What a number on the right side of an operation may be. -/
inductive NumberKind where
  | integer
  | decimal
  | any
  deriving DecidableEq, Repr

/-- The number of a piece, if it is of the kind. -/
def NumberKind.value? : NumberKind → Token → Option Value
  | integer, .integer n | any, .integer n => some (.int n)
  | decimal, .decimal x | any, .decimal x => some (.float x)
  | _, _ => none

/-- A number of the kind from which no operation goes on. -/
def lastNumber? (kind : NumberKind) : List Token → Option (Value × List Token)
  | t :: r => if calculationFollows r then none else (kind.value? t).map (·, r)
  | [] => none

/-! ## The grammar

Each parser takes a bound on the depth of the grammar that it may go through. -/

mutual

/-- One link of a chain. A number in front of an operation is its left side, any other integer is a
name. -/
def link : (fuel : Nat) → List Token → Parsed Path
  | 0, ts => refuse ts
  | k + 1, ts =>
    match ts with
    | .dollar :: r => .ok (.root, r)
    | .at :: r => .ok (.current, r)
    | .star :: r => .ok (.every, r)
    | .word t :: r | .quoted t :: r => let (ns, r) := moreNames r; .ok (.names (t :: ns), r)
    | .integer n :: r =>
      if calculationFollows r then operation k .integer (.literal (.int n)) r
      else .ok (.names [intText n], r)
    | .decimal x :: r => operation k .decimal (.literal (.float x)) r
    | .operator t :: r =>
      match operatorStep? t with
      | some p => .ok (p, r)
      | none => refuse (.operator t :: r)
    | .openBracket :: r => bracketStep r
    | .openParen :: r =>
      match expression k r with
      | .ok (p, .closeParen :: r) => .ok (p, r)
      | .ok (_, r) => refuse r
      | .error e => .error e
    | ts => refuse ts

/-- An operation with the left side `a`. On its right side stands a number of the given kind, or a path
that takes all that follows. -/
def operation : (fuel : Nat) → (kind : NumberKind) → (a : Operand) → List Token → Parsed Path
  | 0, _, _, ts => refuse ts
  | k + 1, kind, a, ts =>
    match ts with
    | t :: r =>
      match calculation? t with
      | some op =>
        match lastNumber? kind r with
        | some (v, r) => .ok (.compute op a (.literal v), r)
        | none =>
          match expression k r with
          | .ok (q, r) => .ok (.compute op a (.ofPath q), r)
          | .error e => .error e
      | none => refuse (t :: r)
    | [] => refuse []

/-- The condition of a filter and the bracket that closes it. -/
def filterCondition : (fuel : Nat) → List Token → Parsed Condition
  | 0, ts => refuse ts
  | k + 1, ts =>
    match disjunction k ts with
    | .ok (c, .closeBracket :: r) => .ok (c, r)
    | .ok (_, r) => refuse r
    | .error e => .error e

/-- The rest of a chain after the link `p`, with operators before it that are not yet applied. -/
def chain : (fuel : Nat) → List (Path × BinaryOp) → Path → List Token → Parsed Path
  | 0, _, _, ts => refuse ts
  | k + 1, pending, p, ts =>
    match ts with
    | .openBracket :: .question :: r =>
      match filterCondition k r with
      | .ok (c, r) => chain k [] (.child (closeAll pending p) (.filter c)) r
      | .error e => .error e
    | .dotDot :: .openBracket :: .question :: r =>
      match filterCondition k r with
      | .ok (c, r) => chain k [] (.descend (closeAll pending p) (.filter c)) r
      | .error e => .error e
    | .openBracket :: r =>
      match bracketStep r with
      | .ok (q, r) => chain k [] (.child (closeAll pending p) q) r
      | .error e => .error e
    | t :: r =>
      match BinaryOp.ofToken? t with
      | some op =>
        let (pending, p) := close op.strength pending p
        match link k r with
        | .ok (q, r) => chain k ((p, op) :: pending) q r
        | .error e => .error e
      | none =>
        if calculationFollows (t :: r) then
          match operation k .any (.ofPath (closeAll pending p)) (t :: r) with
          | .ok (q, r) => chain k [] q r
          | .error e => .error e
        else .ok (closeAll pending p, t :: r)
    | [] => .ok (closeAll pending p, [])

/-- A path. -/
def expression : (fuel : Nat) → List Token → Parsed Path
  | 0, ts => refuse ts
  | k + 1, ts =>
    match link k ts with
    | .ok (p, r) => chain k [] p r
    | .error e => .error e

/-- A path in a condition that starts with the link `p`, and the comparison after it. -/
def comparison : (fuel : Nat) → Path → List Token → Parsed Condition
  | 0, _, ts => refuse ts
  | k + 1, p, ts =>
    match chain k [] p ts with
    | .ok (p, .relation r :: ts) => (comparand ts).map fun s => (.compare r p s.1, s.2)
    | .ok (p, ts) => .ok (.exists p, ts)
    | .error e => .error e

/-- A condition without `and` and `or` outside parentheses. A path in parentheses may go on, and only a
path can be denied. -/
def basic : (fuel : Nat) → List Token → Parsed Condition
  | 0, ts => refuse ts
  | k + 1, ts =>
    match ts with
    | .bang :: r => (expression k r).map fun s => (.not (.exists s.1), s.2)
    | .openParen :: r =>
      match grouped k r with
      | .ok (.exists p, r) => comparison k p r
      | r => r
    | ts =>
      match link k ts with
      | .ok (p, r) => comparison k p r
      | .error e => .error e

/-- A condition up to the parenthesis that closes it. -/
def grouped : (fuel : Nat) → List Token → Parsed Condition
  | 0, ts => refuse ts
  | k + 1, ts =>
    match disjunction k ts with
    | .ok (c, .closeParen :: r) => .ok (c, r)
    | .ok (_, r) => refuse r
    | .error e => .error e

/-- Conditions joined by `and`. -/
def conjunction : (fuel : Nat) → List Token → Parsed Condition
  | 0, ts => refuse ts
  | k + 1, ts =>
    match basic k ts with
    | .ok (c, .ampersand :: r) | .ok (c, .ampersandAmpersand :: r) =>
      (conjunction k r).map fun s => (.and c s.1, s.2)
    | r => r

/-- Conditions joined by `or`. -/
def disjunction : (fuel : Nat) → List Token → Parsed Condition
  | 0, ts => refuse ts
  | k + 1, ts =>
    match conjunction k ts with
    | .ok (c, .barBar :: r) => (disjunction k r).map fun s => (.or c s.1, s.2)
    | r => r

end

/-- The path of the pieces of an expression. No rule of the grammar goes through more than ten others
before it takes a piece. -/
def ofTokens (ts : List Token) : Except Refusal Path :=
  match expression (10 * (ts.length + 1)) ts with
  | .ok (p, []) => .ok p
  | .ok (_, _ :: _) => .error .misplaced
  | .error e => .error e

/-- The path of an expression. -/
def parse (t : Text) : Except Refusal Path :=
  match lex? t with
  | none => .error .misplaced
  | some ts => ofTokens ts

end DeltaBridge.Path
