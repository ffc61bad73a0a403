import DeltaBridge.Value.Order

/-!
# Paths into documents

A path describes nodes of a document, starting from a current node. It is made of steps to
members, elements and parents, of conditions on them, and of a little arithmetic.

* `Path`, `Condition`, `Operand`: paths, the conditions of filters, and what is compared or computed
  with;
* `Condition.mentionsRoot`: a condition looks at the whole document;
* `Calculation`: the arithmetic of two values, with `Calculation.apply`.
-/

namespace DeltaBridge

/-- The arithmetic operations of paths. -/
inductive Calculation where
  | add
  | subtract
  | multiply
  deriving DecidableEq, Repr

mutual

/-- A description of nodes, seen from a current node. -/
inductive Path where
  /-- The root of the document. -/
  | root
  /-- The current node. -/
  | current
  /-- The node that holds the current one. -/
  | parent
  /-- The members with these names, in this order. -/
  | names (ns : List Text)
  /-- All members or elements. -/
  | every
  /-- The elements at these positions, in this order; a negative one counts from the end. -/
  | positions (is : List Int)
  /-- The elements from a position on, up to a position, by steps. -/
  | slice (start stop stride : Option Int)
  /-- The members or elements on which a condition holds. -/
  | filter (c : Condition)
  /-- The length of a list, an object or a text. -/
  | size
  /-- The names of the members. -/
  | keys
  /-- The second path from each node of the first. -/
  | child (p q : Path)
  /-- The second path from each node of the first and from every node below those. -/
  | descend (p q : Path)
  /-- The nodes of the first path, then those of the second. -/
  | union (p q : Path)
  /-- The nodes that both paths describe. Paths can be written so, but not searched. -/
  | intersect (p q : Path)
  /-- The nodes of the first path from which the second describes a node. -/
  | having (p q : Path)
  /-- The nodes of the first path from which the second describes no node. -/
  | lacking (p q : Path)
  /-- The results of an operation. -/
  | compute (op : Calculation) (a b : Operand)

/-- A condition on a node. -/
inductive Condition where
  /-- The path describes a node. -/
  | exists (p : Path)
  | not (c : Condition)
  | and (c d : Condition)
  | or (c d : Condition)
  | compare (r : Relation) (p : Path) (b : Operand)

/-- One side of an operation or a comparison. -/
inductive Operand where
  | literal (v : Value)
  | path (p : Path)

end

instance : Inhabited Path := ⟨.root⟩

/-- The side of an operation that a path makes. A name alone is a text. -/
def Operand.ofPath : Path → Operand
  | .names [t] => .literal (.text t)
  | p => .path p

mutual

/-- The path goes back to the root of the document. -/
def Path.mentionsRoot : Path → Bool
  | .root => true
  | .current | .parent | .names _ | .every | .positions _ | .slice .. | .size | .keys => false
  | .filter c => c.mentionsRoot
  | .child p q | .descend p q | .union p q | .intersect p q | .having p q | .lacking p q =>
    p.mentionsRoot || q.mentionsRoot
  | .compute _ a b => a.mentionsRoot || b.mentionsRoot

/-- A path in the condition goes back to the root of the document. -/
def Condition.mentionsRoot : Condition → Bool
  | .exists p => p.mentionsRoot
  | .not c => c.mentionsRoot
  | .and c d | .or c d => c.mentionsRoot || d.mentionsRoot
  | .compare _ p b => p.mentionsRoot || b.mentionsRoot

/-- The operand is a path that goes back to the root of the document. -/
def Operand.mentionsRoot : Operand → Bool
  | .literal _ => false
  | .path p => p.mentionsRoot

end

/-! ## Arithmetic -/

/-- Why a search stops. -/
inductive SearchError where
  /-- The node that holds the root is asked for. -/
  | noParent
  /-- The nodes that two paths have in common are asked for. -/
  | unsupported
  /-- An integer is too large to be combined with a double. -/
  | integerTooLarge
  /-- Any other reason that a matcher has. -/
  | other (reason : Text)
  deriving DecidableEq, Repr

/-- The reason in words. -/
def SearchError.message : SearchError → Text
  | noParent => []
  | unsupported => []
  | integerTooLarge => "int too large to convert to float"
  | other reason => reason

namespace Calculation

/-- The operation on integers. -/
def onInts : Calculation → Int → Int → Int
  | add => (· + ·)
  | subtract => (· - ·)
  | multiply => (· * ·)

/-- The operation on doubles. -/
def onFloats : Calculation → Float → Float → Float
  | add => (· + ·)
  | subtract => (· - ·)
  | multiply => (· * ·)

/-- A value that counts as an integer; truth values count as one and zero. -/
def integer? : Value → Option Int
  | .int n => some n
  | .bool b => some (if b then 1 else 0)
  | _ => none

/-- A value that counts as a double, unless it is an integer beyond the doubles. -/
def float? : Value → Except SearchError (Option Float)
  | .float x => .ok (some x)
  | v =>
    match integer? v with
    | some n => if (Float.ofInt n).isFinite then .ok (some (Float.ofInt n)) else .error .integerTooLarge
    | none => .ok none

/-- The value counts as a number. -/
def isNumber : Value → Bool
  | .float _ | .int _ | .bool _ => true
  | _ => false

/-- So many copies of a list, one after the other; none for a negative number. -/
def repeated {α : Type} (n : Int) (xs : List α) : List α := (List.replicate n.toNat xs).flatten

/-- The result of an operation; `none` if the values do not allow it. Texts and lists can be added to
their like, and repeated. -/
def apply (op : Calculation) (v w : Value) : Except SearchError (Option Value) :=
  match op, v, w with
  | add, .text s, .text t => .ok (some (.text (s ++ t)))
  | add, .list xs, .list ys => .ok (some (.list (xs ++ ys)))
  | _, _, _ =>
    match integer? v, integer? w with
    | some m, some n => .ok (some (.int (op.onInts m n)))
    | _, _ =>
      match op, v, integer? v, w, integer? w with
      | multiply, .text s, _, _, some n => .ok (some (.text (repeated n s)))
      | multiply, .list xs, _, _, some n => .ok (some (.list (repeated n xs)))
      | multiply, _, some n, .text s, _ => .ok (some (.text (repeated n s)))
      | multiply, _, some n, .list xs, _ => .ok (some (.list (repeated n xs)))
      | _, _, _, _, _ =>
        match isNumber v && isNumber w with
        | true => do
          let a ← float? v
          let b ← float? w
          return a.bind fun x => b.map fun y => .float (op.onFloats x y)
        | false => .ok none

end Calculation

end DeltaBridge
