import DeltaBridge.Path.Node

/-!
# Searching documents

The nodes that a path describes, in the order of the search, and the conditions of filters.

* `Path.find`: the nodes seen from a current node; `Condition.holds`: the truth of a condition;
* `gather`: the results of a search from each of several nodes.
-/

namespace DeltaBridge

/-- The results from each node in turn; the first error ends the search. -/
def gather {α β ε : Type} (f : α → Except ε (List β)) : List α → Except ε (List β)
  | [] => .ok []
  | n :: ns =>
    match f n with
    | .error e => .error e
    | .ok xs => (gather f ns).map (xs ++ ·)

/-- The items on which a test holds; the first error ends the search. -/
def select {α ε : Type} (f : α → Except ε Bool) : List α → Except ε (List α)
  | [] => .ok []
  | n :: ns =>
    match f n with
    | .error e => .error e
    | .ok b => (select f ns).map fun r => if b then n :: r else r

/-- The results of an operation on pairs of values. One pair that does not allow it leaves none. -/
def Calculation.onPairs (op : Calculation) : List (Value × Value) → Except SearchError (Option (List Value))
  | [] => .ok (some [])
  | (v, w) :: ps =>
    match op.apply v w with
    | .error e => .error e
    | .ok none => .ok none
    | .ok (some x) => (op.onPairs ps).map (·.map (x :: ·))

/-- The values that the two sides of an operation give to it in pairs. A literal goes with each value of
the other side; two paths must have equally many, at least one. -/
def operandPairs : (a b : List Value ⊕ Value) → List (Value × Value)
  | .inl vs, .inl ws => if vs.length = ws.length then vs.zip ws else []
  | .inl vs, .inr w => vs.map (·, w)
  | .inr v, .inl ws => ws.map (v, ·)
  | .inr v, .inr w => [(v, w)]

/-- The comparison of the nodes of a path with the other side. What is missing is equal only to what
is missing. -/
def Relation.holdsOn (r : Relation) (vs : List Value) : List Value ⊕ Value → Bool
  | .inr w => if vs.isEmpty then r == .unequal else vs.any (r.holds · w)
  | .inl ws =>
    match vs.isEmpty, ws.isEmpty with
    | true, true => r.holdsOfNothing
    | false, false => vs.any fun v => ws.any (r.holds v)
    | _, _ => r == .unequal

/-- The length of a list, an object or a text. -/
def Value.size? : Value → Option Nat
  | .list xs => some xs.length
  | .object ms => some ms.length
  | .text t => some t.length
  | _ => none

/-- The names of the members of an object. -/
def Value.keyTexts : Value → List Text
  | .object ms => ms.map (·.1)
  | _ => []

mutual

/-- The nodes that a path describes, seen from the current node `n`. -/
def Path.find (n : Node) : Path → Except SearchError (List Node)
  | .root => .ok [n.root]
  | .current => .ok [n]
  | .parent =>
    match n.parent? with
    | some p => .ok [p]
    | none => .error .noParent
  | .names ks => .ok (ks.filterMap n.member?)
  | .every => .ok n.children
  | .positions is => .ok (is.filterMap n.element?)
  | .slice a b s => .ok (n.slice a b s)
  | .filter c =>
    select (fun m => c.holds (if c.mentionsRoot then m else .fresh m.value)) n.children
  | .size => .ok (n.value.size?.toList.map fun (k : Nat) => .fresh (.int k))
  | .keys => .ok (n.value.keyTexts.map fun k => .fresh (.text k))
  | .child p q =>
    match p.find n with
    | .error e => .error e
    | .ok ns => gather (fun m => q.find m) ns
  | .descend p q =>
    match p.find n with
    | .error e => .error e
    | .ok ns => gather (fun m => q.find m) (ns.flatMap Node.subtree)
  | .union p q =>
    match p.find n with
    | .error e => .error e
    | .ok ns => (q.find n).map (ns ++ ·)
  | .intersect _ _ => .error .unsupported
  | .having p q =>
    match p.find n with
    | .error e => .error e
    | .ok ns => select (fun m => (q.find m).map (!·.isEmpty)) ns
  | .lacking p q =>
    match p.find n with
    | .error e => .error e
    | .ok ns => select (fun m => (q.find m).map (·.isEmpty)) ns
  | .compute op a b =>
    match a.values n with
    | .error e => .error e
    | .ok vs =>
      match b.values n with
      | .error e => .error e
      | .ok ws => (op.onPairs (operandPairs vs ws)).map fun r => (r.getD []).map .fresh

/-- The condition holds on the node `n`. -/
def Condition.holds (n : Node) : Condition → Except SearchError Bool
  | .exists p => (p.find n).map (!·.isEmpty)
  | .not c => (c.holds n).map (!·)
  | .and c d =>
    match c.holds n with
    | .ok true => d.holds n
    | r => r
  | .or c d =>
    match c.holds n with
    | .ok false => d.holds n
    | r => r
  | .compare r p b =>
    match p.find n with
    | .error e => .error e
    | .ok ns => (b.values n).map (r.holdsOn (ns.map Node.value))

/-- The values of the nodes of a path, or the one value of a literal. -/
def Operand.values (n : Node) : Operand → Except SearchError (List Value ⊕ Value)
  | .literal v => .ok (.inr v)
  | .path p => (p.find n).map fun ns => .inl (ns.map Node.value)

end

end DeltaBridge
