import DeltaBridge.Path.Basic

/-!
# Nodes of documents

A node is a value together with the way to it from the root: each step with the container in which
it was taken, nearest first.

* `Node.root`, `Node.parent?`: the ends of the way; `Node.isInText`: it ends in a text;
* `Node.children`: the nodes one step below, in document order;
* `Node.subtree`: a node and all nodes below it, in document order, `subtree_eq`;
* `Node.member?`, `Node.element?`, `Node.slice`: the nodes that a step leads to.
-/

namespace DeltaBridge

/-- One step down a document. -/
inductive Step where
  | member (name : Text)
  | element (position : Nat)
  deriving DecidableEq, Repr

/-- A value in its place. -/
structure Node where
  value : Value
  /-- The steps that led here with the containers they were taken in, nearest first. -/
  trail : List (Step × Value)

namespace Node

/-- A value in no document but its own. -/
def fresh (v : Value) : Node := ⟨v, []⟩

/-- The node one step below. -/
def below (n : Node) (s : Step) (v : Value) : Node := ⟨v, (s, n.value) :: n.trail⟩

/-- The node that holds this one. -/
def parent? (n : Node) : Option Node :=
  match n.trail with
  | [] => none
  | (_, v) :: t => some ⟨v, t⟩

/-- The node is a part of a text. -/
def isInText (n : Node) : Bool :=
  match n.parent? with
  | some ⟨.text _, _⟩ => true
  | _ => false

/-- The root of the document. -/
def root (n : Node) : Node :=
  match n.trail.getLast? with
  | none => n
  | some (_, v) => fresh v

/-- The steps from the root to the node. -/
def location (n : Node) : List Step := (n.trail.map Prod.fst).reverse

/-- The elements of a list from position `i` on as nodes. -/
def elementNodes (n : Node) : (i : Nat) → List Value → List Node
  | _, [] => []
  | i, x :: xs => n.below (.element i) x :: elementNodes n (i + 1) xs

/-- The members of an object as nodes. -/
def memberNodes (n : Node) (ms : List (Text × Value)) : List Node :=
  ms.map fun m => n.below (.member m.1) m.2

/-- The nodes one step below, in document order. -/
def children (n : Node) : List Node :=
  match n.value with
  | .list xs => n.elementNodes 0 xs
  | .object ms => n.memberNodes ms
  | _ => []

mutual

/-- A value at the end of a trail and all nodes below it, in document order. -/
def subtreeOf (trail : List (Step × Value)) : Value → List Node
  | .list xs => ⟨.list xs, trail⟩ :: subtreeItems trail (.list xs) 0 xs
  | .object ms => ⟨.object ms, trail⟩ :: subtreeMembers trail (.object ms) ms
  | v => [⟨v, trail⟩]

/-- The nodes at and below the elements of `whole` from position `i` on. -/
def subtreeItems (trail : List (Step × Value)) (whole : Value) (i : Nat) : List Value → List Node
  | [] => []
  | x :: xs => subtreeOf ((.element i, whole) :: trail) x ++ subtreeItems trail whole (i + 1) xs

/-- The nodes at and below the members of `whole`. -/
def subtreeMembers (trail : List (Step × Value)) (whole : Value) : List (Text × Value) → List Node
  | [] => []
  | (k, v) :: ms => subtreeOf ((.member k, whole) :: trail) v ++ subtreeMembers trail whole ms

end

/-- The node and all nodes below it, in document order. -/
def subtree (n : Node) : List Node := subtreeOf n.trail n.value

theorem subtreeItems_eq (n : Node) (i : Nat) (xs : List Value) :
    subtreeItems n.trail n.value i xs = (n.elementNodes i xs).flatMap subtree := by
  induction xs generalizing i with
  | nil => rfl
  | cons x xs ih => rw [subtreeItems, ih]; rfl

theorem subtreeMembers_eq (n : Node) (ms : List (Text × Value)) :
    subtreeMembers n.trail n.value ms = (n.memberNodes ms).flatMap subtree := by
  induction ms with
  | nil => rfl
  | cons m ms ih => obtain ⟨k, v⟩ := m; rw [subtreeMembers, ih]; rfl

/-- A node comes before all that is below it, and its children come in their order. -/
theorem subtree_eq (n : Node) : n.subtree = n :: n.children.flatMap subtree := by
  obtain ⟨v, t⟩ := n
  cases v with
  | list xs =>
    show subtreeOf t (.list xs) = _
    rw [subtreeOf, show subtreeItems t (.list xs) 0 xs = _ from subtreeItems_eq ⟨.list xs, t⟩ 0 xs]
    rfl
  | object ms =>
    show subtreeOf t (.object ms) = _
    rw [subtreeOf, show subtreeMembers t (.object ms) ms = _ from subtreeMembers_eq ⟨.object ms, t⟩ ms]
    rfl
  | _ => simp [subtree, subtreeOf, children]

/-! ## Single steps -/

/-- The member with a name. -/
def member? (n : Node) (k : Text) : Option Node :=
  match n.value with
  | .object ms => (Members.get? k ms).map (n.below (.member k))
  | _ => none

/-- The element at a position, counted from the end if it is negative. -/
def element? (n : Node) (i : Int) : Option Node :=
  match n.value with
  | .list xs =>
    let j := if i < 0 then i + xs.length else i
    if j < 0 then none else xs[j.toNat]?.map (n.below (.element j.toNat))
  | _ => none

end Node

/-! ## Slices -/

/-- An end of a slice of a list of length `len`, kept between `low` and `high`; a negative one counts
from the end of the list. -/
def clampEnd (len low high i : Int) : Int := max low (min high (if i < 0 then i + len else i))

/-- The positions of the slice of a list of length `len`, in the order of the slice. A stride of zero
takes none, a negative one goes backwards. -/
def slicePositions (len : Nat) (start stop stride : Option Int) : List Nat :=
  let s := stride.getD 1
  let (low, high) : Int × Int := if s < 0 then (-1, (len : Int) - 1) else (0, len)
  let a := (start.map (clampEnd len low high)).getD (if s < 0 then high else low)
  let b := (stop.map (clampEnd len low high)).getD (if s < 0 then low else high)
  let count : Nat :=
    if s < 0 then ((a - b + (-s) - 1) / (-s)).toNat
    else if s = 0 then 0
    else ((b - a + s - 1) / s).toNat
  (List.range count).map fun (k : Nat) => (a + k * s).toNat

/-- The elements of a slice. -/
def Node.slice (n : Node) (start stop stride : Option Int) : List Node :=
  match n.value with
  | .list xs => (slicePositions xs.length start stop stride).filterMap fun (i : Nat) => n.element? i
  | _ => []

end DeltaBridge
