import DeltaBridge.Path.Parser
import DeltaBridge.Path.Search

/-!
# Matchers

Selectors are compiled and searched by a library of their own. The extraction asks it for the
expression of a selector and for the nodes that an expression describes, and knows nothing else
about it. A path says how an expression is put together from its parts.

* `Matcher`: such a library; `Matcher.found`: the nodes that the expression of a path describes;
* `Matcher.standard`: the one whose expressions are paths.
-/

namespace DeltaBridge

/-- A library that compiles selectors and searches documents. -/
structure Matcher where
  /-- What selectors are compiled to. -/
  Expression : Type
  /-- The expression of a selector, or why it has none. -/
  compile : Text → Except Path.Refusal Expression
  /-- The expression that is put together like the path. -/
  build : Path → Expression
  /-- The nodes that an expression describes, seen from a current node, in the order in which they are
  found; or why the search stops. -/
  find : Expression → Node → Except SearchError (List Node)

namespace Matcher

/-- The matcher that searches documents for paths. It refuses the selectors that are no paths. -/
@[reducible] def standard : Matcher where
  Expression := Path
  compile := Path.parse
  build p := p
  find p n := p.find n

/-- The nodes that the expression of a path describes; none if the search fails. -/
def found (M : Matcher) (p : Path) (n : Node) : List Node := (M.find (M.build p) n).toOption.getD []

end Matcher

end DeltaBridge
