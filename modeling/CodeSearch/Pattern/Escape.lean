import CodeSearch.Pattern.Parser

/-!
# Literal text as a pattern

A pattern that takes a given text and nothing else.
-/

namespace CodeSearch.Pattern

/-- Puts a backslash before every character with a meaning of its own. -/
def escape (cs : List Char) : List Char :=
  cs.flatMap fun c => if isMeta c then ['\\', c] else [c]

end CodeSearch.Pattern
