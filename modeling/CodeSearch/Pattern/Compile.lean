import CodeSearch.Pattern.Escape
import CodeSearch.Pattern.Meaning
import CodeSearch.Pattern.Size

/-!
# Patterns from text

A pattern text is read, given its meaning and checked for size.
-/

namespace CodeSearch

inductive PatternError where
  | malformed
  | tooLarge
  deriving DecidableEq, Repr

def PatternError.message : PatternError → String
  | .malformed => "regex parse error: the pattern is malformed"
  | .tooLarge => "Compiled regex exceeds size limit of 10485760 bytes."

namespace Pattern

def compile (ignoreCase : Bool) (text : List Char) : Except PatternError Pattern :=
  match (parse? text).bind (Expr.pattern? (Flags.start ignoreCase)) with
  | none => .error .malformed
  | some (p, _) => if p.size ≤ sizeLimit then .ok p else .error .tooLarge

end Pattern

end CodeSearch
