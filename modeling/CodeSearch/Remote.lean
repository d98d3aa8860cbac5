import CodeSearch.Text.Utf8

/-!
# The world outside

Requests to other services and what they answer.
-/

namespace CodeSearch

structure OutRequest where
  method : String
  url : String
  authorization : Option String
  body : String
  deriving DecidableEq, Repr

inductive OutReply where
  /-- No answer came. -/
  | unreachable (reason : String)
  /-- `link` is the header that names further pages. -/
  | answered (status : Nat) (link : Option Bytes) (body : Bytes)
  deriving DecidableEq, Repr

/-- What the outside answers to each request. -/
abbrev Remote := OutRequest → OutReply

def Remote.offline : Remote := fun _ => .unreachable "network is unreachable"

end CodeSearch
