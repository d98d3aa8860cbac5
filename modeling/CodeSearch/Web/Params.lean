import CodeSearch.Access
import CodeSearch.Search.Options
import CodeSearch.Text.Digits
import CodeSearch.Url.Form

/-!
# Request parameters

The parameters of service calls. A value that cannot be read never fails a request but stands for a default;
only a repeated parameter does.
-/

namespace CodeSearch.Params

open Text

def lowerAscii (s : String) : String := String.ofList (s.toList.map Charset.asciiLower)

/-- Three words mean yes, in any case. -/
def isTrue (value : String) : Bool := ["true", "1", "fosho"].contains (lowerAscii value)

def halfRange (cs : List Char) : Nat := ((wordOfBits? 64 cs).map UInt64.toNat).getD 0

def parseRange (value : String) : Nat × Nat :=
  let cs := value.toList
  let offset := cs.takeWhile (· != ':')
  match cs.drop offset.length with
  | [] => (0, 0)
  | _ :: limit => (halfRange offset, halfRange limit)

def contextBits : UInt64 := 54

/-- Lines of context, at most as many as are allowed. -/
def parseContext (value : String) : Nat :=
  match wordOfBits? contextBits value.toList with
  | some n => min n.toNat maxContext
  | none => defaultContext

theorem parseContext_le (value : String) : parseContext value ≤ maxContext := by
  unfold parseContext
  split
  · exact Nat.min_le_right _ _
  · decide

structure SearchParams where
  q : String
  repos : String
  files : String
  excludeFiles : String
  ignoreCase : String
  literal : String
  context : String
  range : String
  stats : String

namespace SearchParams

def ofQuery (query : Bytes) : Except Unit SearchParams := do
  let fields := Form.decode query
  let get (name : String) : Except Unit String := return (← Form.single fields name).getD ""
  return {
    q := ← get "q"
    repos := ← get "repos"
    files := ← get "files"
    excludeFiles := ← get "excludeFiles"
    ignoreCase := ← get "i"
    literal := ← get "literal"
    context := ← get "ctx"
    range := ← get "rng"
    stats := ← get "stats" }

def selection (p : SearchParams) : RepoSelection := .parse p.repos

def wantsStats (p : SearchParams) : Bool := isTrue p.stats

def options (p : SearchParams) : SearchOptions :=
  let (offset, limit) := parseRange p.range
  { ignoreCase := isTrue p.ignoreCase
    literal := isTrue p.literal
    fileRegexp := p.files
    excludeFileRegexp := p.excludeFiles
    linesOfContext := parseContext p.context
    offset := offset
    limit := limit }

end SearchParams

end CodeSearch.Params
