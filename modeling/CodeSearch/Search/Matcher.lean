import CodeSearch.Error
import CodeSearch.Pattern.Compile
import CodeSearch.Search.Options
import CodeSearch.Text.Lines

/-!
# Matching lines and paths

The compiled form of a query with its path filters, and the lines of a text that match with the lines around
them.
-/

namespace CodeSearch

structure Matcher where
  query : Pattern
  includes : Option Pattern
  excludes : Option Pattern

namespace Matcher

/-- A filter on paths; the empty text is none. -/
def pathFilter (text : String) : Except Failure (Option Pattern) :=
  if text.isEmpty then .ok none
  else
    match Pattern.compile false text.toList with
    | .ok p => .ok (some p)
    | .error e =>
      .error (.invalidQuery ("Invalid file pattern '" ++ text ++ "': " ++ e.message))

def queryText (query : String) (options : SearchOptions) : List Char :=
  if options.literal then Pattern.escape query.toList else query.toList

def compile (query : String) (options : SearchOptions) : Except Failure Matcher := do
  if query.isEmpty then throw (.invalidQuery "Query is empty")
  let q ←
    match Pattern.compile options.ignoreCase (queryText query options) with
    | .ok p => pure p
    | .error e => throw (.invalidQuery ("Invalid query: " ++ e.message))
  return ⟨q, ← pathFilter options.fileRegexp, ← pathFilter options.excludeFileRegexp⟩

def wantsPath (m : Matcher) (path : String) : Bool :=
  m.includes.all (·.isMatch path.toList) && !m.excludes.any (·.isMatch path.toList)

end Matcher

/-- The lines that satisfy `isMatch`, each with at most `context` lines on either side. -/
def matchLines (isMatch : List Char → Bool) (context : Nat) (content : List Char) :
    List LineMatch :=
  let lines := (Text.lineChars content).toArray
  let texts (first last : Nat) : List String := (lines.extract first last).toList.map String.ofList
  lines.toList.zipIdx.filterMap fun (line, i) =>
    if isMatch line then
      some {
        line := String.ofList line
        lineNumber := i + 1
        before := texts (i - context) i
        after := texts (i + 1) (i + 1 + context) }
    else none

end CodeSearch
