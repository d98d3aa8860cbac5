/-!
# Search requests and answers
-/

namespace CodeSearch

def defaultContext : Nat := 2

def maxContext : Nat := 20

structure SearchOptions where
  ignoreCase : Bool
  /-- The query is literal text and no pattern. -/
  literal : Bool
  /-- Only files whose path matches are searched; empty for all. -/
  fileRegexp : String
  /-- Files whose path matches are not searched; empty for none. -/
  excludeFileRegexp : String
  linesOfContext : Nat
  /-- How many matching files are passed over. -/
  offset : Nat
  /-- How many matching files are answered at most; 0 for all. -/
  limit : Nat
  deriving DecidableEq, Repr

def SearchOptions.default : SearchOptions := ⟨false, false, "", "", defaultContext, 0, 0⟩

/-- A line that matches, numbered from 1, with the lines around it. -/
structure LineMatch where
  line : String
  lineNumber : Nat
  before : List String
  after : List String
  deriving DecidableEq, Repr

structure FileMatch where
  filename : String
  matched : List LineMatch
  deriving DecidableEq, Repr

structure SearchResponse where
  matched : List FileMatch
  /-- Matching files before any are passed over. -/
  filesWithMatch : Nat
  filesOpened : Nat
  revision : String
  deriving DecidableEq, Repr

structure ExcludedFile where
  filename : String
  reason : String
  deriving DecidableEq, Repr

end CodeSearch
