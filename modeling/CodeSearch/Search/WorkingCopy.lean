import CodeSearch.Access
import CodeSearch.Search.Matcher
import CodeSearch.Search.Walk
import CodeSearch.Text.Quoted

/-!
# Searching a working copy

A search walks the working copy and matches line by line. Files with a leading dot (on request), over the
size limit or binary are left out and reported as excluded.
-/

namespace CodeSearch

open Files

/-- The searcher of one working copy. -/
structure WorkingCopy where
  root : String
  special : List String
  excludeDotFiles : Bool
  maxFileSize : Nat
  /-- The revision of the last synchronization. -/
  revision : String

inductive Exclusion where
  | dotFile | tooLarge | binary
  deriving DecidableEq, Repr

def Exclusion.reason : Exclusion → String
  | .dotFile => "Dot files are excluded"
  | .tooLarge => "File size exceeds maximum"
  | .binary => "Binary file"

def binarySniff : Nat := 8000

def isBinary (content : Bytes) : Bool := (content.take binarySniff).contains 0

/-- The response with one more matching file. The file is answered if it lies on the page: behind those that
are passed over and, unless the limit is 0, before the page is full. -/
def SearchResponse.add (r : SearchResponse) (options : SearchOptions) (found : FileMatch) : SearchResponse :=
  let filesWithMatch := r.filesWithMatch + 1
  { r with
    matched :=
      if options.offset < filesWithMatch ∧ (options.limit = 0 ∨ r.matched.length < options.limit) then
        r.matched ++ [found]
      else r.matched
    filesWithMatch := filesWithMatch }

namespace WorkingCopy

def rules (w : WorkingCopy) : WalkRules := ⟨w.special, w.excludeDotFiles⟩

def tree? (w : WorkingCopy) (disk : Disk) : Except Failure Tree :=
  match disk.look (Utf8.encode w.root) with
  | .ok (.dir entries) => .ok (.dir entries)
  | _ => .error (.searchFailed ("Working copy " ++ Text.quotedPath w.root ++ " is missing"))

/-- Why a file is left out before it is read. -/
def skipReason (w : WorkingCopy) (f : Walked) : Option Exclusion :=
  if w.excludeDotFiles && (f.names.getLast?.any beginsWithDot) then some .dotFile
  else if w.maxFileSize < f.content.length then some .tooLarge
  else none

/-- Why a file is never searched. -/
def exclusion (w : WorkingCopy) (f : Walked) : Option Exclusion :=
  match w.skipReason f with
  | some e => some e
  | none => if isBinary f.content then some .binary else none

def fileMatch? (m : Matcher) (context : Nat) (f : Walked) : Option FileMatch :=
  if isBinary f.content then none
  else
    match matchLines m.query.isMatch context (Utf8.lossyChars f.content) with
    | [] => none
    | found => some ⟨f.path, found⟩

def visit (w : WorkingCopy) (m : Matcher) (options : SearchOptions) (r : SearchResponse) (f : Walked) :
    SearchResponse :=
  if (w.skipReason f).isSome || !m.wantsPath f.path then r
  else
    let r := { r with filesOpened := r.filesOpened + 1 }
    match fileMatch? m options.linesOfContext f with
    | none => r
    | some found => r.add options found

def searchTree (w : WorkingCopy) (m : Matcher) (options : SearchOptions) (t : Tree) : SearchResponse :=
  (walkTree w.rules true t).foldl (w.visit m options) ⟨[], 0, 0, w.revision⟩

def search (w : WorkingCopy) (disk : Disk) (query : String) (options : SearchOptions) :
    Except Failure SearchResponse := do
  let m ← Matcher.compile query options
  let t ← w.tree? disk
  return w.searchTree m options t

/-- The files that no search reports, in the order of the walk. -/
def excludedTree (w : WorkingCopy) (t : Tree) : List ExcludedFile :=
  (walkTree w.rules true t).filterMap fun f =>
    (w.exclusion f).map fun e => ⟨f.path, e.reason⟩

def excludedFiles (w : WorkingCopy) (disk : Disk) : Except Failure (List ExcludedFile) := do
  return w.excludedTree (← w.tree? disk)

def refresh (w : WorkingCopy) (revision : String) : WorkingCopy := { w with revision := revision }

end WorkingCopy

/-- Has a repository searched at a revision from now on. -/
def Registry.refresh (registry : Registry WorkingCopy) (name revision : String) : Registry WorkingCopy :=
  registry.map fun n r => if n = name then { r with searcher := r.searcher.refresh revision } else r

end CodeSearch
