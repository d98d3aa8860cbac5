/-!
# Paths

Paths as text. A path is read as segments between slashes; empty segments and single dots, the leading dot
of a relative path apart, do not count. `join` and `parent?` keep the text as it was written.
-/

namespace CodeSearch.Path

def isAbsolute (path : String) : Bool := path.toList.head? == some '/'

/-- `path` seen from the directory `base`: an absolute one stands alone. -/
def join (base path : String) : String :=
  if isAbsolute path || base.isEmpty then path
  else if base.toList.getLast? == some '/' then base ++ path
  else base ++ "/" ++ path

/-- The root slash or the leading dot, and the rest. -/
def front (cs : List Char) : List Char × List Char :=
  match cs with
  | '/' :: rest => (['/'], rest)
  | ['.'] => (['.'], [])
  | '.' :: '/' :: rest => (['.'], '/' :: rest)
  | _ => ([], cs)

def segments (cs : List Char) : List (List Char) := cs.splitOnP (· == '/')

def isIdle (segment : List Char) : Bool := segment.isEmpty || segment == ['.']

/-- Drops what does not count from the end. -/
def dropIdleEnd (segs : List (List Char)) : List (List Char) :=
  (segs.reverse.dropWhile isIdle).reverse

def body (cs : List Char) : List (List Char) := dropIdleEnd (segments cs)

def ofSegments (front : List Char) (segs : List (List Char)) : String :=
  String.ofList (front ++ List.intercalate ['/'] segs)

/-- The path without its last segment; the root and the empty path have none. -/
def parent? (path : String) : Option String :=
  let (head, rest) := front path.toList
  let segs := body rest
  if segs.isEmpty then
    if head == ['.'] then some "" else none
  else some (ofSegments head (dropIdleEnd segs.dropLast))

/-- The last segment, if it is a name. -/
def fileName? (path : String) : Option String :=
  match (body (front path.toList).2).getLast? with
  | none => none
  | some segment => if segment == ['.', '.'] then none else some (String.ofList segment)

/-- What stands after the last dot of the file name; a name that only begins with a dot has none. -/
def extension? (path : String) : Option String :=
  match fileName? path with
  | none => none
  | some name =>
    let back := name.toList.reverse
    let ext := back.takeWhile (· != '.')
    match back.drop ext.length with
    | _ :: _ :: _ => some (String.ofList ext.reverse)
    | _ => none

end CodeSearch.Path
