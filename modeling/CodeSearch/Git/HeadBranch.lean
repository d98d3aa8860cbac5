import CodeSearch.Text.Blank
import CodeSearch.Text.Lines

/-!
# The default branch of a remote

Read from what git tells about a remote: the first line that begins with the mark, after blanks, names it.
-/

namespace CodeSearch.Git

def headMark : List Char := "HEAD branch:".toList

def afterMark? (line : List Char) : Option (List Char) :=
  let line := line.dropWhile Text.isBlank
  if headMark.isPrefixOf line then some (line.drop headMark.length) else none

/-- The branch that the output names, unless it is blank. -/
def headBranch? (output : String) : Option String :=
  match (Text.lineChars output.toList).findSome? afterMark? with
  | none => none
  | some name =>
    let name := Text.trimChars name
    if name.isEmpty then none else some (String.ofList name)

end CodeSearch.Git
